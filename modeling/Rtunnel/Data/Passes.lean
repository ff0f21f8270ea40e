import Mathlib.Data.List.Basic

namespace Rtunnel.Data

/-! Passes over a queue that put work back.

A pass takes the writes of a queue from the front and tries each.  A try may put
writes back in front: what is left of a write when the pass has to stop, or the
pieces of one that is too large to be taken.  If pieces are never cut again, a
pass handles the queue write by write, each with its pieces right behind it, and
needs a bounded number of tries.
-/

universe u v w x

/-- A try of a write: the next state, what goes back in front of the queue, and
the result of the pass if it ends here. -/
structure Worker (State : Type u) (Write : Type v) (Answer : Type w) (Result : Type x) where
  attempt : State → Write → Answer → State × List Write × Option Result

namespace Worker

variable {State : Type u} {Write : Type v} {Answer : Type w} {Result : Type x}
variable (worker : Worker State Write Answer Result) (finished : Result)

/-- The loop, one answer for each try; it does not ask again once it has ended. -/
def loop : State → List Write → List Answer → State × List Write × Result
  | state, queue, [] => (state, queue, finished)
  | state, [], _ :: _ => (state, [], finished)
  | state, write :: rest, answer :: answers =>
      match worker.attempt state write answer with
      | (state, front, none) => loop state (front ++ rest) answers
      | (state, front, some result) => (state, front ++ rest, result)

section Outcomes

variable {worker finished} {state after : State} {write : Write} {rest front : List Write}
  {answer : Answer} {answers : List Answer} {result : Result}

theorem loop_nil (state : State) (answers : List Answer) :
    worker.loop finished state [] answers = (state, [], finished) := by
  cases answers <;> rfl

theorem loop_proceed (tried : worker.attempt state write answer = (after, front, none)) :
    worker.loop finished state (write :: rest) (answer :: answers) =
      worker.loop finished after (front ++ rest) answers := by
  rw [loop, tried]

theorem loop_stop (tried : worker.attempt state write answer = (after, front, some result)) :
    worker.loop finished state (write :: rest) (answer :: answers) =
      (after, front ++ rest, result) := by
  rw [loop, tried]

end Outcomes

/-- A loop on states that hold their queue.  A try does not look at the writes
behind the one that is tried, so the worker tries it with nothing behind. -/
structure Drains (queue : State → List Write) (withQueue : State → List Write → State)
    (perform : State → Write → Answer → State × Option Result)
    (drain : State → List Answer → State × Result) : Prop where
  restored : ∀ state, withQueue state (queue state) = state
  queued : ∀ state writes, queue (withQueue state writes) = writes
  replaced : ∀ state writes others,
    withQueue (withQueue state writes) others = withQueue state others
  attempt_eq : ∀ state write answer, worker.attempt state write answer =
    (withQueue (perform (withQueue state []) write answer).1 [],
      queue (perform (withQueue state []) write answer).1,
      (perform (withQueue state []) write answer).2)
  behind : ∀ state rest write answer,
    perform (withQueue state (queue state ++ rest)) write answer =
      (withQueue (perform state write answer).1 (queue (perform state write answer).1 ++ rest),
        (perform state write answer).2)
  idle : ∀ state answers, answers = [] ∨ queue state = [] →
    drain state answers = (state, finished)
  turn : ∀ state write rest answer answers, queue state = write :: rest →
    drain state (answer :: answers) =
      (perform (withQueue state rest) write answer).2.elim
        (drain (perform (withQueue state rest) write answer).1 answers) fun result =>
          ((perform (withQueue state rest) write answer).1, result)

/-- Such a loop is the worker's loop. -/
theorem Drains.drain_eq {worker : Worker State Write Answer Result} {finished : Result}
    {queue : State → List Write} {withQueue : State → List Write → State}
    {perform : State → Write → Answer → State × Option Result}
    {drain : State → List Answer → State × Result}
    (drains : worker.Drains finished queue withQueue perform drain) (state : State)
    (answers : List Answer) {final : State} {left : List Write} {result : Result}
    (ran : worker.loop finished (withQueue state []) (queue state) answers =
      (final, left, result)) :
    drain state answers = (withQueue final left, result) := by
  induction answers generalizing state with
  | nil =>
      rw [loop] at ran
      cases ran
      rw [drains.idle state [] (.inl rfl), drains.replaced, drains.restored]
  | cons answer answers ih =>
      cases held : queue state with
      | nil =>
          rw [held, loop_nil] at ran
          cases ran
          rw [drains.idle state _ (.inr held), drains.replaced, ← held, drains.restored]
      | cons write rest =>
          have alone := drains.behind (withQueue state []) rest write answer
          rw [drains.replaced, drains.queued, List.nil_append] at alone
          have tried := drains.attempt_eq (withQueue state []) write answer
          rw [drains.replaced] at tried
          rw [drains.turn state write rest answer answers held, alone]
          rw [held] at ran
          rcases performed : perform (withQueue state []) write answer with ⟨after, ending⟩
          rw [performed] at tried
          cases ending with
          | none =>
              rw [loop_proceed tried] at ran
              refine ih (withQueue after (queue after ++ rest)) ?_
              rw [drains.replaced, drains.queued]
              exact ran
          | some ending =>
              rw [loop_stop tried] at ran
              cases ran
              rw [drains.replaced]
              rfl

variable (large : Write → Prop) (cut : Write → List Write) (ask : Nat → Write → Answer)

/-- The pieces of a write, tried one behind the other: each is taken, or it is
put back with the pieces behind it and the pass ends. -/
inductive Pieces : Nat → State → List Write → List (Write × Answer) → State → List Write →
    Option Result → Prop
  | done (time : Nat) (state : State) : Pieces time state [] [] state [] none
  | taken {time : Nat} {state after final : State} {piece : Write} {pieces left : List Write}
      {trace : List (Write × Answer)} {ending : Option Result} (small : ¬ large piece)
      (tried : worker.attempt state piece (ask time piece) = (after, [], none))
      (later : Pieces (time + 1) after pieces trace final left ending) :
      Pieces time state (piece :: pieces) ((piece, ask time piece) :: trace) final left ending
  | held {time : Nat} {state after : State} {piece : Write} {pieces : List Write}
      (small : ¬ large piece)
      (tried : worker.attempt state piece (ask time piece) = (after, [piece], some finished)) :
      Pieces time state (piece :: pieces) [(piece, ask time piece)] after (piece :: pieces)
        (some finished)

/-- One write of the queue: it is done with at one try, it ends the pass, or it is
large and its pieces follow at once.  A large write without pieces is dropped. -/
inductive Handled : Nat → State → Write → List (Write × Answer) → State → List Write →
    Option Result → Prop
  | atOnce {time : Nat} {state after : State} {write : Write} (small : ¬ large write)
      (tried : worker.attempt state write (ask time write) = (after, [], none)) :
      Handled time state write [(write, ask time write)] after [] none
  | stopped {time : Nat} {state after : State} {write : Write} {left : List Write}
      {result : Result} (small : ¬ large write)
      (tried : worker.attempt state write (ask time write) = (after, left, some result)) :
      Handled time state write [(write, ask time write)] after left (some result)
  | split {time : Nat} {state opened after : State} {write : Write} {left : List Write}
      {trace : List (Write × Answer)} {ending : Option Result} (oversized : large write)
      (tried : worker.attempt state write (ask time write) = (opened, cut write, none))
      (pieces : worker.Pieces finished large ask (time + 1) opened (cut write) trace after left
        ending) :
      Handled time state write ((write, ask time write) :: trace) after left ending

/-- The whole pass: write by write, up to the first that ends it; what that one
leaves stays in front of the writes behind it. -/
inductive Pass : Nat → State → List Write → List (Write × Answer) → State → List Write →
    Result → Prop
  | empty (time : Nat) (state : State) : Pass time state [] [] state [] finished
  | next {time : Nat} {state after final : State} {write : Write} {rest left : List Write}
      {trace later : List (Write × Answer)} {result : Result}
      (handled : worker.Handled finished large cut ask time state write trace after [] none)
      (others : Pass (time + trace.length) after rest later final left result) :
      Pass time state (write :: rest) (trace ++ later) final left result
  | stopped {time : Nat} {state after : State} {write : Write} {rest left : List Write}
      {trace : List (Write × Answer)} {result : Result}
      (handled : worker.Handled finished large cut ask time state write trace after left
        (some result)) :
      Pass time state (write :: rest) trace after (left ++ rest) result

section Passes

variable {worker finished large cut ask} {time : Nat} {state final : State} {write : Write}
  {queue left : List Write} {trace : List (Write × Answer)} {ending : Option Result}
  {result : Result}

theorem Pieces.left_eq_nil
    (tried : worker.Pieces finished large ask time state queue trace final left none) :
    left = [] := by
  generalize same : (none : Option Result) = ending at tried
  induction tried with
  | done => rfl
  | taken _ _ _ ih => exact ih same
  | held => cases same

theorem Pieces.loop_eq
    (tried : worker.Pieces finished large ask time state queue trace final left ending)
    (rest : List Write) (more : List Answer) :
    (ending = none → worker.loop finished state (queue ++ rest) (trace.map Prod.snd ++ more) =
      worker.loop finished final rest more) ∧
    ∀ result, ending = some result →
      worker.loop finished state (queue ++ rest) (trace.map Prod.snd ++ more) =
        (final, left ++ rest, result) := by
  induction tried with
  | done =>
      refine ⟨fun _ => rfl, fun result absent => ?_⟩
      cases absent
  | taken small tried later ih =>
      rw [List.map_cons, List.cons_append, List.cons_append, loop_proceed tried]
      exact ih
  | held small tried =>
      refine ⟨fun absent => ?_, fun result same => ?_⟩
      · cases absent
      · cases same
        rw [List.cons_append, List.map_cons, List.cons_append, loop_stop tried]
        rfl

theorem Handled.loop_eq
    (handled : worker.Handled finished large cut ask time state write trace final left ending)
    (rest : List Write) (more : List Answer) :
    (ending = none → worker.loop finished state (write :: rest) (trace.map Prod.snd ++ more) =
      worker.loop finished final rest more) ∧
    ∀ result, ending = some result →
      worker.loop finished state (write :: rest) (trace.map Prod.snd ++ more) =
        (final, left ++ rest, result) := by
  cases handled with
  | atOnce small tried =>
      refine ⟨fun _ => ?_, fun result absent => ?_⟩
      · rw [List.map_cons, List.cons_append, loop_proceed tried]
        rfl
      · cases absent
  | stopped small tried =>
      refine ⟨fun absent => ?_, fun result same => ?_⟩
      · cases absent
      · cases same
        rw [List.map_cons, List.cons_append, loop_stop tried]
  | split oversized tried pieces =>
      rw [List.map_cons, List.cons_append, loop_proceed tried]
      exact pieces.loop_eq rest more

/-- The loop takes the tries of the pass and has ended: it asks for no more. -/
theorem Pass.loop_eq
    (pass : worker.Pass finished large cut ask time state queue trace final left result)
    (more : List Answer) :
    worker.loop finished state queue (trace.map Prod.snd ++ more) = (final, left, result) := by
  induction pass with
  | empty => exact loop_nil _ _
  | next handled others ih =>
      rw [List.map_append, List.append_assoc, (handled.loop_eq _ _).1 rfl]
      exact ih
  | stopped handled => exact (handled.loop_eq _ more).2 _ rfl

theorem Pieces.small_tries
    (tried : worker.Pieces finished large ask time state queue trace final left ending) :
    ∀ entry ∈ trace, ¬ large entry.1 := by
  induction tried with
  | done => exact fun _ absent => absurd absent List.not_mem_nil
  | taken small _ _ ih => exact List.forall_mem_cons.mpr ⟨small, ih⟩
  | held small _ => exact List.forall_mem_singleton.mpr small

theorem Handled.countP_le [DecidablePred large]
    (handled : worker.Handled finished large cut ask time state write trace final left ending) :
    trace.countP (fun entry => large entry.1) ≤ 1 := by
  cases handled with
  | atOnce small _ => simp [small]
  | stopped small _ => simp [small]
  | split oversized _ pieces =>
      have none := List.countP_eq_zero.mpr fun entry member =>
        (decide_eq_true_iff (p := large entry.1)).not.mpr (pieces.small_tries entry member)
      rw [List.countP_cons, none]
      split <;> omega

/-- No write of the queue is cut more than once, and no piece is cut. -/
theorem Pass.countP_le [DecidablePred large]
    (pass : worker.Pass finished large cut ask time state queue trace final left result) :
    trace.countP (fun entry => large entry.1) ≤ queue.length := by
  induction pass with
  | empty => exact Nat.le_refl _
  | next handled _ ih =>
      have one := handled.countP_le
      rw [List.countP_append, List.length_cons]
      omega
  | stopped handled =>
      have one := handled.countP_le
      rw [List.length_cons]
      omega

end Passes

/-- What makes a pass end: small writes are done with or end the pass, large ones
are cut into few pieces, and pieces are small and put back as they are. -/
structure Cuts (allowed : Write → Answer → Prop) (bound : Nat) : Prop where
  small : ∀ state write answer, ¬ large write → allowed write answer →
    (∃ after, worker.attempt state write answer = (after, [], none)) ∨
      ∃ after left result, worker.attempt state write answer = (after, left, some result)
  split : ∀ state write answer, large write → allowed write answer →
    ∃ after, worker.attempt state write answer = (after, cut write, none)
  pieces : ∀ write, large write → ∀ piece ∈ cut write, ¬ large piece ∧
    ∀ state answer, allowed piece answer →
      (∃ after, worker.attempt state piece answer = (after, [], none)) ∨
        ∃ after, worker.attempt state piece answer = (after, [piece], some finished)
  few : ∀ write, large write → (cut write).length ≤ bound

namespace Cuts

variable {worker finished large cut ask} {allowed : Write → Answer → Prop} {bound : Nat}

theorem exists_pieces (obeys : ∀ time write, allowed write (ask time write))
    {pieces : List Write} (tame : ∀ piece ∈ pieces, ¬ large piece ∧
      ∀ state answer, allowed piece answer →
        (∃ after, worker.attempt state piece answer = (after, [], none)) ∨
          ∃ after, worker.attempt state piece answer = (after, [piece], some finished))
    (time : Nat) (state : State) :
    ∃ trace final left ending,
      worker.Pieces finished large ask time state pieces trace final left ending ∧
        trace.length ≤ pieces.length := by
  induction pieces generalizing time state with
  | nil => exact ⟨[], state, [], none, .done time state, Nat.le_refl _⟩
  | cons piece pieces ih =>
      obtain ⟨⟨small, outcome⟩, others⟩ := List.forall_mem_cons.mp tame
      rcases outcome state (ask time piece) (obeys time piece) with ⟨after, tried⟩ | ⟨after, tried⟩
      · obtain ⟨trace, final, left, ending, later, length⟩ := ih others (time + 1) after
        exact ⟨_, final, left, ending, .taken small tried later, Nat.succ_le_succ length⟩
      · exact ⟨_, after, _, _, .held small tried, Nat.succ_le_succ (Nat.zero_le _)⟩

theorem exists_handled (cuts : worker.Cuts finished large cut allowed bound)
    (obeys : ∀ time write, allowed write (ask time write)) (time : Nat) (state : State)
    (write : Write) :
    ∃ trace after left ending,
      worker.Handled finished large cut ask time state write trace after left ending ∧
        trace.length ≤ bound + 1 ∧ (ending = none → left = []) := by
  by_cases oversized : large write
  · obtain ⟨opened, tried⟩ := cuts.split state write (ask time write) oversized (obeys time write)
    obtain ⟨trace, after, left, ending, pieces, length⟩ :=
      exists_pieces obeys (cuts.pieces write oversized) (time + 1) opened
    refine ⟨_, after, left, ending, .split oversized tried pieces,
      Nat.succ_le_succ (Nat.le_trans length (cuts.few write oversized)), fun goesOn => ?_⟩
    subst goesOn
    exact pieces.left_eq_nil
  · rcases cuts.small state write (ask time write) oversized (obeys time write) with
      ⟨after, tried⟩ | ⟨after, left, result, tried⟩
    · exact ⟨_, after, [], none, .atOnce oversized tried, Nat.succ_le_succ (Nat.zero_le _),
        fun _ => rfl⟩
    · refine ⟨_, after, left, some result, .stopped oversized tried,
        Nat.succ_le_succ (Nat.zero_le _), fun absent => ?_⟩
      cases absent

/-- Whatever the answers are, there is a pass, and it is short. -/
theorem exists_pass (cuts : worker.Cuts finished large cut allowed bound)
    (obeys : ∀ time write, allowed write (ask time write)) (time : Nat) (state : State)
    (queue : List Write) :
    ∃ trace final left result,
      worker.Pass finished large cut ask time state queue trace final left result ∧
        trace.length ≤ (bound + 1) * queue.length := by
  induction queue generalizing time state with
  | nil => exact ⟨[], state, [], finished, .empty time state, Nat.zero_le _⟩
  | cons write rest ih =>
      obtain ⟨trace, after, left, ending, handled, length, settled⟩ :=
        cuts.exists_handled obeys time state write
      cases ending with
      | some result =>
          refine ⟨trace, after, _, result, .stopped handled, Nat.le_trans length ?_⟩
          exact Nat.le_mul_of_pos_right _ (Nat.succ_pos _)
      | none =>
          obtain rfl := settled rfl
          obtain ⟨later, final, left, result, others, short⟩ := ih (time + trace.length) after
          refine ⟨_, final, left, result, .next handled others, ?_⟩
          rw [List.length_append, List.length_cons, Nat.mul_succ]
          omega

end Cuts

end Worker

end Rtunnel.Data
