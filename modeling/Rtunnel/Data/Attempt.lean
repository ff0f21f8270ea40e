import Mathlib.Data.List.Basic

namespace Rtunnel.Data

/-! Fallible updates.

A call that fails still leaves a state behind: the changes made before the
failure stay.  `andThen` is the early return on an error, `forEach` the loop
that stops at the first one.
-/

universe u v w

abbrev Attempt (State : Type u) (Failure : Type v) := State × Except Failure Unit

namespace Attempt

variable {State : Type u} {Failure : Type v} {Item : Type w}

def andThen (first : Attempt State Failure) (rest : State → Attempt State Failure) :
    Attempt State Failure :=
  match first with
  | (state, .ok ()) => rest state
  | (state, .error reason) => (state, .error reason)

def forEach (handle : State → Item → Attempt State Failure) (state : State) :
    List Item → Attempt State Failure
  | [] => (state, .ok ())
  | item :: items => (handle state item).andThen fun after => forEach handle after items

/-- The call has returned an error. -/
def Fails (attempt : Attempt State Failure) : Prop := ∃ reason, attempt.2 = .error reason

/-- The same outcome, with a change made to the state. -/
def map (change : State → State) (attempt : Attempt State Failure) : Attempt State Failure :=
  (change attempt.1, attempt.2)

theorem Fails.not_ok {attempt : Attempt State Failure} (fails : attempt.Fails) :
    attempt.2 ≠ .ok () := by
  obtain ⟨reason, failed⟩ := fails
  simp [failed]

@[simp] theorem andThen_ok (state : State) (rest : State → Attempt State Failure) :
    andThen (state, .ok ()) rest = rest state := rfl

@[simp] theorem andThen_error (state : State) (reason : Failure)
    (rest : State → Attempt State Failure) :
    andThen (state, .error reason) rest = (state, .error reason) := rfl

theorem andThen_of_ok {first : Attempt State Failure} (succeeded : first.2 = .ok ())
    (rest : State → Attempt State Failure) : first.andThen rest = rest first.1 := by
  obtain ⟨state, outcome⟩ := first
  cases succeeded
  rfl

theorem andThen_of_error {first : Attempt State Failure} {reason : Failure}
    (failed : first.2 = .error reason) (rest : State → Attempt State Failure) :
    first.andThen rest = first := by
  obtain ⟨state, outcome⟩ := first
  cases failed
  rfl

/-- A property that the first call establishes and the second keeps holds of the
state left behind, whether or not the first call failed. -/
theorem andThen_keeps (property : State → Prop) {first : Attempt State Failure}
    {rest : State → Attempt State Failure} (holds : property first.1)
    (keeps : ∀ state, property state → property (rest state).1) :
    property (first.andThen rest).1 := by
  obtain ⟨state, _ | _⟩ := first
  · exact holds
  · exact keeps state holds

/-- A sequence that succeeds has run both calls. -/
theorem andThen_eq_ok {first : Attempt State Failure} {rest : State → Attempt State Failure}
    (succeeded : (first.andThen rest).2 = .ok ()) :
    first.2 = .ok () ∧ first.andThen rest = rest first.1 := by
  obtain ⟨state, reason | done⟩ := first
  · simp at succeeded
  · exact ⟨rfl, rfl⟩

theorem forEach_singleton (handle : State → Item → Attempt State Failure) (state : State)
    (item : Item) : forEach handle state [item] = handle state item := by
  unfold forEach forEach
  obtain ⟨after, reason | done⟩ := handle state item <;> rfl

theorem forEach_append (handle : State → Item → Attempt State Failure) (state : State)
    (first second : List Item) :
    forEach handle state (first ++ second) =
      (forEach handle state first).andThen fun after => forEach handle after second := by
  induction first generalizing state with
  | nil => rfl
  | cons item items ih =>
      simp only [List.cons_append, forEach]
      obtain ⟨after, reason | done⟩ := handle state item
      · rfl
      · exact ih after

theorem forEach_keeps (property : State → Prop) {handle : State → Item → Attempt State Failure}
    (keeps : ∀ state item, property state → property (handle state item).1)
    {state : State} (holds : property state) (items : List Item) :
    property (forEach handle state items).1 := by
  induction items generalizing state with
  | nil => exact holds
  | cons item items ih => exact andThen_keeps property (keeps state item holds) fun after => ih

/-- A change of the state that the second call does not notice can be made after it. -/
theorem andThen_map (change : State → State) {rest : State → Attempt State Failure}
    (unnoticed : ∀ state, rest (change state) = (rest state).map change)
    (first : Attempt State Failure) :
    (first.map change).andThen rest = (first.andThen rest).map change := by
  obtain ⟨state, reason | done⟩ := first
  · rfl
  · exact unnoticed state

theorem forEach_map (change : State → State) (handle : State → Item → Attempt State Failure)
    (unnoticed : ∀ state item, handle (change state) item = (handle state item).map change)
    (state : State) (items : List Item) :
    forEach handle (change state) items = (forEach handle state items).map change := by
  induction items generalizing state with
  | nil => rfl
  | cons item items ih =>
      unfold forEach
      rw [unnoticed state item]
      exact andThen_map change ih _

/-- The loop rule for a property that speaks about the items still to come. -/
theorem forEach_remaining (property : List Item → State → Prop) {final : State → Prop}
    {handle : State → Item → Attempt State Failure}
    (keeps : ∀ state item items, property (item :: items) state →
      property items (handle state item).1)
    (done : ∀ items state, property items state → final state)
    {state : State} {items : List Item} (holds : property items state) :
    final (forEach handle state items).1 := by
  induction items generalizing state with
  | nil => exact done [] state holds
  | cons item items ih =>
      have handled := keeps state item items holds
      unfold forEach
      generalize handle state item = attempt at handled ⊢
      obtain ⟨after, reason | finished⟩ := attempt
      · exact done items after handled
      · exact ih handled

/-- The same loop rule for a loop that has succeeded: every call in it has. -/
theorem forEach_of_ok (property : List Item → State → Prop)
    {handle : State → Item → Attempt State Failure}
    (keeps : ∀ state item items, property (item :: items) state →
      (handle state item).2 = .ok () → property items (handle state item).1)
    {state : State} {items : List Item} (holds : property items state)
    (succeeded : (forEach handle state items).2 = .ok ()) :
    property [] (forEach handle state items).1 := by
  induction items generalizing state with
  | nil => exact holds
  | cons item items ih =>
      obtain ⟨first, rest⟩ := andThen_eq_ok succeeded
      have unfolded : forEach handle state (item :: items) =
          forEach handle (handle state item).1 items := rest
      rw [unfolded] at succeeded ⊢
      exact ih (keeps state item items holds first) succeeded

end Attempt

end Rtunnel.Data
