import Rtunnel.Anytls.Outbound.Pool

namespace Rtunnel.Anytls.Outbound

open Rtunnel.Data

/-! Opening streams while their session is torn down.

A dial enters its stream in the session's map and writes the connect frames
afterwards, under another lock; the frame reader's exit and the shutdown that
follows the removal from the pool clear the map on their way.  A run of the
tasks below extends a run of the pool by the accesses of these three parties,
each of them a step of its own.  The answer of a connect write is the
transport's: nothing here relies on a write after the writer's shutdown to
fail.
-/

/-- The next access of a call of `shutdown`. -/
inductive ShutdownStage where
  | close
  | clear
  | writer
  | finished
deriving DecidableEq

/-- The next access of the frame reader once it has left its loop. -/
inductive ReaderStage where
  | running
  | clear
  | exited
deriving DecidableEq

/-- Where a dial is after it has inserted its stream. -/
inductive DialStage where
  | bufferingSyn
  | writingPsh
  | shutdown (stage : ShutdownStage)
  | returnedOk
  | returnedErr
deriving DecidableEq

structure Dial where
  session : SessionId
  streamId : UInt32
  stage : DialStage
deriving DecidableEq

/-- A dial is known by its place in `dials`; `sender` gives for each key of a
session's map the dial that inserted there last. -/
structure Traffic where
  pool : Pool
  dials : List Dial
  sender : SessionId → UInt32 → Nat
  reader : SessionId → ReaderStage
  cleanup : SessionId → Option ShutdownStage

inductive TrafficEvent where
  | pool (event : PoolEvent)
  | dial (index : Nat) (written : Bool)
  | reader (session : SessionId)
  | cleanup (session : SessionId)

namespace Traffic

def new : Traffic where
  pool := .new
  dials := []
  sender := fun _ _ => 0
  reader := fun _ => .running
  cleanup := fun _ => none

def act (tuning : ClientSessionTuning) (traffic : Traffic) (session : SessionId)
    (action : SessionAction) : Traffic :=
  { traffic with pool := traffic.pool.step tuning (.act session action) }

/-- The access a call of `shutdown` makes to the pool's sessions; the writer is
no part of them. -/
def shutdownAccess (tuning : ClientSessionTuning) (traffic : Traffic) (session : SessionId) :
    ShutdownStage → Traffic
  | .close => traffic.act tuning session .close
  | .clear => traffic.act tuning session .clear
  | .writer => traffic
  | .finished => traffic

/-- `dial` inserts a reserved stream; its sender replaces one of the same id. -/
def insertStream (tuning : ClientSessionTuning) (traffic : Traffic) (session : SessionId)
    (streamId : UInt32) : Traffic :=
  if streamId ∈ (traffic.pool.table session).reserved then
    { traffic.act tuning session (.insert streamId) with
      dials := traffic.dials ++ [⟨session, streamId, .bufferingSyn⟩]
      sender := Function.update traffic.sender session
        (Function.update (traffic.sender session) streamId traffic.dials.length) }
  else traffic

def setDial (traffic : Traffic) (index : Nat) (dial : Dial) (stage : DialStage) : Traffic :=
  { traffic with dials := traffic.dials.set index { dial with stage := stage } }

end Traffic

def ShutdownStage.next : ShutdownStage → ShutdownStage
  | .close => .clear
  | .clear => .writer
  | .writer => .finished
  | .finished => .finished

namespace Traffic

/-- The next access of a dial: `write_connect` buffers the SYN frame and writes
the target; when that fails the dial shuts the session down and fails. -/
def continueDial (tuning : ClientSessionTuning) (traffic : Traffic) (index : Nat)
    (written : Bool) (dial : Dial) : Traffic :=
  match dial.stage with
  | .bufferingSyn => traffic.setDial index dial .writingPsh
  | .writingPsh =>
      if written then traffic.setDial index dial .returnedOk
      else traffic.setDial index dial (.shutdown .close)
  | .shutdown .finished => traffic.setDial index dial .returnedErr
  | .shutdown stage =>
      (traffic.shutdownAccess tuning dial.session stage).setDial index dial
        (.shutdown stage.next)
  | .returnedOk => traffic
  | .returnedErr => traffic

/-- The next access of the reader: it leaves its loop and closes the session,
then clears the streams.  It runs from the moment the session is created. -/
def continueReader (tuning : ClientSessionTuning) (traffic : Traffic) (session : SessionId) :
    Traffic :=
  match traffic.reader session with
  | .running =>
      if session < traffic.pool.nextSessionId then
        { traffic.act tuning session .close with
          reader := Function.update traffic.reader session .clear }
      else traffic
  | .clear =>
      { traffic.act tuning session .clear with
        reader := Function.update traffic.reader session .exited }
  | .exited => traffic

/-- The next access of the shutdown that `shutdown_sessions` spawns for a
session removed from the pool. -/
def continueCleanup (tuning : ClientSessionTuning) (traffic : Traffic) (session : SessionId) :
    Traffic :=
  match traffic.cleanup session with
  | none =>
      if session ∈ traffic.pool.removed.map Prod.fst then
        { traffic with cleanup := Function.update traffic.cleanup session (some .close) }
      else traffic
  | some stage =>
      { traffic.shutdownAccess tuning session stage with
        cleanup := Function.update traffic.cleanup session (some stage.next) }

def step (tuning : ClientSessionTuning) (traffic : Traffic) : TrafficEvent → Traffic
  | .pool (.act session (.insert streamId)) => traffic.insertStream tuning session streamId
  | .pool event => { traffic with pool := traffic.pool.step tuning event }
  | .dial index written =>
      match traffic.dials[index]? with
      | some dial => traffic.continueDial tuning index written dial
      | none => traffic
  | .reader session => traffic.continueReader tuning session
  | .cleanup session => traffic.continueCleanup tuning session

end Traffic

def trafficMachine (tuning : ClientSessionTuning) : Machine Traffic TrafficEvent Unit :=
  ⟨fun traffic event => (traffic.step tuning event, ())⟩

/-- A session that may yet enter the pool has been created. -/
def Holder.Known (created : SessionId) : Holder → Prop
  | .cleaning _ kept rest _ => (∀ session ∈ kept, session < created) ∧
      ∀ session ∈ rest, session < created
  | .reserving session fresh _ => fresh = true → session < created
  | .pushing session => session < created
  | _ => True

structure Pool.Known (pool : Pool) : Prop where
  sessions : ∀ session ∈ pool.sessions, session < pool.nextSessionId
  removed : ∀ session ∈ pool.removed.map Prod.fst, session < pool.nextSessionId
  lock : pool.lock.Known pool.nextSessionId

namespace Pool.Known

variable {pool : Pool} {session : SessionId}

theorem new : Pool.new.Known := by
  refine ⟨?_, ?_, trivial⟩ <;> intro session listed <;> cases listed

theorem hold (known : pool.Known) {lock : Holder} (holds : lock.Known pool.nextSessionId) :
    (pool.hold lock).Known :=
  ⟨known.sessions, known.removed, holds⟩

theorem remove (known : pool.Known) (created : session < pool.nextSessionId)
    (reason : ClientSessionRemovalReason) : (pool.remove session reason).Known := by
  refine ⟨known.sessions, ?_, known.lock⟩
  intro listed member
  simp only [Pool.remove, List.map_append, List.map_cons, List.map_nil, List.mem_append,
    List.mem_singleton] at member
  rcases member with earlier | rfl
  · exact known.removed listed earlier
  · exact created

theorem update (known : pool.Known) (session : SessionId) (updated : ClientSession) :
    (pool.update session updated).Known :=
  ⟨known.sessions, known.removed, known.lock⟩

theorem removeClosedAndExpired (known : pool.Known) (tuning : ClientSessionTuning) {now : Nat}
    {kept rest : List SessionId}
    (held : (Holder.cleaning now kept (session :: rest) .closedFlag).Known pool.nextSessionId)
    (stage : CleanStage) :
    (pool.removeClosedAndExpired tuning now kept session rest stage).Known := by
  obtain ⟨keptKnown, restKnown⟩ := held
  obtain ⟨created, others⟩ := List.forall_mem_cons.mp restKnown
  have keeps : ∀ other ∈ kept ++ [session], other < pool.nextSessionId := by
    intro other member
    rcases List.mem_append.mp member with earlier | last
    · exact keptKnown other earlier
    · rw [List.mem_singleton.mp last]
      exact created
  cases stage with
  | closedFlag =>
      simp only [Pool.removeClosedAndExpired]
      split
      · exact (known.remove created .closed).hold ⟨keptKnown, others⟩
      · exact known.hold ⟨keptKnown, restKnown⟩
  | activeCount =>
      simp only [Pool.removeClosedAndExpired]
      split
      · exact known.hold ⟨keptKnown, restKnown⟩
      · exact known.hold ⟨keeps, others⟩
  | age =>
      simp only [Pool.removeClosedAndExpired]
      split
      · exact known.hold ⟨keptKnown, restKnown⟩
      · exact known.hold ⟨keeps, others⟩
  | close =>
      exact ((known.update session _).remove created .idleExpired).hold ⟨keptKnown, others⟩

theorem reserveFails (known : pool.Known) (session : SessionId) (fresh : Bool) (now : Nat) :
    (pool.reserveFails session fresh now).Known := by
  unfold Pool.reserveFails
  split
  · apply known.hold
    exact ⟨fun other member => absurd member List.not_mem_nil, known.sessions⟩
  · exact known.hold trivial

theorem reserveStream (known : pool.Known) {fresh : Bool}
    (created : fresh = true → session < pool.nextSessionId) (now : Nat) (stage : ReserveStage) :
    (pool.reserveStream session fresh now stage).Known := by
  cases stage with
  | closedFlag =>
      simp only [Pool.reserveStream]
      split
      · exact known.reserveFails session fresh now
      · exact known.hold created
  | takeId =>
      simp only [Pool.reserveStream]
      split
      · exact (known.update session _).reserveFails session fresh now
      · exact (known.update session _).hold created
  | count streamId => exact (known.update session _).hold created
  | touch =>
      apply (known.update session _).hold
      cases fresh with
      | true => exact created rfl
      | false => exact trivial

theorem connectSession (known : pool.Known) (answers : Answers) :
    (pool.connectSession answers).Known := by
  unfold Pool.connectSession
  split
  · refine ⟨?_, ?_, fun _ => Nat.lt_succ_self _⟩
    · intro session listed
      exact Nat.lt_succ_of_lt (known.sessions session listed)
    · intro session listed
      exact Nat.lt_succ_of_lt (known.removed session listed)
  · exact known.hold trivial

theorem advance (known : pool.Known) (tuning : ClientSessionTuning) (answers : Answers) :
    (pool.advance tuning answers).Known := by
  have held := known.lock
  unfold Pool.advance
  split
  case h_1 => exact known
  case h_2 holds =>
      rw [holds] at held
      exact ⟨held.1, known.removed, trivial⟩
  case h_3 holds =>
      rw [holds] at held
      exact known.removeClosedAndExpired tuning held _
  case h_6 =>
      split
      · exact known.hold nofun
      · exact known.hold trivial
  case h_8 => exact known.connectSession answers
  case h_9 holds =>
      rw [holds] at held
      exact known.reserveStream held answers.now _
  case h_10 session holds =>
      rw [holds] at held
      refine ⟨?_, known.removed, trivial⟩
      intro other member
      rcases List.mem_append.mp member with earlier | last
      · exact known.sessions other earlier
      · rw [List.mem_singleton.mp last]
        exact held
  all_goals exact known.hold trivial

theorem step (known : pool.Known) (tuning : ClientSessionTuning) (event : PoolEvent) :
    (pool.step tuning event).Known := by
  cases event with
  | lockToClean now =>
      simp only [Pool.step]
      split
      · apply known.hold
        exact ⟨fun other member => absurd member List.not_mem_nil, known.sessions⟩
      · exact known
  | lockToOpen =>
      simp only [Pool.step]
      split
      · exact known.hold trivial
      · exact known
  | advance answers => exact known.advance tuning answers
  | act session action => exact known.update session _

end Pool.Known

/-- What no access undoes: sessions stay created, removed and closed. -/
structure Pool.Progress (before after : Pool) : Prop where
  created : before.nextSessionId ≤ after.nextSessionId
  removed : before.removed <+: after.removed
  closed : ∀ session < before.nextSessionId,
    (before.table session).closed = true → (after.table session).closed = true

namespace Pool.Progress

variable {pool : Pool}

theorem refl (pool : Pool) : Pool.Progress pool pool :=
  ⟨Nat.le_refl _, List.prefix_refl _, fun _ _ closed => closed⟩

theorem of_table {after : Pool} (created : after.nextSessionId = pool.nextSessionId)
    (removed : pool.removed <+: after.removed) (table : after.table = pool.table) :
    Pool.Progress pool after := by
  refine ⟨Nat.le_of_eq created.symm, removed, ?_⟩
  intro session _ closed
  rw [table]
  exact closed

theorem update {session : SessionId} {updated : ClientSession}
    (stays : (pool.table session).closed = true → updated.closed = true) :
    Pool.Progress pool (pool.update session updated) := by
  refine ⟨Nat.le_refl _, List.prefix_refl _, ?_⟩
  intro other _ closed
  by_cases same : other = session
  · subst same
    simpa [Pool.update] using stays closed
  · simpa [Pool.update, same] using closed

theorem trans {middle after : Pool} (first : Pool.Progress pool middle)
    (second : Pool.Progress middle after) : Pool.Progress pool after where
  created := Nat.le_trans first.created second.created
  removed := first.removed.trans second.removed
  closed session created closed :=
    second.closed session (Nat.lt_of_lt_of_le created first.created)
      (first.closed session created closed)

theorem hold (pool : Pool) (lock : Holder) : Pool.Progress pool (pool.hold lock) :=
  of_table rfl (List.prefix_refl _) rfl

theorem remove (pool : Pool) (session : SessionId) (reason : ClientSessionRemovalReason) :
    Pool.Progress pool (pool.remove session reason) :=
  of_table rfl (List.prefix_append _ _) rfl

theorem act (pool : Pool) (session : SessionId) (action : SessionAction) :
    Pool.Progress pool (pool.update session ((pool.table session).act action)) := by
  apply update
  intro closed
  cases action <;> simp only [ClientSession.act] <;> (try split) <;> first | exact closed | rfl

theorem removeClosedAndExpired (tuning : ClientSessionTuning) (now : Nat)
    (kept : List SessionId) (session : SessionId) (rest : List SessionId) (stage : CleanStage) :
    Pool.Progress pool (pool.removeClosedAndExpired tuning now kept session rest stage) := by
  cases stage with
  | closedFlag =>
      simp only [Pool.removeClosedAndExpired]
      split
      · exact (remove pool session .closed).trans (hold _ _)
      · exact hold pool _
  | activeCount => simp only [Pool.removeClosedAndExpired]; split <;> exact hold pool _
  | age => simp only [Pool.removeClosedAndExpired]; split <;> exact hold pool _
  | close =>
      have closes : Pool.Progress pool (pool.update session (pool.table session).close) :=
        update fun _ => rfl
      exact (closes.trans (remove _ session .idleExpired)).trans (hold _ _)

theorem reserveFails (pool : Pool) (session : SessionId) (fresh : Bool) (now : Nat) :
    Pool.Progress pool (pool.reserveFails session fresh now) := by
  unfold Pool.reserveFails
  split <;> exact hold pool _

theorem reserveStream (pool : Pool) (session : SessionId) (fresh : Bool) (now : Nat)
    (stage : ReserveStage) :
    Pool.Progress pool (pool.reserveStream session fresh now stage) := by
  cases stage with
  | closedFlag =>
      simp only [Pool.reserveStream]
      split
      · exact reserveFails pool session fresh now
      · exact hold pool _
  | takeId =>
      have takes : Pool.Progress pool (pool.update session (pool.table session).takeStreamId) :=
        update id
      simp only [Pool.reserveStream]
      split
      · exact takes.trans (reserveFails _ session fresh now)
      · exact takes.trans (hold _ _)
  | count streamId =>
      have counts : Pool.Progress pool
          (pool.update session ((pool.table session).countStream streamId)) := update id
      exact counts.trans (hold _ _)
  | touch =>
      have touches : Pool.Progress pool
          (pool.update session ((pool.table session).touch now)) := update id
      exact touches.trans (hold _ _)

/-- Only a session that did not exist is overwritten. -/
theorem connectSession (pool : Pool) (answers : Answers) :
    Pool.Progress pool (pool.connectSession answers) := by
  unfold Pool.connectSession
  split
  · refine ⟨Nat.le_succ _, List.prefix_refl _, ?_⟩
    intro session created closed
    simpa [Pool.update, Nat.ne_of_lt created] using closed
  · exact hold pool _

theorem step (tuning : ClientSessionTuning) (pool : Pool) (event : PoolEvent) :
    Pool.Progress pool (pool.step tuning event) := by
  cases event with
  | lockToClean now => simp only [Pool.step]; split <;> exact hold pool _
  | lockToOpen => simp only [Pool.step]; split <;> exact hold pool _
  | act session action => exact act pool session action
  | advance answers =>
      simp only [Pool.step, Pool.advance]
      split
      case h_1 => exact refl pool
      case h_3 => exact removeClosedAndExpired tuning _ _ _ _ _
      case h_6 => split <;> exact hold pool _
      case h_8 => exact connectSession pool answers
      case h_9 => exact reserveStream pool _ _ _ _
      all_goals exact of_table rfl (List.prefix_refl _) rfl

end Pool.Progress

/-- Only an insertion adds an entry to a session's map. -/
theorem Change.streams_subset {pool : Pool} {event : PoolEvent} {session : SessionId}
    {after : ClientSession} (change : Change pool event session after)
    (other : ∀ streamId, event ≠ .act session (.insert streamId)) :
    after.streams ⊆ (pool.table session).streams := by
  cases change with
  | insert streamId own => exact absurd own (other streamId)
  | remove streamId => exact Finset.erase_subset _ _
  | clear => exact Finset.empty_subset _
  | create now => exact Finset.empty_subset _
  | same => exact Finset.Subset.refl _
  | release => exact Finset.Subset.refl _
  | touch now => exact Finset.Subset.refl _
  | close => exact Finset.Subset.refl _
  | storeZero => exact Finset.Subset.refl _
  | takeId => exact Finset.Subset.refl _
  | count => exact Finset.Subset.refl _

namespace Traffic

/-- The session's map holds the entry this dial inserted. -/
def HasEntry (traffic : Traffic) (index : Nat) (dial : Dial) : Prop :=
  dial.streamId ∈ (traffic.pool.table dial.session).streams ∧
    traffic.sender dial.session dial.streamId = index

instance (traffic : Traffic) (index : Nat) (dial : Dial) :
    Decidable (traffic.HasEntry index dial) :=
  inferInstanceAs (Decidable (_ ∧ _))

/-- No dial that has returned `Ok` has its entry in the map of the session. -/
def Settled (traffic : Traffic) (session : SessionId) : Prop :=
  ∀ (index : Nat) (dial : Dial), traffic.dials[index]? = some dial → dial.session = session →
    dial.stage = .returnedOk → ¬ traffic.HasEntry index dial

/-- Once the reader has exited, the session is out of the pool and its shutdown
is complete, no stream is left behind. -/
def NoOrphan (traffic : Traffic) : Prop :=
  ∀ session, traffic.reader session = .exited →
    session ∈ traffic.pool.removed.map Prod.fst →
    traffic.cleanup session = some .finished → traffic.Settled session

/-- The reader and the shutdown have both cleared the map. -/
def Cleared (traffic : Traffic) (session : SessionId) : Prop :=
  traffic.reader session = .exited ∧
    (traffic.cleanup session = some .writer ∨ traffic.cleanup session = some .finished)

instance (traffic : Traffic) (session : SessionId) : Decidable (traffic.Cleared session) :=
  inferInstanceAs (Decidable (_ ∧ _))

/-- A connect write that succeeds is not for an entry made after both clears. -/
def ConnectsInTime (traffic : Traffic) : TrafficEvent → Prop
  | .dial index true => ∀ dial ∈ traffic.dials[index]?, dial.stage = .writingPsh →
      traffic.Cleared dial.session → ¬ traffic.HasEntry index dial
  | _ => True

instance (traffic : Traffic) : (event : TrafficEvent) → Decidable (traffic.ConnectsInTime event)
  | .dial index true => inferInstanceAs
      (Decidable (∀ dial ∈ traffic.dials[index]?, dial.stage = .writingPsh →
        traffic.Cleared dial.session → ¬ traffic.HasEntry index dial))
  | .dial _ false | .pool _ | .reader _ | .cleanup _ => .isTrue trivial

/-- What the tasks have done so far is reflected in the sessions. -/
structure Ordered (traffic : Traffic) : Prop where
  known : traffic.pool.Known
  created : ∀ session, traffic.reader session ≠ .running → session < traffic.pool.nextSessionId
  removed : ∀ session, traffic.cleanup session ≠ none →
    session ∈ traffic.pool.removed.map Prod.fst
  readerClosed : ∀ session, traffic.reader session = .clear →
    (traffic.pool.table session).closed = true
  cleanupClosed : ∀ session, traffic.cleanup session = some .clear →
    (traffic.pool.table session).closed = true

theorem Settled.of_empty {traffic : Traffic} {session : SessionId}
    (empty : (traffic.pool.table session).streams = ∅) : traffic.Settled session := by
  rintro index dial _ rfl _ ⟨present, _⟩
  rw [empty] at present
  exact Finset.notMem_empty _ present

/-- Fewer entries and no newly returned dial keep a session settled. -/
theorem Settled.mono {before after : Traffic} {session : SessionId}
    (settled : before.Settled session)
    (returned : ∀ (index : Nat) (dial : Dial), after.dials[index]? = some dial →
      dial.session = session → dial.stage = .returnedOk →
      after.HasEntry index dial → before.dials[index]? = some dial)
    (entries : ∀ (index : Nat) (dial : Dial), before.dials[index]? = some dial →
      dial.session = session → after.HasEntry index dial → before.HasEntry index dial) :
    after.Settled session := by
  intro index dial found own ok entry
  have earlier := returned index dial found own ok entry
  exact settled index dial earlier own ok (entries index dial earlier own entry)

variable {traffic : Traffic} {session : SessionId} (tuning : ClientSessionTuning)

theorem act_clear_streams (closed : (traffic.pool.table session).closed = true) :
    ((traffic.act tuning session .clear).pool.table session).streams = ∅ := by
  by_cases empty : (traffic.pool.table session).streams = ∅
  · simp [act, Pool.step, Pool.update, ClientSession.act, closed, empty]
  · simp [act, Pool.step, Pool.update, ClientSession.act, closed, empty,
      ClientSession.clearStreams]

theorem act_close_closed (session : SessionId) :
    ((traffic.act tuning session .close).pool.table session).closed = true := by
  simp [act, Pool.step, Pool.update, ClientSession.act, ClientSession.close]

theorem Ordered.of_progress {before after : Traffic} (ordered : before.Ordered)
    (known : after.pool.Known) (progress : Pool.Progress before.pool after.pool)
    (reader : after.reader = before.reader) (cleanup : after.cleanup = before.cleanup) :
    after.Ordered := by
  refine ⟨known, ?_, ?_, ?_, ?_⟩
  · intro session left
    rw [reader] at left
    exact Nat.lt_of_lt_of_le (ordered.created session left) progress.created
  · intro session spawned
    rw [cleanup] at spawned
    exact (progress.removed.map Prod.fst).mem (ordered.removed session spawned)
  · intro session left
    rw [reader] at left
    have created := ordered.created session (by rw [left]; exact ReaderStage.noConfusion)
    exact progress.closed session created (ordered.readerClosed session left)
  · intro session spawned
    rw [cleanup] at spawned
    have listed := ordered.removed session (by rw [spawned]; exact Option.some_ne_none _)
    exact progress.closed session (ordered.known.removed session listed)
      (ordered.cleanupClosed session spawned)

theorem Ordered.pool (ordered : traffic.Ordered) (event : PoolEvent) :
    { traffic with pool := traffic.pool.step tuning event }.Ordered :=
  ordered.of_progress (ordered.known.step tuning event) (.step tuning _ event) rfl rfl

theorem Ordered.act (ordered : traffic.Ordered) (session : SessionId) (action : SessionAction) :
    (traffic.act tuning session action).Ordered :=
  ordered.pool tuning (.act session action)

theorem Ordered.setReader (ordered : traffic.Ordered)
    (created : session < traffic.pool.nextSessionId) {stage : ReaderStage}
    (closed : stage = .clear → (traffic.pool.table session).closed = true) :
    { traffic with reader := Function.update traffic.reader session stage }.Ordered := by
  refine ⟨ordered.known, ?_, ordered.removed, ?_, ordered.cleanupClosed⟩
  · intro other left
    by_cases same : other = session
    · rw [same]
      exact created
    · exact ordered.created other (by simpa [same] using left)
  · intro other left
    by_cases same : other = session
    · subst same
      exact closed (by simpa using left)
    · exact ordered.readerClosed other (by simpa [same] using left)

theorem Ordered.setCleanup (ordered : traffic.Ordered)
    (listed : session ∈ traffic.pool.removed.map Prod.fst) {stage : ShutdownStage}
    (closed : stage = .clear → (traffic.pool.table session).closed = true) :
    { traffic with cleanup := Function.update traffic.cleanup session (some stage) }.Ordered := by
  refine ⟨ordered.known, ordered.created, ?_, ordered.readerClosed, ?_⟩
  · intro other spawned
    by_cases same : other = session
    · rw [same]
      exact listed
    · exact ordered.removed other (by simpa [same] using spawned)
  · intro other spawned
    by_cases same : other = session
    · subst same
      exact closed (by simpa using spawned)
    · exact ordered.cleanupClosed other (by simpa [same] using spawned)

theorem Ordered.setDial (ordered : traffic.Ordered) (index : Nat) (dial : Dial)
    (stage : DialStage) : (traffic.setDial index dial stage).Ordered :=
  ordered.of_progress ordered.known (.refl _) rfl rfl

theorem Ordered.shutdownAccess (ordered : traffic.Ordered) (session : SessionId)
    (stage : ShutdownStage) : (traffic.shutdownAccess tuning session stage).Ordered := by
  cases stage with
  | close => exact ordered.act tuning session .close
  | clear => exact ordered.act tuning session .clear
  | writer => exact ordered
  | finished => exact ordered

theorem Ordered.continueDial (ordered : traffic.Ordered) (index : Nat) (written : Bool)
    (dial : Dial) : (traffic.continueDial tuning index written dial).Ordered := by
  unfold Traffic.continueDial
  split
  · exact ordered.setDial index dial _
  · split <;> exact ordered.setDial index dial _
  · exact ordered.setDial index dial _
  · exact (ordered.shutdownAccess tuning dial.session _).setDial index dial _
  · exact ordered
  · exact ordered

theorem Ordered.continueReader (ordered : traffic.Ordered) (session : SessionId) :
    (traffic.continueReader tuning session).Ordered := by
  unfold Traffic.continueReader
  split
  · split
    · rename_i created
      have later := ordered.act tuning session .close
      exact later.setReader created fun _ => act_close_closed tuning session
    · exact ordered
  · rename_i left
    have created := ordered.created session (by rw [left]; exact ReaderStage.noConfusion)
    have later := ordered.act tuning session .clear
    exact later.setReader created ReaderStage.noConfusion
  · exact ordered

theorem Ordered.continueCleanup (ordered : traffic.Ordered) (session : SessionId) :
    (traffic.continueCleanup tuning session).Ordered := by
  unfold Traffic.continueCleanup
  split
  · split
    · rename_i listed
      exact ordered.setCleanup listed ShutdownStage.noConfusion
    · exact ordered
  · rename_i stage spawned
    have listed := ordered.removed session (by rw [spawned]; exact Option.some_ne_none _)
    cases stage with
    | close =>
        have later := ordered.act tuning session .close
        exact later.setCleanup listed fun _ => act_close_closed tuning session
    | clear =>
        have later := ordered.act tuning session .clear
        exact later.setCleanup listed ShutdownStage.noConfusion
    | writer => exact ordered.setCleanup listed ShutdownStage.noConfusion
    | finished => exact ordered.setCleanup listed ShutdownStage.noConfusion

theorem Ordered.insertStream (ordered : traffic.Ordered) (session : SessionId)
    (streamId : UInt32) : (traffic.insertStream tuning session streamId).Ordered := by
  unfold Traffic.insertStream
  split
  · have later := ordered.act tuning session (.insert streamId)
    exact later.of_progress later.known (.refl _) rfl rfl
  · exact ordered

theorem Ordered.step (ordered : traffic.Ordered) (event : TrafficEvent) :
    (traffic.step tuning event).Ordered := by
  unfold Traffic.step
  split
  · exact ordered.insertStream tuning _ _
  · exact ordered.pool tuning _
  · split
    · exact ordered.continueDial tuning _ _ _
    · exact ordered
  · exact ordered.continueReader tuning _
  · exact ordered.continueCleanup tuning _

theorem Ordered.new : Traffic.new.Ordered := by
  refine ⟨Pool.Known.new, ?_, ?_, nofun, nofun⟩
  · intro session left
    exact absurd rfl left
  · intro session spawned
    exact absurd rfl spawned

theorem Settled.pool (settled : traffic.Settled session) {event : PoolEvent}
    (other : ∀ session streamId, event ≠ .act session (.insert streamId)) :
    { traffic with pool := traffic.pool.step tuning event }.Settled session := by
  apply settled.mono
  · intro index dial found _ _ _
    exact found
  · intro index dial _ _ entry
    have shrinks := (Change.step tuning traffic.pool event dial.session).streams_subset
      (other dial.session)
    exact ⟨shrinks entry.1, entry.2⟩

theorem Settled.setDial (settled : traffic.Settled session) {index : Nat} {dial : Dial}
    (found : traffic.dials[index]? = some dial) {stage : DialStage}
    (fresh : dial.session = session → stage = .returnedOk → ¬ traffic.HasEntry index dial) :
    (traffic.setDial index dial stage).Settled session := by
  intro other otherDial otherFound own ok entry
  by_cases same : index = other
  · subst same
    have bound : index < traffic.dials.length := (List.getElem?_eq_some_iff.mp found).1
    have updated : { dial with stage := stage } = otherDial := by
      simpa [Traffic.setDial, List.getElem?_set_self, bound] using otherFound
    subst updated
    exact fresh own ok entry
  · have kept : traffic.dials[other]? = some otherDial := by
      simpa [Traffic.setDial, List.getElem?_set_ne same] using otherFound
    exact settled other otherDial kept own ok entry

/-- The new entry belongs to a dial that has not returned, and it replaces any
other of its id. -/
theorem Settled.insertStream (settled : traffic.Settled session) (target : SessionId)
    (streamId : UInt32) :
    (traffic.insertStream tuning target streamId).Settled session := by
  unfold Traffic.insertStream
  split
  · rename_i pending
    have earlier : ∀ (index : Nat) (dial : Dial),
        (traffic.dials ++ [⟨target, streamId, .bufferingSyn⟩])[index]? = some dial →
        dial.stage = .returnedOk → traffic.dials[index]? = some dial := by
      intro index dial found ok
      rcases List.getElem?_eq_some_iff.mp found with ⟨bound, value⟩
      rw [List.length_append, List.length_singleton] at bound
      by_cases last : index = traffic.dials.length
      · subst last
        rw [List.getElem_concat_length rfl] at value
        rw [← value] at ok
        exact DialStage.noConfusion ok
      · have within : index < traffic.dials.length := by omega
        rw [List.getElem?_append_left within] at found
        exact found
    apply settled.mono
    · intro index dial found _ ok _
      exact earlier index dial found ok
    · rintro index dial found _ ⟨present, sent⟩
      have bound : index < traffic.dials.length := (List.getElem?_eq_some_iff.mp found).1
      by_cases sameSession : dial.session = target
      · subst sameSession
        by_cases sameStream : dial.streamId = streamId
        · subst sameStream
          simp only [Function.update_self] at sent
          omega
        · simp only [Traffic.act, Pool.step, Pool.update, ClientSession.act, pending, if_true,
            Function.update_self, ClientSession.insertStream, Finset.mem_insert, sameStream,
            false_or] at present
          simp only [Function.update_self, Function.update_of_ne sameStream] at sent
          exact ⟨present, sent⟩
      · simp only [Traffic.act, Pool.step, Pool.update, Function.update_of_ne sameSession]
          at present sent
        exact ⟨present, sent⟩
  · exact settled

/-- Sessions that both clears have passed are settled. -/
structure Sound (traffic : Traffic) : Prop extends Ordered traffic where
  settled : ∀ session, traffic.Cleared session → traffic.Settled session

theorem settled_act (settled : traffic.Settled session) (target : SessionId)
    {action : SessionAction} (other : ∀ streamId, action ≠ .insert streamId) :
    (traffic.act tuning target action).Settled session := by
  apply settled.pool tuning
  intro changed streamId same
  exact other streamId (PoolEvent.act.inj same).2

theorem Sound.shutdownAccess (sound : traffic.Sound) (session : SessionId)
    (stage : ShutdownStage) : (traffic.shutdownAccess tuning session stage).Sound := by
  refine ⟨sound.toOrdered.shutdownAccess tuning session stage, ?_⟩
  intro other cleared
  cases stage with
  | close => exact settled_act tuning (sound.settled other cleared) session nofun
  | clear => exact settled_act tuning (sound.settled other cleared) session nofun
  | writer => exact sound.settled other cleared
  | finished => exact sound.settled other cleared

theorem Sound.setDial (sound : traffic.Sound) {index : Nat} {dial : Dial}
    (found : traffic.dials[index]? = some dial) {stage : DialStage}
    (fresh : traffic.Cleared dial.session → stage = .returnedOk →
      ¬ traffic.HasEntry index dial) : (traffic.setDial index dial stage).Sound := by
  refine ⟨sound.toOrdered.setDial index dial stage, ?_⟩
  intro session cleared
  apply (sound.settled session cleared).setDial found
  intro own ok
  exact fresh (own ▸ cleared) ok

theorem Sound.continueDial (sound : traffic.Sound) {index : Nat} {dial : Dial}
    (found : traffic.dials[index]? = some dial) {written : Bool}
    (inTime : traffic.ConnectsInTime (.dial index written)) :
    (traffic.continueDial tuning index written dial).Sound := by
  unfold Traffic.continueDial
  split
  · exact sound.setDial found nofun
  · rename_i writing
    cases written with
    | true => exact sound.setDial found fun cleared _ => inTime dial found writing cleared
    | false => exact sound.setDial found nofun
  · exact sound.setDial found nofun
  · rename_i stage _ _
    have kept : (traffic.shutdownAccess tuning dial.session stage).dials[index]? = some dial := by
      cases stage <;> exact found
    exact (sound.shutdownAccess tuning dial.session stage).setDial kept nofun
  · exact sound
  · exact sound

theorem Sound.continueReader (sound : traffic.Sound) (session : SessionId) :
    (traffic.continueReader tuning session).Sound := by
  refine ⟨sound.toOrdered.continueReader tuning session, ?_⟩
  unfold Traffic.continueReader
  split
  · split
    · rintro other ⟨exited, past⟩
      have elsewhere : other ≠ session := by
        rintro rfl
        simp at exited
      have cleared : traffic.Cleared other := ⟨by simpa [elsewhere] using exited, past⟩
      exact settled_act tuning (sound.settled other cleared) session nofun
    · exact sound.settled
  · rename_i left
    rintro other ⟨exited, past⟩
    by_cases same : other = session
    · subst same
      exact Settled.of_empty (act_clear_streams tuning (sound.readerClosed other left))
    · have cleared : traffic.Cleared other := ⟨by simpa [same] using exited, past⟩
      exact settled_act tuning (sound.settled other cleared) session nofun
  · exact sound.settled

theorem Sound.continueCleanup (sound : traffic.Sound) (session : SessionId) :
    (traffic.continueCleanup tuning session).Sound := by
  refine ⟨sound.toOrdered.continueCleanup tuning session, ?_⟩
  unfold Traffic.continueCleanup
  split
  · split
    · rintro other ⟨exited, past⟩
      have elsewhere : other ≠ session := by
        rintro rfl
        simp at past
      exact sound.settled other ⟨exited, by simpa [elsewhere] using past⟩
    · exact sound.settled
  · rename_i stage spawned
    rintro other ⟨exited, past⟩
    by_cases same : other = session
    · subst same
      cases stage with
      | close => simp [ShutdownStage.next] at past
      | clear =>
          exact Settled.of_empty (act_clear_streams tuning (sound.cleanupClosed other spawned))
      | writer => exact sound.settled other ⟨exited, Or.inl spawned⟩
      | finished => exact sound.settled other ⟨exited, Or.inr spawned⟩
    · have reader : (traffic.shutdownAccess tuning session stage).reader = traffic.reader := by
        cases stage <;> rfl
      have earlier : (traffic.shutdownAccess tuning session stage).cleanup = traffic.cleanup := by
        cases stage <;> rfl
      have cleared : (traffic.shutdownAccess tuning session stage).Cleared other :=
        ⟨exited, by simpa [same, earlier] using past⟩
      exact (sound.shutdownAccess tuning session stage).settled other cleared

theorem Sound.step (sound : traffic.Sound) {event : TrafficEvent}
    (inTime : traffic.ConnectsInTime event) : (traffic.step tuning event).Sound := by
  unfold Traffic.step
  split
  · rename_i session streamId
    refine ⟨sound.toOrdered.insertStream tuning session streamId, ?_⟩
    intro other cleared
    apply Settled.insertStream tuning (sound.settled other ?_) session streamId
    unfold Traffic.insertStream at cleared
    split at cleared <;> exact cleared
  · rename_i event other
    refine ⟨sound.toOrdered.pool tuning event, ?_⟩
    intro session cleared
    exact (sound.settled session cleared).pool tuning other
  · split
    · rename_i found
      exact sound.continueDial tuning found inTime
    · exact sound
  · exact sound.continueReader tuning _
  · exact sound.continueCleanup tuning _

theorem Sound.noOrphan (sound : traffic.Sound) : traffic.NoOrphan :=
  fun session exited _ finished => sound.settled session ⟨exited, Or.inr finished⟩

/-- A connect write that comes too late leaves an orphan as soon as the
shutdown has dealt with the writer. -/
theorem Ordered.orphan_of_late (ordered : traffic.Ordered) {event : TrafficEvent}
    (late : ¬ traffic.ConnectsInTime event) :
    ∃ session, ¬ ((traffic.step tuning event).step tuning (.cleanup session)).NoOrphan := by
  cases event with
  | pool event => exact absurd trivial late
  | reader session => exact absurd trivial late
  | cleanup session => exact absurd trivial late
  | dial index written =>
      cases written with
      | false => exact absurd trivial late
      | true =>
          simp only [ConnectsInTime, not_forall, not_not] at late
          obtain ⟨dial, found, writing, cleared, entry⟩ := late
          rw [Option.mem_def] at found
          have bound : index < traffic.dials.length := (List.getElem?_eq_some_iff.mp found).1
          have written : traffic.step tuning (.dial index true) =
              traffic.setDial index dial .returnedOk := by
            simp [Traffic.step, found, Traffic.continueDial, writing]
          have returned : (traffic.setDial index dial .returnedOk).dials[index]? =
              some { dial with stage := .returnedOk } := by
            simp [Traffic.setDial, bound]
          obtain ⟨exited, past⟩ := cleared
          have listed := ordered.removed dial.session (by
            rcases past with stage | stage <;> simp [stage])
          refine ⟨dial.session, fun noOrphan => ?_⟩
          rw [written] at noOrphan
          rcases past with stage | stage
          all_goals
            have settled := noOrphan dial.session
            simp only [Traffic.step, Traffic.continueCleanup, Traffic.setDial, stage,
              Traffic.shutdownAccess, ShutdownStage.next, Function.update_self] at settled
            exact settled exited listed trivial index { dial with stage := .returnedOk } returned
              rfl
              rfl entry

end Traffic

/-- A run whose connect writes all come in time leaves no orphan, and after any
run a late one does. -/
theorem teardown_leaves_no_orphan (tuning : ClientSessionTuning) (events : List TrafficEvent) :
    ((trafficMachine tuning).Meets Traffic.ConnectsInTime .new events →
      ((trafficMachine tuning).run .new events).NoOrphan) ∧
    ∀ event, ¬ ((trafficMachine tuning).run .new events).ConnectsInTime event →
      ∃ session, ¬ ((trafficMachine tuning).run .new
        (events ++ [event, .cleanup session])).NoOrphan := by
  constructor
  · intro inTime
    have keeps : ∀ traffic event, Traffic.ConnectsInTime traffic event → traffic.Sound →
        ((trafficMachine tuning).next traffic event).Sound :=
      fun traffic event inTime sound => sound.step tuning inTime
    have start : Traffic.new.Sound := ⟨.new, fun session cleared => absurd cleared.1 nofun⟩
    exact (Machine.run_invariant_of_meets _ keeps start inTime).noOrphan
  · intro event late
    have keeps : ∀ traffic event, Traffic.Ordered traffic →
        ((trafficMachine tuning).next traffic event).Ordered :=
      fun traffic event ordered => ordered.step tuning event
    have ordered := Machine.run_invariant _ keeps Traffic.Ordered.new events
    obtain ⟨session, orphan⟩ := ordered.orphan_of_late tuning late
    refine ⟨session, ?_⟩
    rw [Machine.run_append]
    exact orphan

/-- A dial connects before the reader exits and the cleaner removes the session. -/
def timelyDial : List TrafficEvent :=
  firstOpen.map .pool ++
    [.dial 0 true, .dial 0 true, .reader 1, .reader 1, .pool (.lockToClean 0), .pool proceed,
      .pool proceed, .cleanup 1, .cleanup 1, .cleanup 1, .cleanup 1]

theorem timely_dial_leaves_no_orphan :
    let final := (trafficMachine ⟨none, none, 0⟩).run .new timelyDial
    final.cleanup 1 = some .finished ∧ final.dials = [⟨1, 1, .returnedOk⟩] ∧ final.NoOrphan :=
  ⟨by decide, by decide, (teardown_leaves_no_orphan _ timelyDial).1 (by decide)⟩

/-- A dial has reserved a stream; the server closes the connection, the reader
exits, and the cleaner removes the session and has cleared its map when the
dial inserts its stream and writes the connect frames. -/
def lateDial : List TrafficEvent :=
  ([.lockToClean 0, proceed, .lockToOpen] ++ List.replicate 8 proceed).map .pool ++
    [.reader 1, .reader 1, .pool (.lockToClean 0), .pool proceed, .pool proceed,
      .cleanup 1, .cleanup 1, .cleanup 1, .pool (.act 1 (.insert 1)),
      .dial 0 true, .dial 0 true, .cleanup 1]

/-- The dial has returned `Ok`, nothing is left to run on the session, and the
entry is still in its map. -/
theorem late_dial_is_orphaned :
    let final := (trafficMachine ⟨none, none, 0⟩).run .new lateDial
    final.reader 1 = .exited ∧ final.pool.sessions = [] ∧
      final.pool.removed = [(1, .closed)] ∧ final.cleanup 1 = some .finished ∧
      final.dials = [⟨1, 1, .returnedOk⟩] ∧ final.HasEntry 0 ⟨1, 1, .returnedOk⟩ ∧
      ¬ final.NoOrphan := by
  have reached : let final := (trafficMachine ⟨none, none, 0⟩).run .new lateDial
      final.reader 1 = .exited ∧ final.pool.sessions = [] ∧
        final.pool.removed = [(1, .closed)] ∧ final.cleanup 1 = some .finished ∧
        final.dials = [⟨1, 1, .returnedOk⟩] ∧ final.HasEntry 0 ⟨1, 1, .returnedOk⟩ := by
    decide
  obtain ⟨exited, empty, removed, finished, dials, entry⟩ := reached
  refine ⟨exited, empty, removed, finished, dials, entry, fun noOrphan => ?_⟩
  refine noOrphan 1 exited ?_ finished 0 ⟨1, 1, .returnedOk⟩ ?_ rfl rfl entry
  · rw [removed]
    exact List.mem_cons_self
  · rw [dials]
    rfl

end Rtunnel.Anytls.Outbound
