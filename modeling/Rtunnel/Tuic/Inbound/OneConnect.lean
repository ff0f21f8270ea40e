import Mathlib.Data.List.Induction
import Rtunnel.Tuic.Inbound.Authentication

namespace Rtunnel.Tuic.Inbound

open Rtunnel.Data

/-! One CONNECT per stream.

Whether bytes are a header or payload is read off the presence of the stream in
`streams`.  A relay that fails has its stream removed while the client may still
be sending.  The results below say exactly when that makes payload be parsed as
a header.
-/

variable {setting : Setting}

def Effect.RelayOf (streamId : UInt64) : Effect → Prop
  | .spawnRelay other _ _ => other = streamId
  | _ => False

def Effect.ParseOf (streamId : UInt64) : Effect → Prop
  | .tryParseConnect other _ => other = streamId
  | _ => False

def Event.DataOn (streamId : UInt64) : Event → Prop
  | .streamData _ other _ _ => other = streamId
  | _ => False

instance (streamId : UInt64) : (effect : Effect) → Decidable (effect.RelayOf streamId)
  | .spawnRelay other _ _ => inferInstanceAs (Decidable (other = streamId))
  | .authenticate _ _ _ | .received _ _ | .tryParseConnect _ _ | .spawnUdpSession _ _
  | .forward _ _ | .closed _ => .isFalse id

instance (streamId : UInt64) : (effect : Effect) → Decidable (effect.ParseOf streamId)
  | .tryParseConnect other _ => inferInstanceAs (Decidable (other = streamId))
  | .authenticate _ _ _ | .received _ _ | .spawnRelay _ _ _ | .spawnUdpSession _ _
  | .forward _ _ | .closed _ => .isFalse id

/-- After a relay of the stream, no second relay and no further parse. -/
def OneConnect (streamId : UInt64) (trace : List Effect) : Prop :=
  trace.Pairwise fun earlier later =>
    earlier.RelayOf streamId → ¬ later.RelayOf streamId ∧ ¬ later.ParseOf streamId

instance (streamId : UInt64) (trace : List Effect) : Decidable (OneConnect streamId trace) :=
  inferInstanceAs (Decidable (List.Pairwise _ trace))

def Spawned (streamId : UInt64) (trace : List Effect) : Prop :=
  ∃ effect ∈ trace, effect.RelayOf streamId

/-- The client has ended its direction of the stream. -/
def Finished (streamId : UInt64) (trace : List Effect) : Prop :=
  Effect.received streamId true ∈ trace

/-- The stream has had a relay, and a later write pass has executed its `Close`. -/
def Forgotten (streamId : UInt64) (trace : List Effect) : Prop :=
  ∃ relay : Effect, relay.RelayOf streamId ∧ [relay, .closed streamId].Sublist trace

def Effect.Concerns (streamId : UInt64) (effect : Effect) : Prop :=
  effect.RelayOf streamId ∨ effect.ParseOf streamId ∨ effect = .closed streamId

section Traces

variable {streamId : UInt64} {trace added : List Effect} {effect : Effect}

theorem Forgotten.spawned (forgotten : Forgotten streamId trace) : Spawned streamId trace := by
  obtain ⟨relay, own, inside⟩ := forgotten
  exact ⟨relay, inside.subset (by simp), own⟩

theorem Spawned.append (spawned : Spawned streamId trace) : Spawned streamId (trace ++ added) := by
  obtain ⟨relay, member, own⟩ := spawned
  exact ⟨relay, List.mem_append_left added member, own⟩

theorem Forgotten.append (forgotten : Forgotten streamId trace) :
    Forgotten streamId (trace ++ added) := by
  obtain ⟨relay, own, inside⟩ := forgotten
  exact ⟨relay, own, inside.trans (List.sublist_append_left trace added)⟩

theorem Finished.append (finished : Finished streamId trace) :
    Finished streamId (trace ++ added) :=
  List.mem_append_left added finished

theorem forgotten_of_closed (spawned : Spawned streamId trace) :
    Forgotten streamId (trace ++ [.closed streamId]) := by
  obtain ⟨relay, member, own⟩ := spawned
  exact ⟨relay, own, (List.singleton_sublist.mpr member).append (List.Sublist.refl _)⟩

theorem spawned_append_one :
    Spawned streamId (trace ++ [effect]) ↔ Spawned streamId trace ∨ effect.RelayOf streamId := by
  constructor
  · rintro ⟨relay, member, own⟩
    rcases List.mem_append.mp member with earlier | last
    · exact .inl ⟨relay, earlier, own⟩
    · rw [List.mem_singleton.mp last] at own
      exact .inr own
  · rintro (spawned | own)
    · exact spawned.append
    · exact ⟨effect, List.mem_append_right trace (List.mem_singleton_self effect), own⟩

/-- Only a `Close` makes a stream forgotten. -/
theorem forgotten_append_one (forgotten : Forgotten streamId (trace ++ [effect])) :
    Forgotten streamId trace ∨ effect = .closed streamId := by
  obtain ⟨relay, own, inside⟩ := forgotten
  obtain ⟨front, back, split, frontInside, backInside⟩ := List.sublist_append_iff.mp inside
  cases back with
  | nil =>
      rw [List.append_nil] at split
      exact .inl ⟨relay, own, split ▸ frontInside⟩
  | cons head tail =>
      have last : (front ++ head :: tail).getLast (by simp) = .closed streamId := by
        simp only [← split]
        rfl
      have member : (front ++ head :: tail).getLast (by simp) ∈ head :: tail := by
        rw [List.getLast_append_of_ne_nil (by simp) (by simp)]
        exact List.getLast_mem _
      rw [last] at member
      exact .inr (List.mem_singleton.mp (backInside.subset member)).symm

theorem oneConnect_append_one :
    OneConnect streamId (trace ++ [effect]) ↔ OneConnect streamId trace ∧
      (Spawned streamId trace → ¬ effect.RelayOf streamId ∧ ¬ effect.ParseOf streamId) := by
  simp only [OneConnect, List.pairwise_append, List.pairwise_singleton, List.mem_singleton,
    forall_eq, true_and]
  constructor
  · rintro ⟨ordered, last⟩
    refine ⟨ordered, ?_⟩
    rintro ⟨relay, member, own⟩
    exact last relay member own
  · rintro ⟨ordered, last⟩
    exact ⟨ordered, fun relay member own => last ⟨relay, member, own⟩⟩

theorem oneConnect_of_unspawned (unspawned : ¬ Spawned streamId trace) :
    OneConnect streamId trace :=
  List.Pairwise.imp_of_mem
    (fun member _ _ own => absurd ⟨_, member, own⟩ unspawned)
    (List.pairwise_of_forall (R := fun _ _ => True) fun _ _ => trivial)

end Traces

/-- A change that does not concern the stream. -/
structure Untouched (streamId : UInt64) (before after : App setting) : Prop where
  authenticated : before.authenticated = true → after.authenticated = true
  streams : after.streams.lookup streamId = none ↔ before.streams.lookup streamId = none
  pending : after.pendingStreams.lookup streamId = before.pendingStreams.lookup streamId
  trace : ∃ added, after.trace = before.trace ++ added ∧
    ∀ effect ∈ added, ¬ effect.Concerns streamId

namespace Untouched

variable {streamId : UInt64} {before after : App setting}

theorem of_same (authenticated : before.authenticated = true → after.authenticated = true)
    (streams : after.streams = before.streams)
    (pending : after.pendingStreams = before.pendingStreams)
    (trace : after.trace = before.trace) : Untouched streamId before after where
  authenticated := authenticated
  streams := by rw [streams]
  pending := by rw [pending]
  trace := ⟨[], by simp [trace], by simp⟩

theorem of_emitted {effect : Effect}
    (authenticated : before.authenticated = true → after.authenticated = true)
    (streams : after.streams = before.streams)
    (pending : after.pendingStreams = before.pendingStreams)
    (trace : after.trace = before.trace ++ [effect]) (apart : ¬ effect.Concerns streamId) :
    Untouched streamId before after where
  authenticated := authenticated
  streams := by rw [streams]
  pending := by rw [pending]
  trace := ⟨[effect], trace, fun other member => List.mem_singleton.mp member ▸ apart⟩

theorem refl (app : App setting) : Untouched streamId app app := of_same id rfl rfl rfl

theorem putStream {app : App setting} {used : UInt64} {state : StreamState}
    (found : app.streams.lookup used = some state) (next : StreamState) :
    Untouched streamId app (app.putStream used next) := by
  refine ⟨id, ?_, rfl, [], (List.append_nil _).symm, by simp⟩
  by_cases same : streamId = used
  · subst same
    simp [App.putStream, found]
  · exact Iff.of_eq (congrArg (· = none) (AList.lookup_insert_ne same))

theorem cleanup (app : App setting) (now : Nat) :
    Untouched streamId app (app.maybeCleanupUdpState now) := by
  unfold App.maybeCleanupUdpState
  split
  · exact refl app
  · exact of_same id rfl rfl rfl

theorem trans {third : App setting} (early : Untouched streamId before after)
    (late : Untouched streamId after third) : Untouched streamId before third where
  authenticated := late.authenticated ∘ early.authenticated
  streams := late.streams.trans early.streams
  pending := late.pending.trans early.pending
  trace := by
    obtain ⟨first, firstTrace, firstApart⟩ := early.trace
    obtain ⟨second, secondTrace, secondApart⟩ := late.trace
    refine ⟨first ++ second, by rw [secondTrace, firstTrace, List.append_assoc], ?_⟩
    intro effect member
    rcases List.mem_append.mp member with earlier | later
    · exact firstApart effect earlier
    · exact secondApart effect later

theorem spawned_iff (untouched : Untouched streamId before after) :
    Spawned streamId after.trace ↔ Spawned streamId before.trace := by
  obtain ⟨added, trace, apart⟩ := untouched.trace
  rw [trace]
  refine ⟨?_, Spawned.append⟩
  rintro ⟨relay, member, own⟩
  rcases List.mem_append.mp member with earlier | later
  · exact ⟨relay, earlier, own⟩
  · exact absurd (.inl own) (apart relay later)

theorem forgotten_iff (untouched : Untouched streamId before after) :
    Forgotten streamId after.trace ↔ Forgotten streamId before.trace := by
  obtain ⟨added, trace, apart⟩ := untouched.trace
  rw [trace]
  refine ⟨?_, Forgotten.append⟩
  intro forgotten
  clear trace
  induction added using List.reverseRecOn with
  | nil => rwa [List.append_nil] at forgotten
  | append_singleton added effect ih =>
      rw [← List.append_assoc] at forgotten
      rcases forgotten_append_one forgotten with earlier | closed
      · exact ih (fun other member => apart other (List.mem_append_left _ member)) earlier
      · exact absurd (.inr (.inr closed)) (apart effect (by simp))

theorem oneConnect (untouched : Untouched streamId before after)
    (ordered : OneConnect streamId before.trace) : OneConnect streamId after.trace := by
  obtain ⟨added, trace, apart⟩ := untouched.trace
  rw [trace]
  clear trace
  induction added using List.reverseRecOn with
  | nil => rwa [List.append_nil]
  | append_singleton added effect ih =>
      rw [← List.append_assoc, oneConnect_append_one]
      refine ⟨ih fun other member => apart other (List.mem_append_left _ member), fun _ => ?_⟩
      have aside := apart effect (by simp)
      exact ⟨fun own => aside (.inl own), fun parse => aside (.inr (.inl parse))⟩

theorem finished (untouched : Untouched streamId before after)
    (finished : Finished streamId before.trace) : Finished streamId after.trace := by
  obtain ⟨added, trace, _⟩ := untouched.trace
  rw [trace]
  exact finished.append

end Untouched

/-- What is known of a stream as long as no data has arrived on it after its
`Close` was executed. -/
structure Connects (streamId : UInt64) (app : App setting) : Prop where
  ordered : OneConnect streamId app.trace
  inside : Spawned streamId app.trace → app.authenticated = true
  held : Spawned streamId app.trace → app.pendingStreams.lookup streamId = none
  known : Spawned streamId app.trace → app.streams.lookup streamId ≠ none ∨
    Finished streamId app.trace ∨ Forgotten streamId app.trace
  gone : Forgotten streamId app.trace → app.streams.lookup streamId = none
  ended : ∀ pending, app.pendingStreams.lookup streamId = some pending → pending.fin = true →
    Finished streamId app.trace

namespace Connects

variable {streamId : UInt64} {app after : App setting}

theorem untouched (connects : Connects streamId app) (aside : Untouched streamId app after) :
    Connects streamId after where
  ordered := aside.oneConnect connects.ordered
  inside spawned := aside.authenticated (connects.inside (aside.spawned_iff.mp spawned))
  held spawned := by rw [aside.pending]; exact connects.held (aside.spawned_iff.mp spawned)
  known spawned := by
    rcases connects.known (aside.spawned_iff.mp spawned) with present | finished | forgotten
    · exact .inl fun absent => present (aside.streams.mp absent)
    · exact .inr (.inl (aside.finished finished))
    · exact .inr (.inr (aside.forgotten_iff.mpr forgotten))
  gone forgotten := aside.streams.mpr (connects.gone (aside.forgotten_iff.mp forgotten))
  ended pending found fin := by
    rw [aside.pending] at found
    exact aside.finished (connects.ended pending found fin)

/-- Without a relay there is little to check. -/
theorem of_unspawned (unspawned : ¬ Spawned streamId app.trace)
    (ended : ∀ pending, app.pendingStreams.lookup streamId = some pending → pending.fin = true →
      Finished streamId app.trace) : Connects streamId app where
  ordered := oneConnect_of_unspawned unspawned
  inside spawned := absurd spawned unspawned
  held spawned := absurd spawned unspawned
  known spawned := absurd spawned unspawned
  gone forgotten := absurd forgotten.spawned unspawned
  ended := ended

theorem new (streamId : UInt64) (setting : Setting) (now : Nat) :
    Connects streamId (App.new setting now) :=
  of_unspawned (by simp [Spawned, App.new]) (by simp [App.new])

theorem close (connects : Connects streamId app) (closing : UInt64) :
    Connects streamId (app.writeClose closing).1 := by
  by_cases same : closing = streamId
  · subst same
    have erased : (app.writeClose closing).1.streams.lookup closing = none :=
      AList.lookup_erase closing app.streams
    have spawned_iff : Spawned closing (app.writeClose closing).1.trace ↔
        Spawned closing app.trace := by
      refine spawned_append_one.trans ⟨?_, .inl⟩
      rintro (spawned | own)
      · exact spawned
      · exact own.elim
    exact {
      ordered := oneConnect_append_one.mpr ⟨connects.ordered, fun _ => ⟨id, id⟩⟩
      inside := fun spawned => connects.inside (spawned_iff.mp spawned)
      held := fun spawned => connects.held (spawned_iff.mp spawned)
      known := fun spawned => .inr (.inr (forgotten_of_closed (spawned_iff.mp spawned)))
      gone := fun _ => erased
      ended := fun pending found fin => (connects.ended pending found fin).append }
  · refine connects.untouched ⟨id, ?_, rfl, [.closed closing], rfl, ?_⟩
    · exact Iff.of_eq (congrArg (· = none) (AList.lookup_erase_ne (Ne.symm same)))
    · intro effect member
      rw [List.mem_singleton.mp member]
      rintro (own | parse | closed)
      · exact own
      · exact parse
      · exact same (by cases closed; rfl)

theorem updates (streamId : UInt64) :
    Updates fun app : App setting => Connects streamId app where
  deadline _ _ connects := connects.untouched (.of_same id rfl rfl rfl)
  queues _ _ _ _ connects := connects.untouched (.of_same id rfl rfl rfl)
  session _ _ _ _ _ connects := connects.untouched (.of_same id rfl rfl rfl)
  stream _ _ _ next found _ connects := connects.untouched (.putStream found next)
  cleanup app now connects := connects.untouched (.cleanup app now)
  close _ closing connects := connects.close closing
  charge _ _ _ connects := connects.untouched (.of_same id rfl rfl rfl)
  uniStreams _ _ connects := connects.untouched (.of_same id rfl rfl rfl)
  queueCommand _ _ _ connects := connects.untouched (.of_same id rfl rfl rfl)
  queueDatagram _ _ _ connects := connects.untouched (.of_same id rfl rfl rfl)
  clearCommands _ connects := connects.untouched (.of_same id rfl rfl rfl)
  clearDatagrams _ connects := connects.untouched (.of_same id rfl rfl rfl)
  authenticate _ _ _ _ connects :=
    connects.untouched (.of_emitted id rfl rfl rfl (by simp [Effect.Concerns, Effect.RelayOf,
      Effect.ParseOf]))
  admitUser _ _ connects := connects.untouched (.of_same (fun _ => rfl) rfl rfl rfl)
  assembler _ _ _ connects := connects.untouched (.of_same id rfl rfl rfl)
  openSession _ _ _ _ connects :=
    connects.untouched (.of_emitted id rfl rfl rfl (by simp [Effect.Concerns, Effect.RelayOf,
      Effect.ParseOf]))
  useSession _ _ _ connects := connects.untouched (.of_same id rfl rfl rfl)
  forward _ _ _ connects :=
    connects.untouched (.of_emitted id rfl rfl rfl (by simp [Effect.Concerns, Effect.RelayOf,
      Effect.ParseOf]))
  endSession _ _ connects := connects.untouched (.of_same id rfl rfl rfl)

end Connects

theorem App.reservePreAuth_untouched (streamId : UInt64) (app : App setting)
    (now bytes items : Nat) : Untouched streamId app (app.reservePreAuth now bytes items).1 := by
  refine Attempt.andThen_keeps (Untouched streamId app) (.refl app) fun current aside => ?_
  split
  · exact aside
  · split
    · exact aside
    · exact aside.trans (.of_same id rfl rfl rfl)

section Other

variable {streamId other : UInt64} (different : streamId ≠ other) (app : App setting)
include different

theorem App.sendToRelay_untouched (state : StreamState) (data : List UInt8) (fin : Bool) :
    Untouched other app (app.sendToRelay streamId state data fin).1 := by
  unfold App.sendToRelay
  dsimp only
  split
  · exact .refl app
  · split
    · exact ⟨id, Iff.of_eq (congrArg (· = none) (AList.lookup_erase_ne (Ne.symm different))), rfl,
        [], (List.append_nil _).symm, by simp⟩
    · exact ⟨id, Iff.of_eq (congrArg (· = none) (AList.lookup_insert_ne (Ne.symm different))), rfl,
        [], (List.append_nil _).symm, by simp⟩

theorem App.parsePending_untouched (pending : PendingStream) :
    Untouched other app (app.parsePending streamId pending).1 := by
  unfold App.parsePending
  split
  · exact .refl app
  · split
    · exact .refl app
    · exact ⟨id, Iff.rfl, AList.lookup_insert_ne (Ne.symm different), [],
        (List.append_nil _).symm, by simp⟩
  · next target consumed _ =>
      have apart : ∀ session initial,
          ¬ (Effect.spawnRelay streamId session initial).Concerns other := by
        intro session initial
        simp [Effect.Concerns, Effect.RelayOf, Effect.ParseOf, different]
      cases fin : pending.fin with
      | true =>
          exact .of_emitted id (by simp [App.connectStream, App.emit])
            (by simp [App.connectStream, App.emit]) rfl (apart _ _)
      | false =>
          refine ⟨id, Iff.of_eq (congrArg (· = none) ?_), rfl, [_], rfl, ?_⟩
          · exact AList.lookup_insert_ne (Ne.symm different)
          · intro effect member
            rw [List.mem_singleton.mp member]
            exact apart _ _

theorem App.handleStreamData_untouched (now : Nat) (data : List UInt8) (fin : Bool) :
    Untouched other app (app.handleStreamData now streamId data fin).1 := by
  have received : Untouched other app (app.emit (.received streamId fin)) :=
    .of_emitted id rfl rfl rfl (by simp [Effect.Concerns, Effect.RelayOf, Effect.ParseOf])
  refine received.trans ?_
  unfold App.handleStreamData
  dsimp only
  split
  · refine Attempt.andThen_keeps (Untouched other _)
      (App.reservePreAuth_untouched other _ _ _ _) fun current aside => aside.trans ?_
    exact ⟨id, Iff.rfl, AList.lookup_insert_ne (Ne.symm different), [],
      (List.append_nil _).symm, by simp⟩
  · split
    · exact App.sendToRelay_untouched different _ _ _ _
    · refine .trans ?_ (App.parsePending_untouched different _ _)
      refine ⟨id, Iff.rfl, AList.lookup_erase_ne (Ne.symm different), [_], rfl, ?_⟩
      intro effect member
      rw [List.mem_singleton.mp member]
      simp [Effect.Concerns, Effect.RelayOf, Effect.ParseOf, different]

end Other

theorem App.openStream_parses (app : App setting) (streamId : UInt64) (data : List UInt8)
    (fin : Bool) :
    app.trace ++ [.tryParseConnect streamId (app.extendPending streamId data fin).data] <+:
      (app.openStream streamId data fin).1.trace :=
  ((Later.handlers _).parsePending
    (.refl ({ app with pendingStreams := app.pendingStreams.erase streamId }.emit
      (.tryParseConnect streamId (app.extendPending streamId data fin).data)))
    streamId (app.extendPending streamId data fin)).trace

namespace Connects

variable {streamId : UInt64} {app : App setting}

theorem received (connects : Connects streamId app) (fin : Bool) :
    Connects streamId (app.emit (.received streamId fin)) :=
  connects.untouched (.of_emitted id rfl rfl rfl
    (by simp [Effect.Concerns, Effect.RelayOf, Effect.ParseOf]))

theorem bufferStream (connects : Connects streamId app) (outside : app.authenticated = false)
    (now : Nat) (data : List UInt8) {fin : Bool}
    (finished : fin = true → Finished streamId app.trace) :
    Connects streamId (app.bufferStream now streamId data fin).1 := by
  have unspawned : ¬ Spawned streamId app.trace := fun spawned => by
    simp [connects.inside spawned] at outside
  have reserved := App.reservePreAuth_untouched streamId app now data.length
    (App.newItems app.pendingStreams streamId)
  refine (Attempt.andThen_keeps (fun current : App setting => Connects streamId current ∧
    ¬ Spawned streamId current.trace ∧ (fin = true → Finished streamId current.trace))
    ⟨connects.untouched reserved, unspawned ∘ reserved.spawned_iff.mp,
      reserved.finished ∘ finished⟩ ?_).1
  rintro current ⟨kept, still, ends⟩
  refine ⟨of_unspawned still ?_, still, ends⟩
  intro pending found marked
  have same := Option.some.inj ((AList.lookup_insert current.pendingStreams).symm.trans found)
  rw [← same] at marked
  rcases Bool.or_eq_true_iff.mp marked with earlier | now
  · cases stored : current.pendingStreams.lookup streamId with
    | none => simp [stored] at earlier
    | some held => exact kept.ended held stored (by simpa [stored] using earlier)
  · exact ends now

theorem sendToRelay (connects : Connects streamId app) {state : StreamState}
    (found : app.streams.lookup streamId = some state) (data : List UInt8) {fin : Bool}
    (finished : fin = true → Finished streamId app.trace) :
    Connects streamId (app.sendToRelay streamId state data fin).1 := by
  unfold App.sendToRelay
  dsimp only
  split
  · exact connects
  · split
    · next ends =>
        exact { connects with
          known := fun _ => .inr (.inl (finished ends))
          gone := fun _ => AList.lookup_erase streamId app.streams }
    · next sent _ =>
        refine (Connects.updates streamId).stream app streamId state _ found ?_ connects
        split at sent
        · cases sent
          rfl
        · exact Channel.trySend_capacity sent

theorem connectStream (unspawned : ¬ Spawned streamId app.trace)
    (inside : app.authenticated = true) (absent : app.pendingStreams.lookup streamId = none)
    (target : TargetAddr) (initial : List UInt8) {fin : Bool}
    (finished : fin = true → Finished streamId app.trace) :
    Connects streamId (app.connectStream streamId target initial fin) := by
  have ordered : ∀ session, OneConnect streamId
      (app.trace ++ [.spawnRelay streamId session initial]) := fun session =>
    oneConnect_append_one.mpr
      ⟨oneConnect_of_unspawned unspawned, fun spawned => absurd spawned unspawned⟩
  have remembered : ∀ session, ¬ Forgotten streamId
      (app.trace ++ [.spawnRelay streamId session initial]) := by
    intro session forgotten
    rcases forgotten_append_one forgotten with earlier | closed
    · exact unspawned earlier.spawned
    · cases closed
  cases fin with
  | true =>
      exact {
        ordered := ordered _
        inside := fun _ => inside
        held := fun _ => absent
        known := fun _ => .inr (.inl (finished rfl).append)
        gone := fun forgotten => absurd forgotten (remembered _)
        ended := fun pending found => absurd (absent.symm.trans found) (by simp) }
  | false =>
      have present : (app.connectStream streamId target initial false).streams.lookup streamId =
          some ⟨.bounded channelCapacity⟩ := AList.lookup_insert app.streams
      exact {
        ordered := ordered _
        inside := fun _ => inside
        held := fun _ => absent
        known := fun _ => .inl (by simp [present])
        gone := fun forgotten => absurd forgotten (remembered _)
        ended := fun pending found => absurd (absent.symm.trans found) (by simp) }

theorem parsePending (unspawned : ¬ Spawned streamId app.trace)
    (inside : app.authenticated = true) (absent : app.pendingStreams.lookup streamId = none)
    {pending : PendingStream} (finished : pending.fin = true → Finished streamId app.trace) :
    Connects streamId (app.parsePending streamId pending).1 := by
  have plain : Connects streamId app := of_unspawned unspawned (by simp [absent])
  unfold App.parsePending
  split
  · exact plain
  · split
    · exact plain
    · refine of_unspawned unspawned ?_
      intro other found fin
      have same := Option.some.inj ((AList.lookup_insert app.pendingStreams).symm.trans found)
      exact finished (by rw [same, fin])
  · exact connectStream unspawned inside absent _ _ finished

theorem openStream (connects : Connects streamId app) (unspawned : ¬ Spawned streamId app.trace)
    (inside : app.authenticated = true) (data : List UInt8) {fin : Bool}
    (finished : fin = true → Finished streamId app.trace) :
    Connects streamId (app.openStream streamId data fin).1 := by
  unfold App.openStream
  refine parsePending ?_ ?_ ?_ ?_
  · intro spawned
    rcases spawned_append_one.mp spawned with earlier | own
    · exact unspawned earlier
    · exact own
  · exact inside
  · exact AList.lookup_erase streamId app.pendingStreams
  · intro marked
    rcases Bool.or_eq_true_iff.mp marked with earlier | now
    · cases stored : app.pendingStreams.lookup streamId with
      | none => simp [stored] at earlier
      | some held => exact (connects.ended held stored (by simpa [stored] using earlier)).append
    · exact (finished now).append

/-- Data on a stream is safe unless the stream had a relay and is no longer
known. -/
theorem handleStreamData (connects : Connects streamId app)
    (fresh : Spawned streamId app.trace → app.streams.lookup streamId ≠ none) (now : Nat)
    (data : List UInt8) (fin : Bool) :
    Connects streamId (app.handleStreamData now streamId data fin).1 := by
  have received := connects.received fin
  have finished : fin = true → Finished streamId (app.emit (.received streamId fin)).trace := by
    rintro rfl
    exact List.mem_append_right _ (List.mem_singleton_self _)
  unfold App.handleStreamData
  dsimp only
  split
  · next outside => exact received.bufferStream outside now data finished
  · next inside =>
      split
      · next state found => exact received.sendToRelay found data finished
      · next absent =>
          refine received.openStream ?_ (by simpa using inside) data finished
          intro spawned
          rcases spawned_append_one.mp spawned with earlier | own
          · exact fresh earlier absent
          · exact own

/-- Replaying the streams held back before authentication. -/
theorem replayStreams (connects : Connects streamId app) (now : Nat)
    (order : IterationOrder UInt64 PendingStream) :
    Connects streamId (app.replayStreams now order).1 := by
  refine Attempt.forEach_remaining
    (fun entries current => Connects streamId current ∧ entries.NodupKeys ∧
      (streamId ∈ entries.keys → ¬ Spawned streamId current.trace)) ?_ ?_ ?_
  · rintro current ⟨entryId, pending⟩ entries ⟨kept, distinct, fresh⟩
    obtain ⟨outside, restDistinct⟩ := List.nodupKeys_cons.mp distinct
    unfold App.replayStream
    by_cases same : entryId = streamId
    · subst same
      have unspawned := fresh (by simp [List.keys])
      refine ⟨?_, restDistinct, fun member => absurd member outside⟩
      split
      · exact kept
      · exact kept.handleStreamData (fun spawned => absurd spawned unspawned) now _ _
    · have remaining : streamId ∈ entries.keys → ¬ Spawned streamId current.trace :=
        fun member => fresh (List.mem_cons_of_mem _ member)
      split
      · exact ⟨kept, restDistinct, remaining⟩
      · have aside := App.handleStreamData_untouched same current now pending.data pending.fin
        exact ⟨kept.untouched aside, restDistinct,
          fun member spawned => remaining member (aside.spawned_iff.mp spawned)⟩
  · exact fun _ _ holds => holds.1
  · have sameKeys := (order.perm app.pendingStreams.entries).map Sigma.fst
    refine ⟨{ connects with
      held := fun _ => rfl
      ended := fun pending found => absurd found (by simp) }, ?_, ?_⟩
    · exact sameKeys.nodup_iff.mpr app.pendingStreams.nodupKeys
    · intro member spawned
      have stored : streamId ∈ app.pendingStreams := sameKeys.mem_iff.mp member
      exact absurd (connects.held spawned) (AList.lookup_eq_none.not.mpr (not_not.mpr stored))

/-- Nothing but data after an executed `Close` loses what is known of a stream. -/
theorem step (connects : Connects streamId app) {event : Event}
    (unfinished : ¬ (event.DataOn streamId ∧ Finished streamId app.trace))
    (remembered : ¬ (event.DataOn streamId ∧ Forgotten streamId app.trace)) :
    Connects streamId (app.step event).1 := by
  cases event with
  | uniStream now order other data fin =>
      exact (Connects.updates streamId).handleUnidirectionalStream
        (fun current now order kept => kept.replayStreams now order) connects now order other
        data fin
  | streamData now other data fin =>
      by_cases same : other = streamId
      · subst same
        refine connects.handleStreamData (fun spawned => ?_) now data fin
        rcases connects.known spawned with present | finished | forgotten
        · exact present
        · exact absurd ⟨rfl, finished⟩ unfinished
        · exact absurd ⟨rfl, forgotten⟩ remembered
      · exact connects.untouched (App.handleStreamData_untouched same app now data fin)
  | datagram now data => exact (Connects.updates streamId).handleDatagram connects now data
  | _ => exact (Connects.updates streamId).toBackground.step connects trivial

/-- Data after an executed `Close` is parsed as a header. -/
theorem step_of_forgotten (connects : Connects streamId app) {event : Event}
    (data : event.DataOn streamId) (forgotten : Forgotten streamId app.trace) :
    ¬ OneConnect streamId (app.step event).1.trace := by
  cases event with
  | streamData now other bytes fin =>
      cases data
      have absent := connects.gone forgotten
      have inside := connects.inside forgotten.spawned
      intro ordered
      have parsed : (app.trace ++ [.received streamId fin] ++
          [.tryParseConnect streamId (app.extendPending streamId bytes fin).data]) <+:
          (app.step (.streamData now streamId bytes fin)).1.trace := by
        have opened : (app.step (.streamData now streamId bytes fin)).1 =
            ((app.emit (.received streamId fin)).openStream streamId bytes fin).1 := by
          simp only [App.step, App.handleStreamData_of_inside inside, absent]
        rw [opened]
        exact App.openStream_parses (app.emit (.received streamId fin)) streamId bytes fin
      have earlier : OneConnect streamId (app.trace ++ [.received streamId fin] ++
          [.tryParseConnect streamId (app.extendPending streamId bytes fin).data]) :=
        List.Pairwise.sublist parsed.sublist ordered
      exact ((oneConnect_append_one.mp earlier).2 forgotten.spawned.append).2 rfl
  | _ => exact data.elim

end Connects

/-- In every run in which the client sends nothing on a stream after its end,
the stream gets at most one relay and nothing after the relay is parsed as a
header, exactly if no data arrives on it after the `Close` of its relay has been
executed. -/
theorem one_connect_iff_no_data_after_close (setting : Setting) (start : Nat)
    (events : List Event) (streamId : UInt64)
    (noReuse : (appMachine setting).Meets
      (fun app event => ¬ (event.DataOn streamId ∧ Finished streamId app.trace))
      (App.new setting start) events) :
    OneConnect streamId ((appMachine setting).run (App.new setting start) events).trace ↔
      (appMachine setting).Meets
        (fun app event => ¬ (event.DataOn streamId ∧ Forgotten streamId app.trace))
        (App.new setting start) events := by
  refine Machine.safe_run_iff_meets (appMachine setting) (Connects streamId)
    (fun app => OneConnect streamId app.trace) (fun app connects => connects.ordered) ?_ ?_ ?_
    (Connects.new streamId setting start) noReuse
  · intro app event unfinished remembered connects
    exact connects.step unfinished remembered
  · intro app event unfinished violated connects
    obtain ⟨data, forgotten⟩ := not_not.mp violated
    exact connects.step_of_forgotten data forgotten
  · intro app event ordered
    exact List.Pairwise.sublist (app.step_later event).trace.sublist ordered

/-- A CONNECT header for `127.0.0.1` with the given port. -/
def sampleConnect (port : UInt8) : List UInt8 := [5, 1, 1, 127, 0, 0, 1, 0, port]

def sampleSession (port : UInt16) : Session where
  inbound := "tuic-in"
  command := .connect
  target := .ip (.v4 loopback port)

/-- The relay fails, its `Close` is executed, and the client, who has not seen
that yet, sends payload that reads like a header. -/
def payloadAfterClose : List Event :=
  [.uniStream 1 asStored 2 sampleAuthenticate false, .streamData 2 0 (sampleConnect 80) false,
    .enqueue (.close 0), .processWrites 3 [] [.done], .streamData 4 0 (sampleConnect 25) false]

theorem payload_after_close_opens_second_relay :
    let trace := ((appMachine sampleSetting).run (App.new sampleSetting 0) payloadAfterClose).trace
    ¬ OneConnect 0 trace ∧
      trace.filter (fun effect => effect.RelayOf 0) =
        [.spawnRelay 0 (sampleSession 80) [], .spawnRelay 0 (sampleSession 25) []] ∧
      Effect.received 0 true ∉ trace := by
  decide

/-- The client has sent payload that reads like a header, and its end, before the
`Close` is executed. -/
def payloadBeforeClose : List Event :=
  [.uniStream 1 asStored 2 sampleAuthenticate false,
    .streamData 2 0 (sampleConnect 80 ++ [104]) false, .streamData 3 0 (sampleConnect 25) false,
    .streamData 4 0 [105] true, .enqueue (.close 0), .processWrites 5 [] [.done]]

theorem payload_before_close_stays_payload :
    let trace :=
      ((appMachine sampleSetting).run (App.new sampleSetting 0) payloadBeforeClose).trace
    OneConnect 0 trace ∧
      trace.filter (fun effect => effect.RelayOf 0) = [.spawnRelay 0 (sampleSession 80) [104]] ∧
      Finished 0 trace ∧ Forgotten 0 trace := by
  have remembered : ∀ {trace : List Effect}, Effect.closed 0 ∉ trace → ¬ Forgotten 0 trace := by
    rintro trace unclosed ⟨relay, _, inside⟩
    exact unclosed (inside.subset (by simp))
  refine ⟨(one_connect_iff_no_data_after_close sampleSetting 0 payloadBeforeClose 0 ?_).mpr ?_,
    by decide, by unfold Finished; decide, ?_⟩
  · refine ⟨fun both => both.1, fun both => absurd both.2 ?_, fun both => absurd both.2 ?_,
      fun both => absurd both.2 ?_, fun both => both.1, fun both => both.1, trivial⟩
    all_goals unfold Finished; decide
  · refine ⟨fun both => both.1, fun both => remembered ?_ both.2, fun both => remembered ?_ both.2,
      fun both => remembered ?_ both.2, fun both => both.1, fun both => both.1, trivial⟩
    all_goals decide
  · exact ⟨.spawnRelay 0 (sampleSession 80) [104], rfl, by decide⟩

end Rtunnel.Tuic.Inbound
