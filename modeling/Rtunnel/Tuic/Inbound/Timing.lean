import Mathlib.Data.List.Sigma
import Rtunnel.Tuic.Inbound.Alike
import Rtunnel.Tuic.Inbound.Budget
import Rtunnel.Tuic.Inbound.Segmentation

namespace Rtunnel.Tuic.Inbound

open Rtunnel.Data

/-! When the client authenticates.

Streams that arrive before the AUTHENTICATE command are buffered and replayed.
Replaying a stream is handling all its bytes at once, so the time of the command
does not matter to a stream that is replayed.  One that has ended without a byte
is not replayed: handled at once, it would have ended the connection.
-/

variable {setting : Setting}

/-- The pre-authentication budget and the deadline admit the event. -/
def Within (app : App setting) : Event → Prop
  | .streamData now streamId data _ =>
      (app.reservePreAuth now data.length (App.newItems app.pendingStreams streamId)).2 = .ok ()
  | .uniStream now _ streamId data _ =>
      (app.reservePreAuth now data.length (App.newItems app.uniStreams streamId)).2 = .ok ()
  | _ => True

/-- Nothing but the streams themselves stands in the way of the event. -/
def Fits (app : App setting) (event : Event) : Prop := Within app event ∧ Roomy app event

instance (app : App setting) : (event : Event) → Decidable (Within app event)
  | .streamData now streamId data _ => inferInstanceAs (Decidable
      ((app.reservePreAuth now data.length (App.newItems app.pendingStreams streamId)).2 = .ok ()))
  | .uniStream now _ streamId data _ => inferInstanceAs (Decidable
      ((app.reservePreAuth now data.length (App.newItems app.uniStreams streamId)).2 = .ok ()))
  | .established _ | .beginReads _ | .datagram _ _ | .processWrites _ _ _ | .waitForData _ _ _
  | .enqueue _ | .relayReceives _ | .relayEnds _ | .udpRelayReceives _ | .udpRelayEnds _ =>
      .isTrue trivial

instance (app : App setting) (event : Event) : Decidable (Fits app event) :=
  inferInstanceAs (Decidable (_ ∧ _))

/-- A complete AUTHENTICATE command of one of the users. -/
structure ValidAuthenticate (setting : Setting) (command : List UInt8) : Prop where
  complete : App.authComplete setting command = true
  exact : command.length = authenticateLen
  verified : ∃ user, App.verify setting command = .ok user

/-- What has been received on every stream of a new connection. -/
def receivedIn (events : List Event) : UInt64 → PendingStream :=
  receivedAfter (fun _ => .fresh) events

/-- The client has ended the stream without sending a byte on it. -/
def EndedEmpty (events : List Event) (streamId : UInt64) : Prop :=
  receivedIn events streamId = ⟨[], true⟩

instance (events : List Event) (streamId : UInt64) : Decidable (EndedEmpty events streamId) :=
  inferInstanceAs (Decidable (_ = _))

structure SameStream (streamId : UInt64) (first second : Watched setting) : Prop where
  sessions : first.sessions streamId = second.sessions streamId
  once : (first.sessions streamId).length ≤ 1
  payload : first.payload streamId = second.payload streamId
  closed : (first.app.streams.lookup streamId).isSome =
    (second.app.streams.lookup streamId).isSome

/-- Both runs end in an error, or neither does and they agree on every stream. -/
def SameOutcome (first second : Attempt (Watched setting) Error) : Prop :=
  (first.Fails ∧ second.Fails) ∨
    (first.2 = .ok () ∧ second.2 = .ok () ∧
      ∀ streamId, SameStream streamId first.1 second.1)

/-- The streams of a connection that waits for authentication are all held back. -/
structure Held (received : UInt64 → PendingStream) (watched : Watched setting) : Prop where
  outside : watched.app.authenticated = false
  streams : watched.app.streams = ∅
  uniStreams : watched.app.uniStreams = ∅
  commands : watched.app.pendingUniCommands = []
  datagrams : watched.app.pendingDatagrams = []
  pending : ∀ streamId,
    (watched.app.pendingStreams.lookup streamId).getD .fresh = received streamId
  given : watched.given = []

theorem App.reservePreAuth_eq_ok {app : App setting} (outside : app.authenticated = false)
    {now bytes items : Nat} (admitted : (app.reservePreAuth now bytes items).2 = .ok ()) :
    app.reservePreAuth now bytes items = (app.charge bytes items, .ok ()) ∧
      app.checkAuthenticationDeadline now = .ok () := by
  unfold App.reservePreAuth at admitted ⊢
  cases check : app.checkAuthenticationDeadline now with
  | error reason =>
      rw [check, Attempt.andThen_error] at admitted
      cases admitted
  | ok done =>
      cases done
      rw [check, Attempt.andThen_ok, if_neg (by simp [outside])] at admitted
      rw [Attempt.andThen_ok, if_neg (by simp [outside])]
      split at admitted
      · cases admitted
      · next admits => exact ⟨if_neg admits, rfl⟩

section Before

variable {received : UInt64 → PendingStream} {watched : Watched setting} {event : Event}
  {events : List Event}

theorem Held.start (setting : Setting) (start : Nat) :
    Held (fun _ => .fresh) (Watched.mk (App.new setting start) []) :=
  ⟨rfl, rfl, rfl, rfl, rfl, fun _ => rfl, rfl⟩

theorem Held.step (held : Held received watched) (streaming : event.Streaming)
    (within : Within watched.app event) :
    (watched.step event).2 = .ok () ∧ Held (event.extend received) (watched.step event).1 := by
  cases event with
  | streamData now used data fin =>
      have admitted := (App.reservePreAuth_emit watched.app (.received used fin) now data.length
        (App.newItems watched.app.pendingStreams used)).trans within
      have outside : (watched.app.emit (.received used fin)).authenticated = false := held.outside
      obtain ⟨charged, _⟩ := App.reservePreAuth_eq_ok outside admitted
      have handled : watched.app.step (.streamData now used data fin) =
          ({ (watched.app.emit (.received used fin)).charge data.length
              (App.newItems watched.app.pendingStreams used) with
            pendingStreams := watched.app.pendingStreams.insert used
              (watched.app.extendPending used data fin) }, .ok ()) := by
        have buffered : watched.app.step (.streamData now used data fin) =
            (watched.app.emit (.received used fin)).bufferStream now used data fin :=
          if_pos held.outside
        have items : App.newItems (watched.app.emit (.received used fin)).pendingStreams used =
            App.newItems watched.app.pendingStreams used := rfl
        rw [buffered, App.bufferStream, items, charged]
        rfl
      have gives : watched.app.gives (.streamData now used data fin) = [] := by
        rw [App.gives_of_trace (congrArg (fun done => done.1.trace) handled)]
        simp only [App.message, held.streams, AList.lookup_empty]
        rfl
      refine ⟨congrArg Prod.snd handled, ?_⟩
      simp only [Watched.step, handled, gives, List.append_nil]
      refine ⟨held.outside, held.streams, held.uniStreams, held.commands, held.datagrams, ?_,
        held.given⟩
      intro streamId
      by_cases same : streamId = used
      · subst same
        rw [Event.extend, Function.update_self, AList.lookup_insert, ← held.pending streamId]
        rfl
      · rw [Event.extend, Function.update_of_ne same, AList.lookup_insert_ne same]
        exact held.pending streamId
  | relayReceives used =>
      have handled : watched.app.step (.relayReceives used) = (watched.app, .ok ()) := by
        simp only [App.step, App.updateStream, held.streams, AList.lookup_empty]
      have gives : watched.app.gives (.relayReceives used) = [] := by
        simp [App.gives, App.message, handled]
      refine ⟨congrArg Prod.snd handled, ?_⟩
      simp only [Watched.step, handled, gives, List.append_nil]
      exact held
  | _ => exact streaming.elim

/-- Before the command every stream is held back, and no call fails. -/
theorem Held.handleAll (held : Held received watched)
    (streaming : ∀ event ∈ events, event.Streaming)
    (fits : (appMachine setting).Meets Fits watched.app events) :
    (watched.handleAll events).2 = .ok () ∧
      Held (receivedAfter received events) (watched.handleAll events).1 ∧
      (watched.handleAll events).1.app = (appMachine setting).run watched.app events := by
  induction events generalizing received watched with
  | nil => exact ⟨rfl, held, rfl⟩
  | cons event events ih =>
      obtain ⟨handled, next⟩ := held.step (streaming event List.mem_cons_self) fits.1.1
      have rest : ∀ other ∈ events, other.Streaming :=
        fun other member => streaming other (List.mem_cons_of_mem event member)
      rw [Watched.handleAll_cons, Attempt.andThen_of_ok handled]
      exact ih next rest fits.2

end Before

/-- Replaying a buffered stream, as an event of its own. -/
def replayEvent (now : Nat) (entry : Sigma fun _ : UInt64 => PendingStream) : Option Event :=
  if entry.2.data = [] then none else some (.streamData now entry.1 entry.2.data entry.2.fin)

def replayEvents (now : Nat) (entries : List (Sigma fun _ : UInt64 => PendingStream)) :
    List Event :=
  entries.filterMap (replayEvent now)

/-- Data for a stream that has no relay. -/
def Opens (app : App setting) : Event → Prop
  | .streamData _ streamId _ _ => app.streams.lookup streamId = none
  | _ => False

section Replay

variable {now : Nat} {entries : List (Sigma fun _ : UInt64 => PendingStream)}
  {app : App setting} {watched : Watched setting} {events : List Event}

theorem replay_eq_forEach (app : App setting) (now : Nat)
    (entries : List (Sigma fun _ : UInt64 => PendingStream)) :
    Attempt.forEach (fun app entry => app.replayStream now entry) app entries =
      Attempt.forEach App.step app (replayEvents now entries) := by
  induction entries generalizing app with
  | nil => rfl
  | cons entry entries ih =>
      simp only [replayEvents, List.filterMap_cons, replayEvent, Attempt.forEach,
        App.replayStream]
      by_cases empty : entry.2.data = []
      · simp only [if_pos empty, Attempt.andThen_ok]
        exact ih app
      · simp only [if_neg empty, Attempt.forEach]
        exact congrArg (Attempt.andThen _) (funext ih)

theorem Watched.handleAll_app (watched : Watched setting) (events : List Event) :
    ((watched.handleAll events).1.app, (watched.handleAll events).2) =
      Attempt.forEach App.step watched.app events := by
  induction events generalizing watched with
  | nil => rfl
  | cons event events ih =>
      rw [Watched.handleAll_cons, Attempt.forEach]
      cases outcome : (watched.app.step event).2 with
      | error reason =>
          have failed : (watched.step event).2 = .error reason := outcome
          rw [Attempt.andThen_of_error failed, Attempt.andThen_of_error outcome]
          rfl
      | ok done =>
          have handled : (watched.step event).2 = .ok () := outcome
          rw [Attempt.andThen_of_ok handled, Attempt.andThen_of_ok outcome]
          exact ih (watched.step event).1

theorem Watched.handleAll_later (watched : Watched setting) (events : List Event) :
    Later watched.app (watched.handleAll events).1.app :=
  Attempt.forEach_keeps (fun current : Watched setting => Later watched.app current.app)
    (fun current event later => later.trans (App.step_later current.app event)) (.refl watched.app)
    events

/-- Without messages to relays, the record is what the trace says. -/
theorem Watched.handleAll_given
    (silent : (appMachine setting).Meets (fun app event => app.message event = []) watched.app
      events) :
    (watched.handleAll events).1.given = watched.given ++
      ((watched.handleAll events).1.app.trace.drop watched.app.trace.length).filterMap
        Effect.opening := by
  induction events generalizing watched with
  | nil => simp [Watched.handleAll, Attempt.forEach]
  | cons event events ih =>
      obtain ⟨added, grown⟩ := (App.step_later watched.app event).trace
      have gives : watched.app.gives event = added.filterMap Effect.opening := by
        rw [App.gives_of_trace grown.symm, silent.1, List.append_nil]
      rw [Watched.handleAll_cons]
      cases outcome : (watched.step event).2 with
      | error reason =>
          rw [Attempt.andThen_of_error outcome]
          simp only [Watched.step, gives, ← grown, List.drop_left]
      | ok done =>
          rw [Attempt.andThen_of_ok outcome]
          obtain ⟨further, later⟩ := ((watched.step event).1.handleAll_later events).trace
          have start : (watched.step event).1.app.trace = watched.app.trace ++ added := grown.symm
          have before : (watched.step event).1.given = watched.given ++
              added.filterMap Effect.opening := congrArg (watched.given ++ ·) gives
          have rest : ((watched.step event).1.handleAll events).1.given = _ := ih silent.2
          rw [rest, before, ← later, List.drop_left, start, List.append_assoc watched.app.trace,
            List.drop_left, List.filterMap_append, List.append_assoc]

/-- Streams of different ids have no relay when their turn comes. -/
theorem meets_opens (inside : app.authenticated = true) (distinct : entries.NodupKeys)
    (unknown : ∀ entry ∈ entries, app.streams.lookup entry.1 = none) :
    (appMachine setting).Meets Opens app (replayEvents now entries) := by
  induction entries generalizing app with
  | nil => trivial
  | cons entry entries ih =>
      obtain ⟨apart, later⟩ := List.nodupKeys_cons.mp distinct
      have rest : ∀ other ∈ entries, app.streams.lookup other.1 = none :=
        fun other member => unknown other (List.mem_cons_of_mem entry member)
      simp only [replayEvents, List.filterMap_cons, replayEvent]
      by_cases empty : entry.2.data = []
      · simp only [if_pos empty]
        exact ih inside later rest
      · simp only [if_neg empty]
        refine ⟨unknown entry List.mem_cons_self, ?_⟩
        refine ih ((App.step_later app _).authenticated inside) later fun other member => ?_
        have different : entry.1 ≠ other.1 := fun same =>
          apart (same ▸ List.mem_keys_of_mem member)
        have untouched :=
          App.handleStreamData_untouched different app now entry.2.data entry.2.fin
        exact untouched.streams.mpr (rest other member)

theorem Opens.roomy {event : Event} (opens : Opens app event) : Roomy app event := by
  cases event with
  | streamData now streamId data fin =>
      have unknown : app.streams.lookup streamId = none := opens
      simp only [Roomy, unknown]
  | _ => exact opens.elim

theorem Opens.message {event : Event} (opens : Opens app event) : app.message event = [] := by
  cases event with
  | streamData now streamId data fin =>
      have unknown : app.streams.lookup streamId = none := opens
      simp only [App.message, unknown]
  | _ => exact opens.elim

/-- What the replay brings to every stream. -/
theorem receivedAfter_replayEvents (distinct : entries.NodupKeys)
    (received : UInt64 → PendingStream) (streamId : UInt64) :
    receivedAfter received (replayEvents now entries) streamId =
      match entries.dlookup streamId with
      | none => received streamId
      | some pending =>
          if pending.data = [] then received streamId
          else (received streamId).extend pending.data pending.fin := by
  induction entries generalizing received with
  | nil => rfl
  | cons entry entries ih =>
      obtain ⟨apart, later⟩ := List.nodupKeys_cons.mp distinct
      obtain ⟨used, pending⟩ := entry
      have rest := fun received => ih later received
      by_cases same : streamId = used
      · subst same
        have absent : entries.dlookup streamId = none := List.dlookup_eq_none.mpr apart
        rw [List.dlookup_cons_eq]
        simp only [absent] at rest
        by_cases empty : pending.data = []
        · simp only [replayEvents, List.filterMap_cons, replayEvent, if_pos empty]
          exact rest received
        · simp only [replayEvents, List.filterMap_cons, replayEvent, if_neg empty]
          refine (rest _).trans ?_
          exact Function.update_self ..
      · rw [List.dlookup_cons_ne _ _ same]
        by_cases empty : pending.data = []
        · simp only [replayEvents, List.filterMap_cons, replayEvent, if_pos empty]
          exact rest received
        · simp only [replayEvents, List.filterMap_cons, replayEvent, if_neg empty]
          refine (rest _).trans ?_
          simp only [Event.extend, Function.update_of_ne same]

theorem replayEvents_admissible (distinct : entries.NodupKeys) :
    Admissible (fun _ => True) (fun _ => .fresh) (replayEvents now entries) where
  streaming event member := by
    obtain ⟨entry, _, replayed⟩ := List.mem_filterMap.mp member
    unfold replayEvent at replayed
    split at replayed <;> cases replayed
    trivial
  among _ _ _ _ := trivial
  unfinished _ _ _ _ := rfl
  orderly := by
    refine List.pairwise_filterMap.mpr ((List.nodupKeys_iff_pairwise.mp distinct).imp ?_)
    intro earlier later apart first replayed second replayedLater streamId ends carries
    unfold replayEvent at replayed replayedLater
    split at replayed <;> cases replayed
    split at replayedLater <;> cases replayedLater
    exact apart (ends.1.trans carries.symm)

theorem App.handleAuthData_of_verified {order : IterationOrder UInt64 PendingStream}
    {data : List UInt8} {user : TuicUser}
    (timely : app.checkAuthenticationDeadline now = .ok ())
    (verified : App.verify setting data = .ok user) (commands : app.pendingUniCommands = [])
    (datagrams : app.pendingDatagrams = []) :
    app.handleAuthData now order data =
      ((app.emit (.authenticate now app.authenticationDeadline data)).admitUser user).replayStreams
        now order := by
  have sameCheck : (app.emit (.authenticate now app.authenticationDeadline
      data)).checkAuthenticationDeadline now = .ok () := timely
  simp only [App.handleAuthData, sameCheck, Attempt.andThen_ok, verified]
  generalize admittedEq : (app.emit (.authenticate now app.authenticationDeadline
    data)).admitUser user = admitted
  have noCommands : admitted.pendingUniCommands = [] := by
    rw [← admittedEq]
    exact commands
  have noDatagrams : admitted.pendingDatagrams = [] := by
    rw [← admittedEq]
    exact datagrams
  rw [App.replayCommands_of_empty now noCommands, Attempt.andThen_ok,
    App.replayDatagrams_of_empty now noDatagrams, Attempt.andThen_ok]

/-- A valid AUTHENTICATE is executed whether or not its stream ends with it. -/
theorem App.advanceUniStream_of_valid (app : App setting) {command : List UInt8}
    (valid : ValidAuthenticate setting command) (now : Nat)
    (order : IterationOrder UInt64 PendingStream) (streamId : UInt64) (fin : Bool) :
    ∃ uniStreams, app.advanceUniStream now order streamId command fin =
      (app.withUni uniStreams).handleAuthData now order command := by
  unfold App.advanceUniStream
  dsimp only
  rw [if_neg (by simp [valid.exact]), if_neg (by simp [valid.complete]),
    App.handleUnidirectionalCommand_of_authComplete valid.complete]
  cases fin with
  | true => exact ⟨_, rfl⟩
  | false => exact ⟨_, rfl⟩

variable {received : UInt64 → PendingStream} {command : List UInt8}
  {order : IterationOrder UInt64 PendingStream} {streamId : UInt64} {fin : Bool}

/-- A valid AUTHENTICATE admits the user and replays what has been held back. -/
theorem Held.admits (held : Held received watched) (valid : ValidAuthenticate setting command)
    (within : Within watched.app (.uniStream now order streamId command fin)) :
    ∃ admitted : App setting, admitted.authenticated = true ∧ admitted.streams = ∅ ∧
      admitted.pendingStreams = ∅ ∧
      admitted.trace = watched.app.trace ++
        [.authenticate now watched.app.authenticationDeadline command] ∧
      watched.app.step (.uniStream now order streamId command fin) =
        Attempt.forEach App.step admitted
          (replayEvents now (order.arrange watched.app.pendingStreams.entries)) := by
  obtain ⟨charged, timely⟩ := App.reservePreAuth_eq_ok held.outside within
  obtain ⟨user, verified⟩ := valid.verified
  generalize chargedEq : watched.app.charge command.length
    (App.newItems watched.app.uniStreams streamId) = paid at charged
  obtain ⟨uniStreams, executed⟩ := paid.advanceUniStream_of_valid valid now order streamId fin
  have handled : watched.app.step (.uniStream now order streamId command fin) =
      (paid.withUni uniStreams).handleAuthData now order command := by
    have empty : paid.uniStreams.lookup streamId = none := by
      rw [← chargedEq]
      exact congrArg (·.lookup streamId) held.uniStreams
    simp only [App.step, App.handleUnidirectionalStream, charged, Attempt.andThen_ok, empty,
      Option.getD_none, List.nil_append]
    exact executed
  subst chargedEq
  let named := ((watched.app.charge command.length
    (App.newItems watched.app.uniStreams streamId)).withUni uniStreams)
  have replayed : named.handleAuthData now order command =
      ((named.emit (.authenticate now named.authenticationDeadline command)).admitUser
        user).replayStreams now order :=
    App.handleAuthData_of_verified timely verified held.commands held.datagrams
  refine ⟨{ (named.emit (.authenticate now named.authenticationDeadline command)).admitUser
    user with pendingStreams := ∅ }, rfl, held.streams, rfl, rfl, ?_⟩
  rw [handled]
  exact replayed.trans (replay_eq_forEach _ now _)

/-- The replay as a run of its own, from a connection that has just been admitted. -/
theorem Held.authenticate (held : Held received watched)
    (valid : ValidAuthenticate setting command)
    (within : Within watched.app (.uniStream now order streamId command fin)) :
    ∃ admitted : App setting, admitted.authenticated = true ∧ admitted.streams = ∅ ∧
      admitted.pendingStreams = ∅ ∧
      watched.step (.uniStream now order streamId command fin) =
        (Watched.mk admitted []).handleAll
          (replayEvents now (order.arrange watched.app.pendingStreams.entries)) := by
  obtain ⟨admitted, inside, streams, pending, trace, replayed⟩ := held.admits valid within
  refine ⟨admitted, inside, streams, pending, ?_⟩
  have distinct : (order.arrange watched.app.pendingStreams.entries).NodupKeys :=
    (List.perm_nodupKeys (order.perm _)).mpr watched.app.pendingStreams.nodupKeys
  generalize order.arrange watched.app.pendingStreams.entries = entries at distinct replayed ⊢
  have opens : (appMachine setting).Meets Opens admitted (replayEvents now entries) :=
    meets_opens inside distinct fun entry _ => by rw [streams]; rfl
  have silent : (appMachine setting).Meets (fun app event => app.message event = [])
      (Watched.mk admitted []).app (replayEvents now entries) :=
    (appMachine setting).meets_mono (fun _ => True) (fun _ _ _ => trivial)
      (fun _ _ _ opens => opens.message) trivial opens
  have given := Watched.handleAll_given silent
  have run := Watched.handleAll_app (Watched.mk admitted []) (replayEvents now entries)
  obtain ⟨added, later⟩ :=
    ((Watched.mk admitted []).handleAll_later (replayEvents now entries)).trace
  rw [← replayed] at run
  generalize (Watched.mk admitted []).handleAll (replayEvents now entries) = result
    at given run later ⊢
  obtain ⟨⟨app, record⟩, outcome⟩ := result
  dsimp only at given run later
  have grown : (watched.app.step (.uniStream now order streamId command fin)).1.trace =
      watched.app.trace ++
        ([.authenticate now watched.app.authenticationDeadline command] ++ added) := by
    rw [← run, ← List.append_assoc, ← trace]
    exact later.symm
  have gives : watched.app.gives (.uniStream now order streamId command fin) = record := by
    rw [App.gives_of_trace grown, given, ← later, List.drop_left]
    exact List.append_nil _
  simp only [Watched.step, held.given, gives, ← run, List.nil_append]

end Replay

/-- What the replay makes known of a stream: all of it, unless there is no byte. -/
def replayed (received : PendingStream) : PendingStream :=
  if received.data = [] then .fresh else received

section After

variable {group : UInt64 → Prop} {received : UInt64 → PendingStream} {watched : Watched setting}
  {events early late : List Event} {streamId : UInt64}

theorem replayed_fin {pending : PendingStream} (unfinished : pending.fin = false) :
    (replayed pending).fin = false := by
  unfold replayed
  split
  · rfl
  · exact unfinished

/-- Replaying what is held back leaves every stream as if `replayed` had arrived. -/
theorem Held.replays (held : Held received watched)
    (order : IterationOrder UInt64 PendingStream) (now : Nat) :
    receivedAfter (fun _ => .fresh)
      (replayEvents now (order.arrange watched.app.pendingStreams.entries)) =
        fun streamId => replayed (received streamId) := by
  have distinct := watched.app.pendingStreams.nodupKeys
  have arranged : (order.arrange watched.app.pendingStreams.entries).NodupKeys :=
    (List.perm_nodupKeys (order.perm _)).mpr distinct
  funext streamId
  have found := List.perm_dlookup streamId arranged (order.perm _)
  have pending := held.pending streamId
  rw [receivedAfter_replayEvents arranged, found, ← pending]
  change _ = replayed ((List.dlookup streamId watched.app.pendingStreams.entries).getD .fresh)
  cases List.dlookup streamId watched.app.pendingStreams.entries with
  | none => rfl
  | some pending => rfl

/-- From a valid AUTHENTICATE on, the run comes to the fate of every stream, except
that a stream without a byte counts as fresh. -/
theorem Held.resume (decisive : setting.core.Decisive) (held : Held received watched)
    {now : Nat} {order : IterationOrder UInt64 PendingStream} {used : UInt64}
    {command : List UInt8} {fin : Bool} (valid : ValidAuthenticate setting command)
    (admissible : Admissible (fun _ => True) received late)
    (fits : (appMachine setting).Meets Fits watched.app
      (.uniStream now order used command fin :: late)) :
    ((watched.handleAll (.uniStream now order used command fin :: late)).2 = .ok () ∧
      Stands (fun _ => True) (receivedAfter (fun streamId => replayed (received streamId)) late)
        (watched.handleAll (.uniStream now order used command fin :: late)).1) ∨
    ((watched.handleAll (.uniStream now order used command fin :: late)).Fails ∧
      ∃ streamId, Doomed setting.core
        (receivedAfter (fun streamId => replayed (received streamId)) late streamId)) := by
  have roomy : (appMachine setting).Meets Roomy
      (watched.step (.uniStream now order used command fin)).1.app late :=
    (appMachine setting).meets_mono (fun _ => True) (fun _ _ _ => trivial)
      (fun _ _ _ fits => fits.2) trivial fits.2
  have onward : Admissible (fun _ => True) (fun streamId => replayed (received streamId)) late :=
    { admissible with
      unfinished := fun event member streamId carries =>
        replayed_fin (admissible.unfinished event member streamId carries) }
  have replays := held.replays order now
  have arranged : (order.arrange watched.app.pendingStreams.entries).NodupKeys :=
    (List.perm_nodupKeys (order.perm _)).mpr watched.app.pendingStreams.nodupKeys
  obtain ⟨admitted, inside, streams, pending, stepped⟩ := held.authenticate valid fits.1.1
  have start : Stands (fun _ => True) (fun _ => .fresh) (Watched.mk admitted []) := by
    refine ⟨inside, fun streamId _ => ?_⟩
    simp only [Follows, fate_fresh decisive]
    exact ⟨by rw [streams]; rfl, by rw [pending]; rfl, rfl, rfl⟩
  have opens : (appMachine setting).Meets Roomy (Watched.mk admitted []).app
      (replayEvents now (order.arrange watched.app.pendingStreams.entries)) :=
    (appMachine setting).meets_mono (fun _ => True) (fun _ _ _ => trivial)
      (fun _ _ _ opens => Opens.roomy opens) trivial
      (meets_opens inside arranged fun entry _ => by rw [streams]; rfl)
  have replay := start.handleAll decisive (replayEvents_admissible arranged) opens
  rw [replays, ← stepped] at replay
  rw [Watched.handleAll_cons]
  rcases replay with ⟨handled, stands⟩ | ⟨⟨reason, failed⟩, streamId, _, doomed⟩
  · rw [Attempt.andThen_of_ok handled]
    rcases stands.handleAll decisive onward roomy with done | ⟨failed, streamId, _, doomed⟩
    · exact .inl done
    · exact .inr ⟨failed, streamId, doomed⟩
  · rw [Attempt.andThen_of_error failed]
    exact .inr ⟨⟨reason, failed⟩, streamId, onward.doomed decisive doomed⟩

theorem Admissible.append (admissible : Admissible group received (early ++ late)) :
    Admissible group (receivedAfter received early) late := by
  induction early generalizing received with
  | nil => exact admissible
  | cons event early ih => exact ih admissible.tail

/-- What is received on a stream depends on that stream alone. -/
theorem receivedAfter_congr {other : UInt64 → PendingStream}
    (same : received streamId = other streamId) (events : List Event) :
    receivedAfter received events streamId = receivedAfter other events streamId := by
  induction events generalizing received other with
  | nil => exact same
  | cons event events ih =>
      refine ih ?_
      cases event with
      | streamData now used data fin =>
          by_cases own : streamId = used
          · subst own
            rw [Event.extend, Event.extend, Function.update_self, Function.update_self, same]
          · rw [Event.extend, Event.extend, Function.update_of_ne own, Function.update_of_ne own,
              same]
      | _ => exact same

theorem receivedAfter_of_quiet (quiet : ∀ event ∈ events, ¬ event.DataOn streamId)
    (received : UInt64 → PendingStream) :
    receivedAfter received events streamId = received streamId := by
  induction events generalizing received with
  | nil => rfl
  | cons event events ih =>
      refine (ih (fun other member => quiet other (List.mem_cons_of_mem event member)) _).trans ?_
      have silent := quiet event List.mem_cons_self
      cases event with
      | streamData now used data fin =>
          exact Function.update_of_ne (fun own => silent own.symm) ..
      | _ => rfl

/-- The run with the command in between knows of every stream what there is to know,
but takes one that had ended empty for a fresh one. -/
theorem receivedAfter_replayed (admissible : Admissible (fun _ => True) (receivedIn early) late)
    (streamId : UInt64) :
    (EndedEmpty early streamId → receivedAfter
      (fun streamId => replayed (receivedIn early streamId)) late streamId = .fresh ∧
        receivedIn (early ++ late) streamId = ⟨[], true⟩) ∧
    (¬ EndedEmpty early streamId → receivedAfter
      (fun streamId => replayed (receivedIn early streamId)) late streamId =
        receivedIn (early ++ late) streamId) := by
  have whole : receivedIn (early ++ late) streamId =
      receivedAfter (receivedIn early) late streamId := by
    simp only [receivedIn, receivedAfter, List.foldl_append]
  rw [whole]
  constructor
  · intro empty
    have quiet : ∀ event ∈ late, ¬ event.DataOn streamId := by
      intro event member carries
      have unfinished := admissible.unfinished event member streamId carries
      rw [empty] at unfinished
      cases unfinished
    rw [receivedAfter_of_quiet quiet, receivedAfter_of_quiet quiet]
    exact ⟨by rw [empty]; rfl, empty⟩
  · intro full
    refine receivedAfter_congr ?_ late
    unfold replayed
    split
    · next none =>
        unfold EndedEmpty at full
        generalize receivedIn early streamId = pending at none full ⊢
        obtain ⟨data, fin⟩ := pending
        cases fin with
        | true => exact absurd (congrArg (PendingStream.mk · true) none) full
        | false => exact congrArg (PendingStream.mk · false) none.symm
    · rfl

theorem Follows.sameStream {first second : Watched setting} {pending : PendingStream}
    (follows : Follows first streamId pending) (alike : Follows second streamId pending) :
    SameStream streamId first second := by
  unfold Follows at follows alike
  split at follows
  · exact follows.elim
  · next waits =>
      simp only [waits] at alike
      refine ⟨follows.sessions.trans alike.sessions.symm, ?_,
        follows.payload.trans alike.payload.symm, ?_⟩
      · rw [follows.sessions]
        exact Nat.zero_le 1
      · rw [follows.unknown, alike.unknown]
  · next relays =>
      simp only [relays] at alike
      refine ⟨follows.sessions.trans alike.sessions.symm, ?_,
        follows.payload.trans alike.payload.symm, follows.known.trans alike.known.symm⟩
      rw [follows.sessions]
      exact le_refl 1

theorem not_doomed_fresh {core : TuicCore} (decisive : core.Decisive) : ¬ Doomed core .fresh := by
  rintro ⟨reason, refused⟩
  rw [fate_fresh decisive] at refused
  cases refused

theorem doomed_of_empty {core : TuicCore} (decisive : core.Decisive) : Doomed core ⟨[], true⟩ :=
  ⟨_, by simp only [fate, tryParseConnect_nil decisive]; rfl⟩

/-- Two runs that come to what is known of the streams, where one of them takes
streams that had ended empty for fresh ones. -/
theorem sameOutcome_iff (decisive : setting.core.Decisive)
    {between ahead : Attempt (Watched setting) Error} {known : UInt64 → PendingStream}
    (relation : ∀ streamId,
      (EndedEmpty early streamId → known streamId = .fresh ∧
        receivedIn events streamId = ⟨[], true⟩) ∧
      (¬ EndedEmpty early streamId → known streamId = receivedIn events streamId))
    (first : (between.2 = .ok () ∧ Stands (fun _ => True) known between.1) ∨
      (between.Fails ∧ ∃ streamId, Doomed setting.core (known streamId)))
    (second : (ahead.2 = .ok () ∧ Stands (fun _ => True) (receivedIn events) ahead.1) ∨
      (ahead.Fails ∧ ∃ streamId, Doomed setting.core (receivedIn events streamId))) :
    SameOutcome between ahead ↔ (∀ streamId, ¬ EndedEmpty early streamId) ∨
      ∃ streamId, ¬ EndedEmpty early streamId ∧
        Doomed setting.core (receivedIn events streamId) := by
  have replayedDoom : ∀ streamId, Doomed setting.core (known streamId) →
      ¬ EndedEmpty early streamId ∧ Doomed setting.core (receivedIn events streamId) := by
    intro streamId doomed
    have full : ¬ EndedEmpty early streamId := by
      intro empty
      rw [((relation streamId).1 empty).1] at doomed
      exact not_doomed_fresh decisive doomed
    exact ⟨full, (relation streamId).2 full ▸ doomed⟩
  have emptyDoom : ∀ streamId, EndedEmpty early streamId →
      Doomed setting.core (receivedIn events streamId) := by
    intro streamId empty
    rw [((relation streamId).1 empty).2]
    exact doomed_of_empty decisive
  constructor
  · rintro (⟨failed, _⟩ | ⟨_, succeeded, _⟩)
    · rcases first with ⟨succeeded, _⟩ | ⟨_, streamId, doomed⟩
      · exact absurd succeeded failed.not_ok
      · exact .inr ⟨streamId, replayedDoom streamId doomed⟩
    · rcases second with ⟨_, stands⟩ | ⟨failed, _⟩
      · exact .inl fun streamId empty =>
          (stands.follows streamId trivial).not_doomed (emptyDoom streamId empty)
      · exact absurd succeeded failed.not_ok
  · intro condition
    rcases first with ⟨succeeded, stands⟩ | ⟨failed, streamId, doomed⟩
    · have full : ∀ streamId, ¬ EndedEmpty early streamId := by
        rcases condition with full | ⟨streamId, full, doomed⟩
        · exact full
        · rw [← (relation streamId).2 full] at doomed
          exact absurd doomed (stands.follows streamId trivial).not_doomed
      have same : ∀ streamId, known streamId = receivedIn events streamId :=
        fun streamId => (relation streamId).2 (full streamId)
      rcases second with ⟨also, standsAhead⟩ | ⟨_, streamId, doomed⟩
      · refine .inr ⟨succeeded, also, fun streamId => ?_⟩
        have follows := stands.follows streamId trivial
        rw [same streamId] at follows
        exact follows.sameStream (standsAhead.follows streamId trivial)
      · rw [← same streamId] at doomed
        exact absurd doomed (stands.follows streamId trivial).not_doomed
    · rcases second with ⟨_, standsAhead⟩ | ⟨failedAhead, _⟩
      · exact absurd (replayedDoom streamId doomed).2
          (standsAhead.follows streamId trivial).not_doomed
      · exact .inl ⟨failed, failedAhead⟩

end After

/-- Whether the client authenticates before its streams or in between makes no
difference, exactly as long as no stream had ended empty by then, or another
stream ends the connection anyway. -/
theorem authentication_time_does_not_matter_iff (decisive : setting.core.Decisive) (start : Nat)
    (early late : List Event) (streaming : ∀ event ∈ early ++ late, event.Streaming)
    (orderly : Orderly (early ++ late)) (now : Nat) (order : IterationOrder UInt64 PendingStream)
    (used : UInt64) (command : List UInt8) (fin : Bool) (valid : ValidAuthenticate setting command)
    (between : (appMachine setting).Meets Fits (App.new setting start)
      (early ++ .uniStream now order used command fin :: late))
    (ahead : (appMachine setting).Meets Fits (App.new setting start)
      (.uniStream now order used command fin :: (early ++ late))) :
    SameOutcome
      ((Watched.mk (App.new setting start) []).handleAll
        (early ++ .uniStream now order used command fin :: late))
      ((Watched.mk (App.new setting start) []).handleAll
        (.uniStream now order used command fin :: (early ++ late))) ↔
    (∀ streamId, ¬ EndedEmpty early streamId) ∨
      ∃ streamId, ¬ EndedEmpty early streamId ∧
        Doomed setting.core (receivedIn (early ++ late) streamId) := by
  have admissible : Admissible (fun _ => True) (fun _ => .fresh) (early ++ late) :=
    ⟨streaming, fun _ _ _ _ => trivial, fun _ _ _ _ => rfl, orderly⟩
  have laterOn : Admissible (fun _ => True) (receivedIn early) late := admissible.append
  have known := receivedAfter_replayed laterOn
  obtain ⟨fitsEarly, fitsLate⟩ := ((appMachine setting).meets_append _ early _).mp between
  obtain ⟨buffered, held, reached⟩ := (Held.start setting start).handleAll
    (fun event member => streaming event (List.mem_append_left late member)) fitsEarly
  have resumed : (Watched.mk (App.new setting start) []).handleAll
      (early ++ .uniStream now order used command fin :: late) =
      ((Watched.mk (App.new setting start) []).handleAll early).1.handleAll
        (.uniStream now order used command fin :: late) := by
    exact (Attempt.forEach_append _ _ _ _).trans (Attempt.andThen_of_ok buffered _)
  rw [← reached] at fitsLate
  have second := held.resume decisive valid laterOn fitsLate
  have first := (Held.start setting start).resume decisive valid admissible ahead
  rw [resumed]
  exact sameOutcome_iff decisive known second first

def sampleCommand : Event := .uniStream 2 asStored 2 sampleAuthenticate true

/-- A stream that the client opens and ends before its AUTHENTICATE command. -/
def endedEmpty : List Event := [.streamData 1 0 [] true]

theorem sampleAuthenticate_valid : ValidAuthenticate sampleSetting sampleAuthenticate where
  complete := by decide
  exact := by decide
  verified := ⟨_, rfl⟩

/-- Every limit is kept, and still the connection survives the empty stream only if
it ends before the command. -/
theorem empty_stream_is_refused_only_after_authentication :
    (appMachine sampleSetting).Meets Fits (App.new sampleSetting 0)
      (endedEmpty ++ [sampleCommand]) ∧
    (appMachine sampleSetting).Meets Fits (App.new sampleSetting 0)
      (sampleCommand :: endedEmpty) ∧
    ((Watched.mk (App.new sampleSetting 0) []).handleAll (endedEmpty ++ [sampleCommand])).2 =
      .ok () ∧
    ((Watched.mk (App.new sampleSetting 0) []).handleAll (sampleCommand :: endedEmpty)).2 =
      .error (.message "truncated tuic connect header") ∧
    ¬ SameOutcome ((Watched.mk (App.new sampleSetting 0) []).handleAll
        (endedEmpty ++ [sampleCommand]))
      ((Watched.mk (App.new sampleSetting 0) []).handleAll (sampleCommand :: endedEmpty)) := by
  have survives : ((Watched.mk (App.new sampleSetting 0) []).handleAll
      (endedEmpty ++ [sampleCommand])).2 = .ok () := by decide +kernel
  have refused : ((Watched.mk (App.new sampleSetting 0) []).handleAll
      (sampleCommand :: endedEmpty)).2 =
        .error (.message "truncated tuic connect header") := by decide +kernel
  refine ⟨by decide +kernel, by decide +kernel, survives, refused, ?_⟩
  rintro (⟨failed, _⟩ | ⟨_, succeeded, _⟩)
  · exact failed.not_ok survives
  · exact Attempt.Fails.not_ok ⟨_, refused⟩ succeeded

/-- A CONNECT header of which a part arrives before the command. -/
theorem header_across_authentication_is_relayed :
    SameOutcome
      ((Watched.mk (App.new sampleSetting 0) []).handleAll
        ([.streamData 1 0 [5, 1, 1] false] ++
          .uniStream 2 asStored 2 sampleAuthenticate true ::
            [.streamData 3 0 [127, 0, 0, 1, 0, 80, 7] true]))
      ((Watched.mk (App.new sampleSetting 0) []).handleAll
        (.uniStream 2 asStored 2 sampleAuthenticate true ::
          ([.streamData 1 0 [5, 1, 1] false] ++
            [.streamData 3 0 [127, 0, 0, 1, 0, 80, 7] true]))) := by
  refine (authentication_time_does_not_matter_iff tuicV5_decisive 0 _ _ ?_ ?_ 2 asStored 2 _ true
    sampleAuthenticate_valid (by decide +kernel) (by decide +kernel)).mpr (.inl ?_)
  · simp [Event.Streaming]
  · simp [Orderly, Event.EndsStream]
  · intro streamId empty
    by_cases own : streamId = 0
    · subst own
      revert empty
      decide
    · simp [EndedEmpty, receivedIn, receivedAfter, Event.extend, own, PendingStream.fresh] at empty

end Rtunnel.Tuic.Inbound
