import Mathlib.Logic.Function.Basic
import Rtunnel.Tuic.Inbound.Isolation
import Rtunnel.Tuic.Inbound.OneConnect

namespace Rtunnel.Tuic.Inbound

open Rtunnel.Data

/-! What becomes of a bidirectional stream.

The bytes a client has sent on a stream, and whether it has ended them, decide
everything: a refusal, a wait for more, or a relay to a target with the payload
behind the header.  The handlers arrive there however the bytes are cut, because
what the first bytes of a header decide is not undone by further ones.
-/

variable {setting : Setting}

/-- The outcome of a stream on which these bytes have been received. -/
def fate (core : TuicCore) (received : PendingStream) :
    Except Error (Option (TargetAddr × List UInt8)) :=
  match tryParseConnect core received.data with
  | .error reason => .error reason
  | .ok none =>
      if received.fin then .error (.message "truncated tuic connect header") else .ok none
  | .ok (some (target, consumed)) => .ok (some (target, received.data.drop consumed))

/-- The stream ends the connection. -/
def Doomed (core : TuicCore) (received : PendingStream) : Prop :=
  ∃ reason, fate core received = .error reason

/-- Nothing received yet. -/
def PendingStream.fresh : PendingStream := ⟨[], false⟩

def PendingStream.extend (received : PendingStream) (data : List UInt8) (fin : Bool) :
    PendingStream :=
  ⟨received.data ++ data, received.fin || fin⟩

section Headers

variable {core : TuicCore}

theorem parseConnect_append (decisive : core.Decisive) {data : List UInt8} {target : TargetAddr}
    {consumed : Nat} (parsed : parseConnect core data = .ok (target, consumed))
    (rest : List UInt8) :
    consumed ≤ data.length ∧ parseConnect core (data ++ rest) = .ok (target, consumed) := by
  cases read : core.unmarshal data with
  | error reason => simp [parseConnect, parseHeader, read, Except.mapError] at parsed
  | ok found =>
      obtain ⟨bounded, longer⟩ := decisive.unmarshal_append data rest found.1 found.2 read
      have same : parseConnect core (data ++ rest) = parseConnect core data := by
        simp only [parseConnect, parseHeader, read, longer]
      refine ⟨?_, same.trans parsed⟩
      obtain ⟨header, width⟩ := found
      cases header with
      | connect addr =>
          cases addr <;>
            simp_all [parseConnect, parseHeader, Except.mapError, addressToTarget, Except.map]
      | _ => simp [parseConnect, parseHeader, read, Except.mapError] at parsed

theorem tryParseConnect_eq_some {data : List UInt8} {target : TargetAddr} {consumed : Nat} :
    tryParseConnect core data = .ok (some (target, consumed)) ↔
      parseConnect core data = .ok (target, consumed) := by
  unfold tryParseConnect
  split <;> simp_all

theorem tryParseConnect_nil (decisive : core.Decisive) :
    tryParseConnect core [] = .ok none := by
  simp only [tryParseConnect, parseConnect, parseHeader, decisive.unmarshal_nil, Except.mapError]

theorem tryParseConnect_error_append (decisive : core.Decisive) {data : List UInt8}
    {reason : Error} (refused : tryParseConnect core data = .error reason) (rest : List UInt8) :
    ∃ reason', tryParseConnect core (data ++ rest) = .error reason' := by
  cases read : core.unmarshal data with
  | error failure =>
      cases failure with
      | unexpectedEof =>
          simp [tryParseConnect, parseConnect, parseHeader, read, Except.mapError] at refused
      | invalid text =>
          obtain ⟨text', longer⟩ := decisive.invalid_append data rest text read
          refine ⟨.unmarshal (.invalid text'), ?_⟩
          simp only [tryParseConnect, parseConnect, parseHeader, longer, Except.mapError]
  | ok found =>
      obtain ⟨bounded, longer⟩ := decisive.unmarshal_append data rest found.1 found.2 read
      refine ⟨reason, ?_⟩
      rw [← refused]
      simp only [tryParseConnect, parseConnect, parseHeader, read, longer]

theorem fate_fresh (decisive : core.Decisive) : fate core .fresh = .ok none := by
  simp [fate, PendingStream.fresh, tryParseConnect_nil decisive]

/-- Once a stream has its relay, whatever follows is payload. -/
theorem fate_extend_of_relay (decisive : core.Decisive) {received : PendingStream}
    {target : TargetAddr} {payload : List UInt8}
    (relayed : fate core received = .ok (some (target, payload))) (data : List UInt8)
    (fin : Bool) :
    fate core (received.extend data fin) = .ok (some (target, payload ++ data)) := by
  unfold fate at relayed
  split at relayed
  · cases relayed
  · split at relayed <;> cases relayed
  · rename_i parsed
    cases relayed
    obtain ⟨bounded, longer⟩ :=
      parseConnect_append decisive (tryParseConnect_eq_some.mp parsed) data
    simp only [fate, PendingStream.extend, tryParseConnect_eq_some.mpr longer,
      List.drop_append_of_le_length bounded]

/-- A stream that ends the connection does so whatever else it carries. -/
theorem Doomed.extend (decisive : core.Decisive) {received : PendingStream}
    (doomed : Doomed core received) (unfinished : received.fin = false) (data : List UInt8)
    (fin : Bool) : Doomed core (received.extend data fin) := by
  obtain ⟨reason, refused⟩ := doomed
  unfold fate at refused
  split at refused
  · rename_i parsed
    obtain ⟨reason', longer⟩ := tryParseConnect_error_append decisive parsed data
    exact ⟨reason', by simp only [fate, PendingStream.extend, longer]⟩
  · simp [unfinished] at refused
  · cases refused

end Headers

/-- What a relay is given: the bytes it starts with, then those of its channel. -/
inductive RelayInput where
  | opened (session : Session) (initial : List UInt8)
  | message (data : List UInt8)

namespace RelayInput

def session : RelayInput → Option Session
  | opened session _ => some session
  | message _ => none

def bytes : RelayInput → List UInt8
  | opened _ initial => initial
  | message data => data

end RelayInput

def Effect.opening : Effect → Option (UInt64 × RelayInput)
  | .spawnRelay streamId session initial => some (streamId, .opened session initial)
  | _ => none

/-- The message that an event puts into the channel of a relay. -/
def App.message (app : App setting) : Event → List (UInt64 × RelayInput)
  | .streamData _ streamId data _ =>
      match app.streams.lookup streamId with
      | some state =>
          if app.authenticated = true ∧ data ≠ [] ∧ state.clientTx.Accepts then
            [(streamId, .message data)]
          else []
      | none => []
  | _ => []

/-- What an event gives to the relays: those it opens come from the trace. -/
def App.gives (app : App setting) (event : Event) : List (UInt64 × RelayInput) :=
  ((app.step event).1.trace.drop app.trace.length).filterMap Effect.opening ++ app.message event

/-- A connection, with a record of what its relays have been given. -/
structure Watched (setting : Setting) where
  app : App setting
  given : List (UInt64 × RelayInput)

namespace Watched

def step (watched : Watched setting) (event : Event) : Attempt (Watched setting) Error :=
  (⟨(watched.app.step event).1, watched.given ++ watched.app.gives event⟩,
    (watched.app.step event).2)

/-- Handle the events one after the other, up to the first error. -/
def handleAll (watched : Watched setting) (events : List Event) :
    Attempt (Watched setting) Error :=
  Attempt.forEach step watched events

theorem handleAll_cons (watched : Watched setting) (event : Event) (events : List Event) :
    watched.handleAll (event :: events) =
      (watched.step event).andThen fun after => after.handleAll events := rfl

def inputs (watched : Watched setting) (streamId : UInt64) : List RelayInput :=
  watched.given.filterMap fun entry => if entry.1 = streamId then some entry.2 else none

/-- The sessions dialled for a stream. -/
def sessions (watched : Watched setting) (streamId : UInt64) : List Session :=
  (watched.inputs streamId).filterMap RelayInput.session

/-- The bytes a stream's relay has been given. -/
def payload (watched : Watched setting) (streamId : UInt64) : List UInt8 :=
  (watched.inputs streamId).flatMap RelayInput.bytes

end Watched

/-- A stream whose header is not complete. -/
structure Waits (watched : Watched setting) (streamId : UInt64) (held : List UInt8) : Prop where
  unknown : watched.app.streams.lookup streamId = none
  pending : (watched.app.pendingStreams.lookup streamId).getD .fresh = ⟨held, false⟩
  sessions : watched.sessions streamId = []
  payload : watched.payload streamId = []

/-- A stream that has been dialled once; it stays open until the client ends it. -/
structure Relays (watched : Watched setting) (streamId : UInt64) (target : TargetAddr)
    (payload : List UInt8) (ended : Bool) : Prop where
  known : (watched.app.streams.lookup streamId).isSome = !ended
  pending : watched.app.pendingStreams.lookup streamId = none
  sessions : watched.sessions streamId = [⟨setting.inbound, .connect, target⟩]
  payload : watched.payload streamId = payload

/-- The connection has done with a stream what the received bytes call for. -/
def Follows (watched : Watched setting) (streamId : UInt64) (received : PendingStream) : Prop :=
  match fate setting.core received with
  | .error _ => False
  | .ok none => Waits watched streamId received.data
  | .ok (some (target, payload)) => Relays watched streamId target payload received.fin

section Steps

variable {watched : Watched setting} {streamId : UInt64} {received : PendingStream}

theorem Follows.not_doomed (follows : Follows watched streamId received) :
    ¬ Doomed setting.core received := by
  rintro ⟨reason, refused⟩
  simp only [Follows, refused] at follows

theorem App.gives_of_trace {app : App setting} {event : Event} {added : List Effect}
    (grown : (app.step event).1.trace = app.trace ++ added) :
    app.gives event = added.filterMap Effect.opening ++ app.message event := by
  simp only [App.gives, grown, List.drop_left]

/-- What does not concern a stream opens no relay for it. -/
theorem openings_eq_nil {added : List Effect}
    (apart : ∀ effect ∈ added, ¬ effect.Concerns streamId) :
    ((added.filterMap Effect.opening).filterMap fun entry =>
      if entry.1 = streamId then some entry.2 else none) = [] := by
  rw [List.filterMap_eq_nil_iff]
  intro entry member
  obtain ⟨effect, emitted, opening⟩ := List.mem_filterMap.mp member
  have foreign := apart effect emitted
  cases effect with
  | spawnRelay other session initial =>
      cases opening
      exact if_neg fun same => foreign (.inl same)
  | _ => cases opening

theorem Follows.of_same (follows : Follows watched streamId received) {after : Watched setting}
    (untouched : Untouched streamId watched.app after.app)
    (inputs : after.inputs streamId = watched.inputs streamId) :
    Follows after streamId received := by
  have sessions : after.sessions streamId = watched.sessions streamId := by
    simp only [Watched.sessions, inputs]
  have payload : after.payload streamId = watched.payload streamId := by
    simp only [Watched.payload, inputs]
  unfold Follows at follows ⊢
  split at follows
  · exact follows
  · exact ⟨untouched.streams.mpr follows.unknown, untouched.pending ▸ follows.pending,
      sessions.trans follows.sessions, payload.trans follows.payload⟩
  · refine ⟨.trans ?_ follows.known, untouched.pending.trans follows.pending,
      sessions.trans follows.sessions, payload.trans follows.payload⟩
    rw [Bool.eq_iff_iff, Option.isSome_iff_ne_none, Option.isSome_iff_ne_none]
    exact not_congr untouched.streams

/-- An event that does not concern a stream leaves it with its fate. -/
theorem Follows.untouched (follows : Follows watched streamId received) {event : Event}
    (untouched : Untouched streamId watched.app (watched.app.step event).1)
    (aside : ∀ entry ∈ watched.app.message event, entry.1 ≠ streamId) :
    Follows (watched.step event).1 streamId received := by
  obtain ⟨added, grown, apart⟩ := untouched.trace
  apply follows.of_same untouched
  simp only [Watched.step, Watched.inputs, App.gives_of_trace grown, List.filterMap_append,
    openings_eq_nil apart, List.nil_append, List.append_right_eq_self, List.filterMap_eq_nil_iff]
  exact fun entry member => if_neg (aside entry member)

/-- Parsing a header carries out the fate of the bytes it is parsed from. -/
theorem App.parsePending_eq_fate (app : App setting) (streamId : UInt64)
    (pending : PendingStream) :
    app.parsePending streamId pending =
      match fate setting.core pending with
      | .error reason => (app, .error reason)
      | .ok none =>
          ({ app with pendingStreams := app.pendingStreams.insert streamId pending }, .ok ())
      | .ok (some (target, payload)) =>
          (app.connectStream streamId target payload pending.fin, .ok ()) := by
  unfold App.parsePending fate
  cases tryParseConnect setting.core pending.data with
  | error reason => rfl
  | ok parsed =>
      cases parsed with
      | none => cases pending.fin <;> rfl
      | some found => rfl

theorem fin_of_fate_none {core : TuicCore} {received : PendingStream}
    (waits : fate core received = .ok none) : received.fin = false := by
  unfold fate at waits
  split at waits
  · cases waits
  · cases ended : received.fin with
    | false => rfl
    | true => simp [ended] at waits
  · cases waits

/-- What an event gives to a stream's relay is appended to what it had before. -/
theorem Watched.step_records {event : Event} {added : List (UInt64 × RelayInput)}
    (gives : watched.app.gives event = added) (streamId : UInt64) :
    (watched.step event).1.sessions streamId = watched.sessions streamId ++
      (⟨watched.app, added⟩ : Watched setting).sessions streamId ∧
    (watched.step event).1.payload streamId = watched.payload streamId ++
      (⟨watched.app, added⟩ : Watched setting).payload streamId := by
  subst gives
  simp only [Watched.sessions, Watched.payload, Watched.step, Watched.inputs,
    List.filterMap_append, List.flatMap_append, and_self]

/-- The state in which the header of a waiting stream is parsed. -/
structure Parses (watched : Watched setting) (streamId : UInt64) (fin : Bool)
    (pending : PendingStream) (opened : App setting) : Prop where
  trace : opened.trace = watched.app.trace ++
    [.received streamId fin, .tryParseConnect streamId pending.data]
  streams : opened.streams = watched.app.streams
  pending : opened.pendingStreams = watched.app.pendingStreams.erase streamId

/-- Data on a waiting stream is parsed together with the bytes held back for it. -/
theorem Waits.parses (inside : watched.app.authenticated = true) {held : List UInt8}
    (waits : Waits watched streamId held) (now : Nat) (data : List UInt8) (fin : Bool) :
    ∃ opened, Parses watched streamId fin (PendingStream.extend ⟨held, false⟩ data fin) opened ∧
      watched.app.step (.streamData now streamId data fin) =
        opened.parsePending streamId (PendingStream.extend ⟨held, false⟩ data fin) := by
  have extended : watched.app.extendPending streamId data fin =
      PendingStream.extend ⟨held, false⟩ data fin :=
    congrArg (PendingStream.extend · data fin) waits.pending
  rw [← extended]
  refine ⟨({ watched.app.emit (.received streamId fin) with
      pendingStreams := watched.app.pendingStreams.erase streamId } : App setting).emit
    (.tryParseConnect streamId (watched.app.extendPending streamId data fin).data),
    ⟨by simp [App.emit], rfl, rfl⟩, ?_⟩
  refine (App.handleStreamData_of_inside inside now streamId data fin).trans ?_
  simp only [waits.unknown]
  rfl

/-- A header that is still not complete is held back whole. -/
theorem Waits.keeps {held data : List UInt8} {now : Nat} {fin : Bool} {pending : PendingStream}
    {opened : App setting} (waits : Waits watched streamId held)
    (parses : Parses watched streamId fin pending opened)
    (handled : watched.app.step (.streamData now streamId data fin) =
      ({ opened with pendingStreams := opened.pendingStreams.insert streamId pending }, .ok ()))
    (unfinished : pending.fin = false) :
    Waits (watched.step (.streamData now streamId data fin)).1 streamId pending.data := by
  have gives : watched.app.gives (.streamData now streamId data fin) = [] := by
    rw [App.gives_of_trace ((congrArg (fun done => done.1.trace) handled).trans parses.trace)]
    simp only [App.message, waits.unknown]
    rfl
  obtain ⟨sessions, payload⟩ := Watched.step_records gives streamId
  refine ⟨?_, ?_, sessions.trans ?_, payload.trans ?_⟩
  · simp only [Watched.step, handled, parses.streams]
    exact waits.unknown
  · simp only [Watched.step, handled, AList.lookup_insert, Option.getD_some]
    rw [← unfinished]
  · rw [waits.sessions]
    rfl
  · rw [waits.payload]
    rfl

/-- A complete header opens the relay with the bytes behind it. -/
theorem Waits.opens {held data bytes : List UInt8} {now : Nat} {fin : Bool}
    {pending : PendingStream} {opened : App setting} {target : TargetAddr}
    (waits : Waits watched streamId held)
    (parses : Parses watched streamId fin pending opened)
    (handled : watched.app.step (.streamData now streamId data fin) =
      (opened.connectStream streamId target bytes pending.fin, .ok ())) :
    Relays (watched.step (.streamData now streamId data fin)).1 streamId target bytes
      pending.fin := by
  have grown : (watched.app.step (.streamData now streamId data fin)).1.trace =
      watched.app.trace ++ [.received streamId fin, .tryParseConnect streamId pending.data,
        .spawnRelay streamId ⟨setting.inbound, .connect, target⟩ bytes] := by
    rw [handled]
    cases pending.fin <;> simp [App.connectStream, App.emit, App.putStream, parses.trace]
  have gives : watched.app.gives (.streamData now streamId data fin) =
      [(streamId, .opened ⟨setting.inbound, .connect, target⟩ bytes)] := by
    rw [App.gives_of_trace grown]
    simp only [App.message, waits.unknown]
    rfl
  obtain ⟨sessions, payload⟩ := Watched.step_records gives streamId
  refine ⟨?_, ?_, sessions.trans ?_, payload.trans ?_⟩
  · simp only [Watched.step, handled]
    cases pending.fin with
    | true => simp [App.connectStream, App.emit, parses.streams, waits.unknown]
    | false => simp [App.connectStream, App.emit, App.putStream]
  · simp only [Watched.step, handled]
    cases pending.fin <;> simp [App.connectStream, App.emit, App.putStream, parses.pending]
  · rw [waits.sessions]
    simp [Watched.sessions, Watched.inputs, RelayInput.session]
  · rw [waits.payload]
    simp [Watched.payload, Watched.inputs, RelayInput.bytes]

/-- Data for an open relay is one more message, and the end of it closes the relay's side. -/
theorem Relays.carries (inside : watched.app.authenticated = true) {target : TargetAddr}
    {bytes : List UInt8} (relays : Relays watched streamId target bytes false) {now : Nat}
    {data : List UInt8} {fin : Bool}
    (room : ∀ state, watched.app.streams.lookup streamId = some state →
      data = [] ∨ state.clientTx.Accepts) :
    (watched.step (.streamData now streamId data fin)).2 = .ok () ∧
    Relays (watched.step (.streamData now streamId data fin)).1 streamId target (bytes ++ data)
      fin := by
  obtain ⟨state, found⟩ := Option.isSome_iff_exists.mp relays.known
  have sent : ∃ clientTx, (if data = [] then .ok state.clientTx else state.clientTx.trySend data) =
      .ok clientTx := by
    rcases room state found with empty | accepts
    · exact ⟨state.clientTx, if_pos empty⟩
    · by_cases empty : data = []
      · exact ⟨state.clientTx, if_pos empty⟩
      · obtain ⟨clientTx, taken, _⟩ := Channel.trySend_of_accepts accepts data
        exact ⟨clientTx, (if_neg empty).trans taken⟩
  obtain ⟨clientTx, sent⟩ := sent
  have handled : watched.app.step (.streamData now streamId data fin) =
      (if fin then { watched.app.emit (.received streamId fin) with
          streams := watched.app.streams.erase streamId }
        else (watched.app.emit (.received streamId fin)).putStream streamId ⟨clientTx⟩,
        .ok ()) := by
    refine (App.handleStreamData_of_inside inside now streamId data fin).trans ?_
    simp only [found, App.sendToRelay, sent]
    cases fin <;> rfl
  have grown : (watched.app.step (.streamData now streamId data fin)).1.trace =
      watched.app.trace ++ [.received streamId fin] := by
    rw [handled]
    cases fin <;> rfl
  have message : watched.app.message (.streamData now streamId data fin) =
      if data = [] then [] else [(streamId, .message data)] := by
    simp only [App.message, found, inside, true_and]
    by_cases empty : data = []
    · simp [empty]
    · simp [empty, (room state found).resolve_left empty]
  obtain ⟨sessions, payload⟩ := Watched.step_records (App.gives_of_trace grown) streamId
  rw [message] at sessions payload
  refine ⟨congrArg Prod.snd handled, ?_, ?_, sessions.trans ?_, payload.trans ?_⟩
  · simp only [Watched.step, handled]
    cases fin <;> simp [App.putStream]
  · simp only [Watched.step, handled]
    cases fin <;> exact relays.pending
  · rw [relays.sessions]
    by_cases empty : data = [] <;>
      simp [empty, Watched.sessions, Watched.inputs, Effect.opening, RelayInput.session]
  · rw [relays.payload]
    by_cases empty : data = [] <;>
      simp [empty, Watched.payload, Watched.inputs, Effect.opening, RelayInput.bytes]

/-- One more piece of a stream: the call fails exactly when the bytes received so
far doom the stream, and otherwise carries out their fate. -/
theorem Follows.step (decisive : setting.core.Decisive)
    (inside : watched.app.authenticated = true) (follows : Follows watched streamId received)
    (unfinished : received.fin = false) (now : Nat) (data : List UInt8) (fin : Bool)
    (room : ∀ state, watched.app.streams.lookup streamId = some state →
      data = [] ∨ state.clientTx.Accepts) :
    ((watched.step (.streamData now streamId data fin)).2 = .ok () ∧
      Follows (watched.step (.streamData now streamId data fin)).1 streamId
        (received.extend data fin)) ∨
    ((∃ reason, (watched.step (.streamData now streamId data fin)).2 = .error reason) ∧
      Doomed setting.core (received.extend data fin)) := by
  obtain ⟨held, ended⟩ := received
  subst unfinished
  cases before : fate setting.core ⟨held, false⟩ with
  | error reason => exact absurd ⟨reason, before⟩ follows.not_doomed
  | ok found =>
      simp only [Follows, before] at follows
      cases found with
      | none =>
          obtain ⟨opened, parses, handled⟩ := follows.parses inside now data fin
          rw [App.parsePending_eq_fate] at handled
          cases outcome : fate setting.core (PendingStream.extend ⟨held, false⟩ data fin) with
          | error reason =>
              rw [outcome] at handled
              exact .inr ⟨⟨reason, congrArg Prod.snd handled⟩, reason, outcome⟩
          | ok found =>
              rw [outcome] at handled
              simp only [Follows, outcome]
              cases found with
              | none =>
                  exact .inl ⟨congrArg Prod.snd handled,
                    follows.keeps parses handled (fin_of_fate_none outcome)⟩
              | some found =>
                  exact .inl ⟨congrArg Prod.snd handled, follows.opens parses handled⟩
      | some found =>
          simp only [Follows, fate_extend_of_relay decisive before]
          exact .inl (follows.carries inside room)

end Steps

/-- Bytes of the client on some stream, or a relay taking a message. -/
def Event.Streaming : Event → Prop
  | .streamData _ _ _ _ => True
  | .relayReceives _ => True
  | _ => False

def Event.EndsStream (streamId : UInt64) : Event → Prop
  | .streamData _ other _ fin => other = streamId ∧ fin = true
  | _ => False

/-- Nothing arrives on a stream after its end. -/
def Orderly (events : List Event) : Prop :=
  events.Pairwise fun earlier later =>
    ∀ streamId, earlier.EndsStream streamId → ¬ later.DataOn streamId

/-- The relay that data is meant for has room for it. -/
def Roomy (app : App setting) : Event → Prop
  | .streamData _ streamId data _ =>
      match app.streams.lookup streamId with
      | some state => data = [] ∨ state.clientTx.Accepts
      | none => True
  | _ => True

instance (app : App setting) : (event : Event) → Decidable (Roomy app event)
  | .streamData _ streamId data _ =>
      match found : app.streams.lookup streamId with
      | some state =>
          decidable_of_iff (data = [] ∨ state.clientTx.Accepts) (by simp [Roomy, found])
      | none => .isTrue (by simp [Roomy, found])
  | .established _ | .beginReads _ | .uniStream _ _ _ _ _ | .datagram _ _ | .processWrites _ _ _
  | .waitForData _ _ _ | .enqueue _ | .relayReceives _ | .relayEnds _ | .udpRelayReceives _
  | .udpRelayEnds _ => .isTrue trivial

def Event.extend (received : UInt64 → PendingStream) : Event → UInt64 → PendingStream
  | .streamData _ streamId data fin =>
      Function.update received streamId ((received streamId).extend data fin)
  | _ => received

/-- What has been received on every stream, after some more events. -/
def receivedAfter (received : UInt64 → PendingStream) (events : List Event) :
    UInt64 → PendingStream :=
  events.foldl Event.extend received

/-- Every stream of a group has been dealt with as its bytes call for. -/
structure Stands (group : UInt64 → Prop) (received : UInt64 → PendingStream)
    (watched : Watched setting) : Prop where
  inside : watched.app.authenticated = true
  follows : ∀ streamId, group streamId → Follows watched streamId (received streamId)

/-- The events only carry bytes of a group's streams, none of them past a stream's end. -/
structure Admissible (group : UInt64 → Prop) (received : UInt64 → PendingStream)
    (events : List Event) : Prop where
  streaming : ∀ event ∈ events, event.Streaming
  among : ∀ event ∈ events, ∀ streamId, event.DataOn streamId → group streamId
  unfinished : ∀ event ∈ events, ∀ streamId, event.DataOn streamId →
    (received streamId).fin = false
  orderly : Orderly events

section Runs

variable {group : UInt64 → Prop} {received : UInt64 → PendingStream} {watched : Watched setting}
  {event : Event} {events : List Event}

/-- A stream stays open through an event that does not end it. -/
theorem Event.extend_fin {streamId : UInt64} (goesOn : ¬ event.EndsStream streamId)
    (before : (received streamId).fin = false) :
    (event.extend received streamId).fin = false := by
  cases event with
  | streamData now used data fin =>
      by_cases same : streamId = used
      · subst same
        cases fin with
        | true => exact absurd ⟨rfl, rfl⟩ goesOn
        | false => simp [Event.extend, PendingStream.extend, before]
      · simp only [Event.extend, Function.update_of_ne same, before]
  | _ => exact before

theorem Admissible.tail (admissible : Admissible group received (event :: events)) :
    Admissible group (event.extend received) events where
  streaming other member := admissible.streaming other (List.mem_cons_of_mem event member)
  among other member := admissible.among other (List.mem_cons_of_mem event member)
  orderly := admissible.orderly.of_cons
  unfinished other member streamId carries := by
    have before := admissible.unfinished other (List.mem_cons_of_mem event member) streamId carries
    have after := List.rel_of_pairwise_cons admissible.orderly member streamId
    exact Event.extend_fin (fun ends => after ends carries) before

/-- A stream that ends the connection still does at the end of the run. -/
theorem Admissible.doomed (decisive : setting.core.Decisive)
    (admissible : Admissible group received events) {streamId : UInt64}
    (doomed : Doomed setting.core (received streamId)) :
    Doomed setting.core (receivedAfter received events streamId) := by
  induction events generalizing received with
  | nil => exact doomed
  | cons event events ih =>
      refine ih admissible.tail ?_
      cases event with
      | streamData now used data fin =>
          by_cases same : streamId = used
          · subst same
            rw [Event.extend, Function.update_self]
            exact doomed.extend decisive
              (admissible.unfinished _ List.mem_cons_self streamId rfl) data fin
          · rwa [Event.extend, Function.update_of_ne same]
      | _ => exact doomed

theorem App.relayReceives_untouched (app : App setting) (used streamId : UInt64) :
    Untouched streamId app (app.step (.relayReceives used)).1 := by
  simp only [App.step, App.updateStream]
  split
  · exact .refl app
  · rename_i state found
    exact .putStream found _

/-- One event either is carried out, or fails because its stream is doomed. -/
theorem Stands.step (decisive : setting.core.Decisive) (stands : Stands group received watched)
    (admissible : Admissible group received (event :: events))
    (roomy : Roomy watched.app event) :
    ((watched.step event).2 = .ok () ∧
      Stands group (event.extend received) (watched.step event).1) ∨
    ((∃ reason, (watched.step event).2 = .error reason) ∧
      ∃ streamId, group streamId ∧ Doomed setting.core (event.extend received streamId)) := by
  have inside : (watched.step event).1.app.authenticated = true :=
    (App.step_later watched.app event).authenticated stands.inside
  cases event with
  | streamData now used data fin =>
      have member := admissible.among _ List.mem_cons_self used rfl
      have room : ∀ state, watched.app.streams.lookup used = some state →
          data = [] ∨ state.clientTx.Accepts := by
        intro state found
        simpa only [Roomy, found] using roomy
      rcases (stands.follows used member).step decisive stands.inside
        (admissible.unfinished _ List.mem_cons_self used rfl) now data fin room with
        ⟨handled, follows⟩ | ⟨failed, doomed⟩
      · refine .inl ⟨handled, inside, fun streamId within => ?_⟩
        by_cases same : streamId = used
        · subst same
          rw [Event.extend, Function.update_self]
          exact follows
        · rw [Event.extend, Function.update_of_ne same]
          refine (stands.follows streamId within).untouched
            (App.handleStreamData_untouched (Ne.symm same) watched.app now data fin) ?_
          intro entry sent
          simp only [App.message] at sent
          split at sent
          · split at sent
            · rw [List.mem_singleton.mp sent]
              exact Ne.symm same
            · cases sent
          · cases sent
      · refine .inr ⟨failed, used, member, ?_⟩
        rw [Event.extend, Function.update_self]
        exact doomed
  | relayReceives used =>
      refine .inl ⟨rfl, inside, fun streamId within => ?_⟩
      exact (stands.follows streamId within).untouched
        (App.relayReceives_untouched watched.app used streamId) (fun _ sent => by cases sent)
  | _ => exact absurd (admissible.streaming _ List.mem_cons_self) id

/-- A whole run: it either carries out the fate of every stream, or fails, and then
some stream is doomed by the bytes it has received in the end. -/
theorem Stands.handleAll (decisive : setting.core.Decisive)
    (stands : Stands group received watched) (admissible : Admissible group received events)
    (roomy : (appMachine setting).Meets Roomy watched.app events) :
    ((watched.handleAll events).2 = .ok () ∧
      Stands group (receivedAfter received events) (watched.handleAll events).1) ∨
    ((∃ reason, (watched.handleAll events).2 = .error reason) ∧
      ∃ streamId, group streamId ∧
        Doomed setting.core (receivedAfter received events streamId)) := by
  induction events generalizing received watched with
  | nil => exact .inl ⟨rfl, stands⟩
  | cons event events ih =>
      have next := stands.step decisive admissible roomy.1
      have later := roomy.2
      rw [Watched.handleAll_cons]
      rcases next with ⟨handled, stands⟩ | ⟨⟨reason, failed⟩, streamId, within, doomed⟩
      · rw [Attempt.andThen_of_ok handled]
        exact ih stands admissible.tail later
      · rw [Attempt.andThen_of_error failed]
        exact .inr ⟨⟨reason, failed⟩, streamId, within, admissible.tail.doomed decisive doomed⟩

end Runs

end Rtunnel.Tuic.Inbound
