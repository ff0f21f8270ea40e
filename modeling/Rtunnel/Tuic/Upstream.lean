import Rtunnel.Tuic.Fragmentation
import Rtunnel.Tuic.Inbound.Relay
import Rtunnel.Tuic.Inbound.Streams
import Rtunnel.Tuic.Outbound.Dial
import Rtunnel.Tuic.Outbound.Writes
import Rtunnel.Tuic.Writes

namespace Rtunnel.Tuic

open Rtunnel.Data
open Rtunnel.Tuic.Inbound.App (SendAnswer)

/-! From the application to the target, through both ends of a TUIC connection.

The client's reading task queues what the application writes, the connection puts
it on its stream behind the CONNECT header, the server hands what arrives to the
stream's relay, and the relay writes it to the target.  Each part is a run of its
own; what joins them is that a queue hands on what was put into it and that QUIC
delivers the bytes of a stream in order.
-/

/-- A client's connection from the handshake on, as long as no write pass fails. -/
structure ClientRun (setting : Outbound.ClientSetting) where
  start : Nat
  outbound : Channel Outbound.QuicWrite
  authAnswer : SendAnswer
  connectAnswer : SendAnswer
  connect : List UInt8
  events : List Outbound.ClientEvent
  alive : outbound.receiverAlive = true
  encoded : encodeConnect setting.core setting.target [] = .ok connect
  established : ((Outbound.ClientApp.new start outbound).onConnEstablished setting authAnswer
    connectAnswer).2 = .ok ()
  proceeds : (Outbound.clientLedgerMachine setting).Meets (Outbound.ClientLedger.Proceeds setting)
    (.established setting start outbound authAnswer connectAnswer connect) events

def ClientRun.ledger {setting : Outbound.ClientSetting} (run : ClientRun setting) :
    Outbound.ClientLedger :=
  (Outbound.clientLedgerMachine setting).run
    (.established setting run.start run.outbound run.authAnswer run.connectAnswer run.connect)
    run.events

theorem ClientRun.sound {setting : Outbound.ClientSetting} (run : ClientRun setting) :
    run.ledger.Sound :=
  (Outbound.client_run_sound
    (.established run.alive run.encoded run.established) run.proceeds).1

/-- The bytes that the QUIC library has taken from the client for its stream. -/
def ClientRun.bytes {setting : Outbound.ClientSetting} (run : ClientRun setting) : List UInt8 :=
  Mark.bytesOn Outbound.connectStreamId (Mark.accepted run.ledger.record)

/-- A server's connection on which every event has been handled without an error. -/
structure ServerRun (setting : Inbound.Setting) where
  start : Nat
  events : List Inbound.Event
  succeeded :
    ((Inbound.Watched.mk (Inbound.App.new setting start) []).handleAll events).2 = .ok ()

def ServerRun.watched {setting : Inbound.Setting} (run : ServerRun setting) :
    Inbound.Watched setting :=
  ((Inbound.Watched.mk (Inbound.App.new setting run.start) []).handleAll run.events).1

/-- The relay of one stream. -/
structure RelayRun where
  call : Inbound.RelayCall
  connected : Bool
  events : List Inbound.RelayEvent

def RelayRun.relay (run : RelayRun) : Inbound.Relay :=
  (Inbound.relayMachine run.call).run (.new run.connected) run.events

theorem RelayRun.forwards (run : RelayRun) : run.relay.Forwards run.call :=
  (Inbound.relayMachine run.call).run_invariant (fun _ event kept => kept.step event)
    (.new run.call run.connected) run.events

theorem RelayRun.answers (run : RelayRun) : ∃ pieces, run.relay.Answers run.call pieces := by
  have step : ∀ (state : Inbound.Relay) (event : Inbound.RelayEvent),
      (∃ pieces, state.Answers run.call pieces) →
        ∃ pieces, ((Inbound.relayMachine run.call).next state event).Answers run.call pieces := by
    intro state event kept
    obtain ⟨pieces, answers⟩ := kept
    exact answers.step event
  exact (Inbound.relayMachine run.call).run_invariant step ⟨[], .new run.call run.connected⟩
    run.events

section Client

open Rtunnel.Tuic.Outbound

theorem clientMeaning_flow_filter (writes : List QuicWrite) :
    clientMeaning.flow () (writes.filter (· ≠ .heartbeat)) = clientMeaning.flow () writes := by
  induction writes with
  | nil => rfl
  | cons write writes ih =>
      cases write with
      | heartbeat => simpa [Meaning.flow, clientMeaning] using ih
      | data data => simpa [Meaning.flow, clientMeaning] using ih
      | close => simpa [Meaning.flow, clientMeaning] using ih

theorem clientMeaning_flow_data (pieces : List (List UInt8)) (rest : List QuicWrite) :
    clientMeaning.flow () (pieces.map QuicWrite.data ++ rest) =
      pieces.flatten.map (.byte connectStreamId) ++ clientMeaning.flow () rest := by
  induction pieces with
  | nil => rfl
  | cons piece pieces ih =>
      simp only [List.map_cons, List.cons_append, Meaning.flow, List.flatten_cons, List.map_append,
        List.append_assoc]
      rw [← ih]
      rfl

variable {setting : ClientSetting} {run : ClientRun setting} {reader : AppReader}
  {pieces : List (List UInt8)} {closed : Bool}

/-- The header, what has been read, and the end of it. -/
theorem ClientRun.promised
    (fed : run.ledger.enqueued.filter (· ≠ .heartbeat) = .data run.connect :: reader.sent)
    (sends : reader.Sends pieces closed) :
    Mark.marksOn connectStreamId run.ledger.promised =
      Mark.script connectStreamId (run.connect ++ pieces.flatten) closed.toNat := by
  have first : QuicWrite.data run.connect :: reader.sent =
      (run.connect :: pieces).map QuicWrite.data ++ if closed then [.close] else [] := by
    rw [sends.sent]
    rfl
  have whole : run.ledger.promised =
      Mark.script connectStreamId (run.connect ++ pieces.flatten) closed.toNat := by
    rw [ClientLedger.promised, ← clientMeaning_flow_filter, fed, first, clientMeaning_flow_data]
    refine congrArg₂ (· ++ ·) rfl ?_
    cases closed with
    | true => rfl
    | false => rfl
  rw [whole, Mark.marksOn_script]

/-- The library takes the header and what has been read, in order. -/
theorem ClientRun.bytes_within
    (fed : run.ledger.enqueued.filter (· ≠ .heartbeat) = .data run.connect :: reader.sent)
    (sends : reader.Sends pieces closed) : run.bytes <+: run.connect ++ pieces.flatten :=
  run.sound.kept.within (run.promised fed sends)

/-- It takes the end of the stream only behind all of it. -/
theorem ClientRun.bytes_of_fin
    (fed : run.ledger.enqueued.filter (· ≠ .heartbeat) = .data run.connect :: reader.sent)
    (sends : reader.Sends pieces closed)
    (finished : (.fin connectStreamId, true) ∈ run.ledger.record) :
    closed = true ∧ run.bytes = run.connect ++ pieces.flatten := by
  obtain ⟨ended, whole⟩ := run.sound.kept.finished (run.promised fed sends) finished
  refine ⟨?_, whole⟩
  cases closed with
  | true => rfl
  | false => cases ended

end Client

/-- One stream from its client to its target.  The client's queue holds what the
reading task has sent, and heartbeats; QUIC delivers a beginning of the stream, and
its end behind the last byte; the relay has been given what the server handed to
it, and its channel ends only when the server lets go of the stream. -/
structure Upload (client : Outbound.ClientSetting) (server : Inbound.Setting) where
  clientRun : ClientRun client
  reads : List (Except Error (List UInt8) × Bool)
  serverRun : ServerRun server
  relayRun : RelayRun
  fed : clientRun.ledger.enqueued.filter (· ≠ .heartbeat) =
    .data clientRun.connect :: (Outbound.appReaderMachine.run .new reads).sent
  carried : (Inbound.receivedIn serverRun.events Outbound.connectStreamId).data <+:
    clientRun.bytes
  finished : (Inbound.receivedIn serverRun.events Outbound.connectStreamId).fin = true →
    (.fin Outbound.connectStreamId, true) ∈ clientRun.ledger.record ∧
      (Inbound.receivedIn serverRun.events Outbound.connectStreamId).data = clientRun.bytes
  orderly : serverRun.events.Pairwise fun earlier later =>
    earlier.EndsStream Outbound.connectStreamId → ¬ later.DataOn Outbound.connectStreamId
  unclosed : .closed Outbound.connectStreamId ∉ serverRun.watched.app.trace
  spawned : serverRun.watched.inputs Outbound.connectStreamId =
    .opened relayRun.call.session relayRun.call.initial :: relayRun.relay.given.map .message
  held : relayRun.relay.connected = false →
    serverRun.watched.app.streams.lookup Outbound.connectStreamId = none

namespace Upload

variable {client : Outbound.ClientSetting} {server : Inbound.Setting}

def reader (upload : Upload client server) : Outbound.AppReader :=
  Outbound.appReaderMachine.run .new upload.reads

def relay (upload : Upload client server) : Inbound.Relay := upload.relayRun.relay

def received (upload : Upload client server) : Inbound.PendingStream :=
  Inbound.receivedIn upload.serverRun.events Outbound.connectStreamId

end Upload

theorem addressToTarget_of_optional {addr : Address} {target : TargetAddr}
    (found : addressToOptionalTarget addr = .ok (some target)) :
    addressToTarget addr = .ok target := by
  cases addr with
  | none => cases found
  | domainAddress host port =>
      cases found
      rfl
  | socketAddress addr =>
      cases found
      rfl

/-- The server reads the client's header back. -/
theorem fate_of_connect {core : TuicCore} (lawful : core.Lawful) {target : TargetAddr}
    (portable : target.Portable) {connect : List UInt8}
    (encoded : encodeConnect core target [] = .ok connect) (payload : List UInt8) (fin : Bool) :
    Inbound.fate core ⟨connect ++ payload, fin⟩ = .ok (some (target, payload)) := by
  unfold encodeConnect at encoded
  cases converted : targetToAddress target with
  | error reason =>
      rw [converted] at encoded
      cases encoded
  | ok addr =>
      rw [converted] at encoded
      cases marshalled : core.marshal (.connect addr) with
      | error reason => simp [marshalHeader, marshalled, Except.mapError, Except.map] at encoded
      | ok bytes =>
          have same : bytes = connect := by
            simpa [marshalHeader, marshalled, Except.mapError, Except.map] using encoded
          subst same
          have named : ∀ other, some target = some other → other.Portable := by
            intro other same
            cases same
            exact portable
          obtain ⟨encodable, back⟩ := packetAddress_encodable named converted
          have read := lawful.unmarshal_marshal (.connect addr) bytes payload encodable marshalled
          have restored := addressToTarget_of_optional back
          have parsed : parseConnect core (bytes ++ payload) = .ok (target, bytes.length) := by
            simp only [parseConnect, parseHeader, read, Except.mapError, restored, Except.map]
          simp only [Inbound.fate, Inbound.tryParseConnect_eq_some.mpr parsed, List.drop_left]

/-- The session that the server dials for the stream, and the bytes it hands over. -/
theorem Upload.relayed {client : Outbound.ClientSetting} {server : Inbound.Setting}
    (upload : Upload client server) (decisive : server.core.Decisive) :
    ∃ target payload, Inbound.fate server.core upload.received = .ok (some (target, payload)) ∧
      upload.relayRun.call.session = ⟨server.inbound, .connect, target⟩ ∧
      upload.relayRun.call.initial ++ upload.relay.given.flatten = payload ∧
      (upload.relay.connected = false → upload.received.fin = true) := by
  have tracked := Inbound.Tracked.handleAll decisive (fun _ => .fresh)
    (Inbound.Tracked.new server upload.serverRun.start Outbound.connectStreamId)
    (fun _ _ _ => rfl) upload.orderly upload.serverRun.succeeded upload.unclosed
  have sessions : upload.serverRun.watched.sessions Outbound.connectStreamId =
      [upload.relayRun.call.session] := by
    rw [Inbound.Watched.sessions, upload.spawned]
    simp [Inbound.RelayInput.session]
  have payload : upload.serverRun.watched.payload Outbound.connectStreamId =
      upload.relayRun.call.initial ++ upload.relay.given.flatten := by
    rw [Inbound.Watched.payload, upload.spawned]
    simp [Inbound.RelayInput.bytes, relay, List.flatMap, Function.comp_def]
  cases tracked with
  | outside _ withheld => exact absurd (sessions.symm.trans withheld.sessions) (by simp)
  | inside _ known heard follows =>
      cases outcome : Inbound.fate server.core known with
      | error reason => exact absurd ⟨reason, outcome⟩ follows.not_doomed
      | ok found =>
          simp only [Inbound.Follows, outcome] at follows
          cases found with
          | none => exact absurd (sessions.symm.trans follows.sessions) (by simp)
          | some found =>
              have same : known = upload.received := by
                rcases heard with same | ⟨-, fresh⟩
                · exact same
                · rw [fresh, Inbound.fate_fresh decisive] at outcome
                  cases outcome
              subst same
              refine ⟨found.1, found.2, outcome, ?_, payload.symm.trans follows.payload, ?_⟩
              · exact List.singleton_inj.mp (sessions.symm.trans follows.sessions)
              · intro ended
                have known : (upload.serverRun.watched.app.streams.lookup
                    Outbound.connectStreamId).isSome = !upload.received.fin := follows.known
                rw [upload.held ended] at known
                simpa using known

/-- The target is the one that the client asked for, and gets the application's bytes
in order; its stream ends only behind the last of them. -/
theorem application_bytes_reach_target {client : Outbound.ClientSetting}
    {server : Inbound.Setting} (shared : client.core = server.core)
    (lawful : server.core.Lawful) (decisive : server.core.Decisive)
    (portable : client.target.Portable) (upload : Upload client server) :
    upload.relayRun.call.session = ⟨server.inbound, .connect, client.target⟩ ∧
    upload.relay.written <+: upload.reader.read ∧
    (upload.relay.clientClosed = true →
      upload.reader.running = false ∧ upload.relay.written = upload.reader.read) := by
  obtain ⟨target, payload, outcome, session, given, ended⟩ := upload.relayed decisive
  obtain ⟨pieces, closed, sends⟩ := Outbound.AppReader.Sends.run upload.reads
  have forwards : upload.relay.Forwards upload.relayRun.call := upload.relayRun.forwards
  have encoded := upload.clientRun.encoded
  rw [shared] at encoded
  have within : upload.received.data <+: upload.clientRun.connect ++ pieces.flatten :=
    upload.carried.trans (upload.clientRun.bytes_within upload.fed sends)
  obtain ⟨rest, whole⟩ := within
  have total := fate_of_connect lawful portable encoded pieces.flatten upload.received.fin
  have longer := Inbound.fate_extend_of_relay decisive outcome rest false
  rw [Inbound.PendingStream.extend, whole, Bool.or_false] at longer
  rw [longer, Except.ok.injEq, Option.some.injEq, Prod.mk.injEq] at total
  obtain ⟨same, split⟩ := total
  refine ⟨same ▸ session, ?_, fun finished => ?_⟩
  · have soFar : upload.relay.written <+: payload := given ▸ forwards.within
    exact soFar.trans (List.IsPrefix.trans ⟨rest, split⟩ sends.within)
  · obtain ⟨apart, -, -, -, all⟩ := forwards.closed finished
    obtain ⟨taken, everything⟩ := upload.finished (ended apart)
    obtain ⟨stopped, bytes⟩ := upload.clientRun.bytes_of_fin upload.fed sends taken
    have empty : rest = [] := by
      have complete : upload.received.data = upload.clientRun.connect ++ pieces.flatten :=
        everything.trans bytes
      rw [← whole] at complete
      exact List.append_right_eq_self.mp complete.symm
    rw [empty, List.append_nil] at split
    exact ⟨sends.ended stopped, (all.trans given).trans (split.trans (sends.whole (.inr stopped)))⟩

deriving instance DecidableEq for Mark, Inbound.RelayInput

def sampleClientRun : ClientRun sampleClientSetting where
  start := 0
  outbound := sampleClientChannel
  authAnswer := .sent 50
  connectAnswer := .sent 4
  connect := [5, 1, 1, 127, 0, 0, 1, 0, 80]
  events := sampleClientWrites
  alive := rfl
  encoded := rfl
  established := rfl
  proceeds := by decide

/-- The header arrives in two parts, around the AUTHENTICATE command. -/
def sampleServerRun : ServerRun Inbound.sampleSetting where
  start := 0
  events :=
    [.streamData 1 0 [5, 1, 1] false,
      .uniStream 2 Inbound.asStored 2 Inbound.sampleAuthenticate true,
      .streamData 3 0 [127, 0, 0, 1, 0, 80, 1, 2] false, .streamData 4 0 [3, 4, 5] true]
  succeeded := by decide +kernel

theorem sampleServerRun_orderly :
    sampleServerRun.events.Pairwise fun earlier later =>
      earlier.EndsStream Outbound.connectStreamId → ¬ later.DataOn Outbound.connectStreamId := by
  simp [sampleServerRun, Inbound.Event.EndsStream]

/-- The data arrives in other pieces than the application wrote. -/
def sampleUpload : Upload sampleClientSetting Inbound.sampleSetting where
  clientRun := sampleClientRun
  reads := [(.ok [1, 2, 3], true), (.ok [4, 5], true), (.ok [], true)]
  serverRun := sampleServerRun
  relayRun :=
    { call := ⟨Inbound.sampleSession 80, 0, [1, 2]⟩
      connected := true
      events :=
        [.dial (.ok ()), .wrote .whole, .give [3, 4, 5], .poll none, .wrote .whole, .hangUp,
          .poll none, .shutdown (.ok ())] }
  fed := by decide
  carried := by decide +kernel
  finished := fun _ => by decide +kernel
  orderly := sampleServerRun_orderly
  unclosed := by decide +kernel
  spawned := by decide +kernel
  held := fun _ => by decide +kernel

theorem sample_bytes_reach_target :
    sampleUpload.relayRun.call.session = Inbound.sampleSession 80 ∧
    sampleUpload.relay.written = [1, 2, 3, 4, 5] := by
  have lawful : Inbound.sampleSetting.core.Lawful := tuicV5_lawful
  have decisive : Inbound.sampleSetting.core.Decisive := tuicV5_decisive
  have portable : sampleClientSetting.target.Portable := trivial
  obtain ⟨session, -, whole⟩ :=
    application_bytes_reach_target rfl lawful decisive portable sampleUpload
  exact ⟨session, (whole (by decide)).2.trans (by decide)⟩

end Rtunnel.Tuic
