import Rtunnel.Tuic.Upstream

namespace Rtunnel.Tuic

open Rtunnel.Data

/-! From the target to the application, through both ends of a TUIC connection.

The relay queues what it reads from the target among the writes of all other
streams and of the UDP associations; the server hands them to the QUIC library
piece by piece; the client hands what arrives to the writing task of the
application.
-/

section Server

open Rtunnel.Tuic.Inbound

/-- Whether a write names the stream. -/
def Inbound.QuicWrite.on (streamId : UInt64) : QuicWrite → Bool
  | .data other _ _ | .close other => decide (other = streamId)
  | _ => false

theorem packetStream_ne_connect (index : Nat) :
    packetStream index ≠ Outbound.connectStreamId := by
  intro same
  have numbers := congrArg UInt64.toNat same
  rw [packetStream, UInt64.toNat_ofNat'] at numbers
  have zero : (Outbound.connectStreamId).toNat = 0 := rfl
  omega

theorem marksOn_dataMarks_ne {streamId other : UInt64} (apart : other ≠ streamId)
    (data : List UInt8) (fin : Bool) : Mark.marksOn streamId (dataMarks other data fin) = [] := by
  refine List.filter_eq_nil_iff.mpr fun mark member => ?_
  rcases List.mem_append.mp member with byte | ended
  · obtain ⟨value, -, rfl⟩ := List.mem_map.mp byte
    simp [Mark.on, apart]
  · cases fin with
    | true =>
        rw [List.mem_singleton.mp ended]
        simp [Mark.on, apart]
    | false => cases ended

theorem marksOn_dataMarks (streamId : UInt64) (data : List UInt8) (fin : Bool) :
    Mark.marksOn streamId (dataMarks streamId data fin) = dataMarks streamId data fin := by
  cases fin with
  | true => exact Mark.marksOn_script streamId data 1
  | false => exact Mark.marksOn_script streamId data 0

/-- A stream of a client gets the marks of the writes that name it, and no others. -/
theorem marksOn_flow {writes : List QuicWrite} (fresh : ∀ write ∈ writes, write.Fresh)
    (index tag : Nat) :
    Mark.marksOn Outbound.connectStreamId (writeMeaning.flow index (tagFrom tag writes)) =
      (writes.filter (·.on Outbound.connectStreamId)).flatMap
        (writeMeaning.marks 0 ⟨0, ·⟩) := by
  induction writes generalizing index tag with
  | nil => rfl
  | cons write writes ih =>
      obtain ⟨head, tail⟩ := List.forall_mem_cons.mp fresh
      rw [tagFrom, Meaning.flow, Mark.marksOn_append, ih tail, List.filter_cons]
      cases write with
      | data streamId data fin =>
          by_cases own : streamId = Outbound.connectStreamId
          · subst own
            simp [QuicWrite.on, writeMeaning, marksOn_dataMarks]
          · simp [QuicWrite.on, own, writeMeaning, marksOn_dataMarks_ne own]
      | datagram assocId data => rfl
      | uniStream assocId streamId data =>
          subst head
          have apart := marksOn_dataMarks_ne (packetStream_ne_connect index) data true
          simp only [Mark.marksOn] at apart
          simp [QuicWrite.on, writeMeaning, Mark.marksOn, Mark.on, apart]
      | close streamId =>
          by_cases own : streamId = Outbound.connectStreamId
          · simp [QuicWrite.on, own, writeMeaning, Mark.marksOn, Mark.on]
          · simp [QuicWrite.on, own, writeMeaning, Mark.marksOn, Mark.on]

/-- What the relay has queued: pieces of what it has read, and behind all of them the
ends of the stream. -/
theorem Inbound.Relay.Answers.queue {call : RelayCall} {relay : Relay}
    {pieces : List (List UInt8)} (answers : relay.Answers call pieces) :
    ∃ front ends, relay.queued = front.map (.data call.streamId · false) ++ ends ∧
      front <+: pieces ∧ (∀ write ∈ ends, writeMeaning.marks 0 ⟨0, write⟩ = [.fin call.streamId]) ∧
      (ends ≠ [] → front = pieces ∧ (relay.remoteClosed = true ∨ relay.failed = true)) := by
  have within : relay.queued <+: pieces.map (.data call.streamId · false) ++
      ((if relay.remoteClosed then [.data call.streamId [] true] else []) ++
        if relay.failed then [.close call.streamId] else []) := by
    rw [← List.append_assoc]
    cases failed : relay.failed with
    | false => exact ⟨_, (answers.whole failed).trans (List.append_nil _).symm⟩
    | true => exact answers.within failed
  obtain ⟨rest, whole⟩ := within
  rcases List.append_eq_append_iff.mp whole with ⟨between, shorter, -⟩ | ⟨ends, longer, split⟩
  · obtain ⟨front, back, rfl, queued, -⟩ := List.map_eq_append_iff.mp shorter
    exact ⟨front, [], by simp [queued], List.prefix_append _ _, by simp, by simp⟩
  · refine ⟨pieces, ends, longer, List.prefix_rfl, fun write member => ?_, fun some => ⟨rfl, ?_⟩⟩
    · have inside := split.symm ▸ List.mem_append_left rest member
      rcases List.mem_append.mp inside with ended | failed
      · split at ended
        · rw [List.mem_singleton.mp ended]
          rfl
        · cases ended
      · split at failed
        · rw [List.mem_singleton.mp failed]
          rfl
        · cases failed
    · by_contra neither
      obtain ⟨goesOn, fine⟩ := not_or.mp neither
      rw [if_neg goesOn, if_neg fine] at split
      exact some (List.append_eq_nil_iff.mp split.symm).1

theorem flatMap_pieces (pieces : List (List UInt8)) :
    (pieces.map (.data Outbound.connectStreamId · false)).flatMap (writeMeaning.marks 0 ⟨0, ·⟩) =
      pieces.flatten.map (.byte Outbound.connectStreamId) := by
  induction pieces with
  | nil => rfl
  | cons piece pieces ih =>
      rw [List.map_cons, List.flatMap_cons, ih, List.flatten_cons, List.map_append]
      exact congrArg (· ++ _) (List.append_nil _)

theorem flatMap_ends {ends : List QuicWrite} {streamId : UInt64}
    (marks : ∀ write ∈ ends, writeMeaning.marks 0 ⟨0, write⟩ = [.fin streamId]) :
    ends.flatMap (writeMeaning.marks 0 ⟨0, ·⟩) = List.replicate ends.length (.fin streamId) := by
  induction ends with
  | nil => rfl
  | cons write ends ih =>
      obtain ⟨first, rest⟩ := List.forall_mem_cons.mp marks
      rw [List.flatMap_cons, first, ih rest]
      rfl

end Server

/-- A server's connection as long as no write pass fails. -/
structure ServerWrites (setting : Inbound.Setting) where
  start : Nat
  events : List Inbound.Event
  proceeds : (Inbound.ledgerMachine setting).Meets Inbound.Ledger.Proceeds (.new setting start)
    events

namespace ServerWrites

variable {setting : Inbound.Setting}

def ledger (run : ServerWrites setting) : Inbound.Ledger setting :=
  (Inbound.ledgerMachine setting).run (.new setting run.start) run.events

theorem sound (run : ServerWrites setting) : Inbound.Sound run.ledger :=
  (Inbound.run_sound (Inbound.Sound.new setting run.start) run.proceeds).1

/-- The bytes that the QUIC library has taken from the server for the stream. -/
def bytes (run : ServerWrites setting) : List UInt8 :=
  Mark.bytesOn Outbound.connectStreamId (Mark.accepted run.ledger.record)

end ServerWrites

/-- A client's connection that waits for an answer, as long as no call fails.  Nothing
arrives on a stream behind its end. -/
structure ClientReads (setting : Outbound.ClientSetting) where
  app : Outbound.ClientApp
  events : List Outbound.ClientEvent
  opened : app.streamTx.isSome = true
  succeeds : (Outbound.clientMachine setting).Meets (Outbound.ClientApp.Succeeds setting) app events
  orderly : events.Pairwise fun earlier later => earlier.ends = true → later.bytes = []

namespace ClientReads

variable {setting : Outbound.ClientSetting}

def bytes (run : ClientReads setting) : List UInt8 := run.events.flatMap Outbound.ClientEvent.bytes

def ended (run : ClientReads setting) : Bool := run.events.any Outbound.ClientEvent.ends

def handed (run : ClientReads setting) : List (List UInt8) := run.app.handed setting run.events

def after (run : ClientReads setting) : Outbound.ClientApp :=
  (Outbound.clientMachine setting).run run.app run.events

end ClientReads

/-- One stream from its target to its client.  What the relay has queued is what the
server's queue was given for the stream; QUIC delivers a beginning of it, and its end
behind the last byte; the writing task has been given what the client handed to it,
and its channel ends only when the client lets go of the stream, or with the
connection. -/
structure Download (client : Outbound.ClientSetting) (server : Inbound.Setting) where
  relayRun : RelayRun
  serverWrites : ServerWrites server
  clientReads : ClientReads client
  writerEvents : List Outbound.AppWriterEvent
  alive : Bool
  named : relayRun.call.streamId = Outbound.connectStreamId
  fed : serverWrites.ledger.enqueued.filter (·.on Outbound.connectStreamId) =
    relayRun.relay.queued
  carried : clientReads.bytes <+: serverWrites.bytes
  finished : clientReads.ended = true →
    (.fin Outbound.connectStreamId, true) ∈ serverWrites.ledger.record ∧
      clientReads.bytes = serverWrites.bytes
  handed : (Outbound.appWriterMachine.run .new writerEvents).given = clientReads.handed
  held : alive = true → (Outbound.appWriterMachine.run .new writerEvents).connected = false →
    clientReads.after.streamTx = none

namespace Download

variable {client : Outbound.ClientSetting} {server : Inbound.Setting}

def relay (download : Download client server) : Inbound.Relay := download.relayRun.relay

def writer (download : Download client server) : Outbound.AppWriter :=
  Outbound.appWriterMachine.run .new download.writerEvents

/-- The server's queue holds what the relay has read for the stream, and its ends. -/
theorem promised (download : Download client server) :
    ∃ bytes ends, Mark.marksOn Outbound.connectStreamId download.serverWrites.ledger.promised =
        Mark.script Outbound.connectStreamId bytes ends ∧
      bytes <+: download.relay.read ∧
      (0 < ends → bytes = download.relay.read ∧
        (download.relay.remoteClosed = true ∨ download.relay.failed = true)) := by
  obtain ⟨pieces, answers⟩ := download.relayRun.answers
  obtain ⟨front, ends, queued, within, marks, whole⟩ := answers.queue
  have read : pieces.flatten = download.relay.read := answers.read
  refine ⟨front.flatten, ends.length, ?_, ?_, fun positive => ?_⟩
  · rw [Inbound.Ledger.promised, marksOn_flow download.serverWrites.sound.fresh, download.fed,
      queued, List.flatMap_append, download.named]
    rw [download.named] at marks
    exact congrArg₂ (· ++ ·) (flatMap_pieces front) (flatMap_ends marks)
  · rw [← read]
    obtain ⟨rest, rfl⟩ := within
    simp
  · obtain ⟨same, ended⟩ := whole (List.ne_nil_of_length_pos positive)
    exact ⟨same ▸ read, ended⟩

end Download

/-- The application gets what the relay has read from the target, in order.  On a
connection that is alive it sees the end only behind all of it, once the target has
ended its stream or the relay has failed. -/
theorem target_bytes_reach_client {client : Outbound.ClientSetting} {server : Inbound.Setting}
    (download : Download client server) :
    download.writer.written <+: download.relay.read ∧
    (download.alive = true → download.writer.stage.Left → download.writer.failed = false →
      download.writer.written = download.relay.read ∧
      (download.relay.remoteClosed = true ∨ download.relay.failed = true)) := by
  obtain ⟨bytes, ends, shape, within, whole⟩ := download.promised
  have kept := download.serverWrites.sound.writesKept.kept
  have writes : download.writer.Writes := Outbound.AppWriter.Writes.run download.writerEvents
  have given : download.writer.given.flatten = download.clientReads.bytes :=
    (congrArg List.flatten download.handed).trans
      (Outbound.ClientApp.handed_flatten download.clientReads.succeeds
        download.clientReads.opened download.clientReads.orderly)
  refine ⟨?_, fun alive left sound => ?_⟩
  · have delivered := writes.within
    rw [given] at delivered
    exact delivered.trans (download.carried.trans ((kept.within shape).trans within))
  · obtain ⟨apart, empty⟩ := writes.left left sound
    have held := Outbound.ClientApp.run_streamTx download.clientReads.succeeds
    rw [show (Outbound.clientMachine client).run _ _ = download.clientReads.after from rfl,
      download.held alive apart, download.clientReads.opened] at held
    have ended : download.clientReads.ended = true := by simpa [ClientReads.ended] using held.symm
    obtain ⟨taken, all⟩ := download.finished ended
    obtain ⟨positive, everything⟩ := kept.finished shape taken
    obtain ⟨same, reason⟩ := whole positive
    refine ⟨?_, reason⟩
    have complete := writes.whole sound
    rw [empty, left.hand, given, all] at complete
    simp only [List.append_nil, List.flatten_nil] at complete
    exact complete.trans (everything.trans same)

/-- An answer that is sent around a packet, and arrives in other pieces. -/
def sampleDownload : Download sampleClientSetting Inbound.sampleSetting where
  relayRun :=
    { call := ⟨Inbound.sampleSession 80, 0, [1]⟩
      connected := true
      events :=
        [.dial (.ok ()), .wrote .whole, .poll (some (.ok [7, 8])), .sent, .poll (some (.ok [])),
          .sent] }
  serverWrites :=
    { start := 0
      events :=
        [.enqueue (.data 0 [7, 8] false), .enqueue (.uniStream none none [9]),
          .processWrites 2 [] [.sent 1],
          .processWrites 3 [.data 0 [] true] [.sent 1, .sent 1, .sent 0]]
      proceeds := by decide }
  clientReads :=
    { app := .new 0 sampleClientChannel
      events := [.readStream 0 [7] false, .streamReceives, .readStream 0 [8] true]
      opened := rfl
      succeeds := by decide
      orderly := by decide }
  writerEvents :=
    [.give [7], .recv, .wrote none, .give [8], .hangUp, .recv, .wrote none, .recv, .shutdown]
  alive := true
  named := rfl
  fed := by decide
  carried := by decide
  finished := fun _ => by decide
  handed := by decide
  held := fun _ _ => by decide

theorem sample_download_is_complete :
    sampleDownload.writer.written = [7, 8] ∧ sampleDownload.relay.remoteClosed = true := by
  obtain ⟨-, whole⟩ := target_bytes_reach_client sampleDownload
  obtain ⟨all, -⟩ := whole rfl trivial (by decide)
  exact ⟨all.trans (by decide), by decide⟩

end Rtunnel.Tuic
