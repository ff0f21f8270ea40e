import Rtunnel.Data.Passes
import Rtunnel.Tuic.Fragmentation
import Rtunnel.Tuic.Inbound.App
import Rtunnel.Tuic.Outbound.UdpClient
import Rtunnel.Tuic.Wire

namespace Rtunnel.Tuic

open Rtunnel.Data
open Rtunnel.Tuic.Inbound.App (SendAnswer Flow)

/-! Write passes end.

Both sides of a TUIC connection drain a queue of writes in a loop that puts the
pieces of a datagram beyond the limit back in front of the queue.  The pieces
fit the limit that they were cut for, so a pass is one of the kind that handles
its queue write by write.
-/

/-- The QUIC library under a fixed limit on datagrams. -/
def Obeys (limit : Nat) (data : List UInt8) (answer : SendAnswer) : Prop :=
  if limit < data.length then answer = .bufferTooShort limit
  else (∃ count, answer = .sent count) ∨ answer = .done

/-- How the loop of a pass ends, if it does. -/
def verdict : Flow → Option (Except Error Unit)
  | .proceed => none
  | .pause => some (.ok ())
  | .fail reason => some (.error reason)

/-- What a packet looks like on the wire. -/
def encoding (core : TuicCore) (packet : Packet) : List UInt8 :=
  match encodePacket core packet with
  | .ok data => data
  | .error _ => []

/-- The fragments of the packet in a datagram; none if there is no packet or it
cannot be cut. -/
def fragmentsOf (core : TuicCore) (limit : Nat) (data : List UInt8) : List Packet :=
  match parsePacket core data with
  | .error _ => []
  | .ok packet =>
      match fragmentPacket core packet limit with
      | .error _ => []
      | .ok fragments => fragments

theorem fragmentsOf_cases (core : TuicCore) (limit : Nat) (data : List UInt8) :
    fragmentsOf core limit data = [] ∨
      ∃ packet, parsePacket core data = .ok packet ∧
        fragmentPacket core packet limit = .ok (fragmentsOf core limit data) := by
  unfold fragmentsOf
  cases parsed : parsePacket core data with
  | error reason => exact Or.inl rfl
  | ok packet =>
      dsimp only
      cases pieces : fragmentPacket core packet limit with
      | error reason => exact Or.inl rfl
      | ok fragments => exact Or.inr ⟨packet, rfl, pieces⟩

theorem encoding_length_le {core : TuicCore} (lawful : core.Lawful)
    (writes : core.WritesPackets) {limit : Nat} {packet : Packet} {fragments : List Packet}
    (cut : fragmentPacket core packet limit = .ok fragments) {fragment : Packet}
    (member : fragment ∈ fragments) : (encoding core fragment).length ≤ limit := by
  obtain ⟨bytes, encoded, fits⟩ := fragment_encodes lawful writes cut member
  simpa only [encoding, encoded] using fits

theorem Obeys.of_fits {limit : Nat} {data : List UInt8} {answer : SendAnswer}
    (obeys : Obeys limit data answer) (fits : data.length ≤ limit) :
    (∃ count, answer = .sent count) ∨ answer = .done := by
  rwa [Obeys, if_neg (Nat.not_lt.mpr fits)] at obeys

theorem Obeys.of_exceeds {limit : Nat} {data : List UInt8} {answer : SendAnswer}
    (obeys : Obeys limit data answer) (exceeds : limit < data.length) :
    answer = .bufferTooShort limit := by
  rwa [Obeys, if_pos exceeds] at obeys

namespace Inbound

variable {setting : Setting}

namespace App

def bare (app : App setting) : App setting := { app with pendingWrites := [] }

/-- Other writes wait behind those of the queue. -/
def behind (rest : List QuicWrite) (app : App setting) : App setting :=
  { app with pendingWrites := app.pendingWrites ++ rest }

theorem touchUdpSession_behind (app : App setting) (rest : List QuicWrite)
    (assocId : Option UInt16) (now : Nat) :
    (app.behind rest).touchUdpSession assocId now =
      (app.touchUdpSession assocId now).behind rest := by
  cases assocId with
  | none => rfl
  | some assocId =>
      simp only [touchUdpSession, modifyUdpSession, behind]
      split <;> rfl

theorem requeueFragments_behind (app : App setting) (rest : List QuicWrite)
    (assocId : Option UInt16) (fragments : List Packet) :
    (app.behind rest).requeueFragments assocId fragments =
      ((app.requeueFragments assocId fragments).1.behind rest,
        (app.requeueFragments assocId fragments).2) := by
  induction fragments generalizing app with
  | nil => rfl
  | cons fragment fragments ih =>
      simp only [requeueFragments]
      split
      · rfl
      · exact ih (app.requeue _)

theorem writeDatagram_behind (app : App setting) (rest : List QuicWrite) (now : Nat)
    (assocId : Option UInt16) (data : List UInt8) (answer : SendAnswer) :
    (app.behind rest).writeDatagram now assocId data answer =
      ((app.writeDatagram now assocId data answer).1.behind rest,
        (app.writeDatagram now assocId data answer).2) := by
  simp only [writeDatagram, touchUdpSession_behind]
  cases answer with
  | sent count => rfl
  | done => rfl
  | failed text => rfl
  | bufferTooShort limit =>
      dsimp only
      split
      · rfl
      · split
        · rfl
        · exact requeueFragments_behind _ rest assocId _

theorem writeUniStream_behind (app : App setting) (rest : List QuicWrite) (now : Nat)
    (assocId : Option UInt16) (streamId : Option UInt64) (data : List UInt8)
    (answer : SendAnswer) :
    (app.behind rest).writeUniStream now assocId streamId data answer =
      ((app.writeUniStream now assocId streamId data answer).1.behind rest,
        (app.writeUniStream now assocId streamId data answer).2) := by
  simp only [writeUniStream, touchUdpSession_behind]
  cases streamId <;> cases answer <;> first | rfl | (dsimp only; split <;> rfl)

/-- A try looks at the write alone, not at what waits behind it. -/
theorem performWrite_behind (app : App setting) (rest : List QuicWrite) (now : Nat)
    (write : QuicWrite) (answer : SendAnswer) :
    (app.behind rest).performWrite now write answer =
      ((app.performWrite now write answer).1.behind rest,
        (app.performWrite now write answer).2) := by
  cases write with
  | data streamId data fin =>
      cases answer <;> simp only [performWrite, writeData] <;> first | rfl | (split <;> rfl)
  | datagram assocId data => exact writeDatagram_behind app rest now assocId data answer
  | uniStream assocId streamId data =>
      exact writeUniStream_behind app rest now assocId streamId data answer
  | close streamId => rfl

/-- The loop of `process_writes` as a worker on the rest of the connection. -/
def writer (setting : Setting) (now : Nat) :
    Worker (App setting) QuicWrite SendAnswer (Except Error Unit) where
  attempt app write answer :=
    ((app.bare.performWrite now write answer).1.bare,
      (app.bare.performWrite now write answer).1.pendingWrites,
      verdict (app.bare.performWrite now write answer).2)

theorem writer_attempt {app after : App setting} {now : Nat} {write : QuicWrite}
    {answer : SendAnswer} {flow : Flow}
    (performed : app.bare.performWrite now write answer = (after, flow)) :
    (writer setting now).attempt app write answer =
      (after.bare, after.pendingWrites, verdict flow) := by
  simp only [writer, performed]

/-- The write loop is the worker's loop. -/
theorem writer_drains (setting : Setting) (now : Nat) :
    (writer setting now).Drains (.ok ()) pendingWrites
      (fun app writes => { app with pendingWrites := writes })
      (fun app write answer => ((app.performWrite now write answer).1,
        verdict (app.performWrite now write answer).2))
      (fun app answers => app.writeLoop now answers) where
  restored _ := rfl
  queued _ _ := rfl
  replaced _ _ _ := rfl
  attempt_eq _ _ _ := rfl
  behind app rest write answer := by
    have moved := performWrite_behind app rest now write answer
    exact congrArg (fun reached => (reached.1, verdict reached.2)) moved
  idle := by
    intro app answers none
    cases answers with
    | nil => rfl
    | cons answer answers =>
        have empty := none.resolve_left (List.cons_ne_nil answer answers)
        simp only [writeLoop, empty]
  turn := by
    intro app write rest answer answers held
    simp only [writeLoop, held]
    rcases ({ app with pendingWrites := rest } : App setting).performWrite now write answer with
      ⟨after, flow⟩
    cases flow <;> rfl

end App

def TooLong (limit : Nat) : QuicWrite → Prop
  | .datagram _ data => limit < data.length
  | _ => False

instance decidableTooLong (limit : Nat) : DecidablePred (TooLong limit)
  | .datagram _ data => inferInstanceAs (Decidable (limit < data.length))
  | .data _ _ _ | .uniStream _ _ _ | .close _ => .isFalse id

theorem TooLong.datagram {limit : Nat} {write : QuicWrite} (large : TooLong limit write) :
    ∃ assocId data, write = .datagram assocId data ∧ limit < data.length := by
  cases write with
  | datagram assocId data => exact ⟨assocId, data, rfl, large⟩
  | data streamId data fin => exact large.elim
  | uniStream assocId streamId data => exact large.elim
  | close streamId => exact large.elim

/-- Datagrams are answered as the limit demands; streams are answered in any way. -/
def AnswersUnder (limit : Nat) : QuicWrite → SendAnswer → Prop
  | .datagram _ data, answer => Obeys limit data answer
  | _, _ => True

/-- The pieces of a datagram, in the order of their numbers; none if what it holds
is no packet or cannot be cut. -/
def datagramPieces (core : TuicCore) (limit : Nat) : QuicWrite → List QuicWrite
  | .datagram assocId data =>
      (fragmentsOf core limit data).map fun fragment => .datagram assocId (encoding core fragment)
  | _ => []

namespace App

/-- Writes put in front of the queue. -/
def ahead (front : List QuicWrite) (app : App setting) : App setting :=
  { app with pendingWrites := front ++ app.pendingWrites }

theorem requeueFragments_eq (app : App setting) (assocId : Option UInt16)
    {fragments : List Packet}
    (encodes : ∀ fragment ∈ fragments, ∃ bytes, encodePacket setting.core fragment = .ok bytes) :
    app.requeueFragments assocId fragments =
      (app.ahead (fragments.reverse.map fun fragment =>
        .datagram assocId (encoding setting.core fragment)), .proceed) := by
  induction fragments generalizing app with
  | nil => rfl
  | cons fragment fragments ih =>
      obtain ⟨⟨bytes, encoded⟩, others⟩ := List.forall_mem_cons.mp encodes
      rw [requeueFragments, encoded]
      dsimp only
      rw [ih _ others, List.reverse_cons, List.map_append]
      simp only [ahead, requeue, encoding, encoded, List.map_cons, List.map_nil,
        List.append_assoc, List.singleton_append]

theorem touched_pendingWrites (app : App setting) (assocId : Option UInt16) (now : Nat) :
    (app.bare.touchUdpSession assocId now).pendingWrites = [] := by
  cases assocId with
  | none => rfl
  | some assocId =>
      simp only [touchUdpSession, modifyUdpSession]
      split <;> rfl

/-- A datagram beyond the limit gives way to its pieces. -/
theorem attempt_tooLong (lawful : setting.core.Lawful) (writes : setting.core.WritesPackets)
    (app : App setting) (now limit : Nat) (assocId : Option UInt16) (data : List UInt8) :
    ∃ after, (writer setting now).attempt app (.datagram assocId data) (.bufferTooShort limit) =
      (after, datagramPieces setting.core limit (.datagram assocId data), none) := by
  have performed : app.bare.performWrite now (.datagram assocId data) (.bufferTooShort limit) =
      ((app.bare.touchUdpSession assocId now).ahead
        (datagramPieces setting.core limit (.datagram assocId data)), .proceed) := by
    simp only [performWrite, writeDatagram, datagramPieces, fragmentsOf]
    cases parsed : parsePacket setting.core data with
    | error reason => rfl
    | ok packet =>
        dsimp only
        cases pieces : fragmentPacket setting.core packet limit with
        | error reason => rfl
        | ok fragments =>
            dsimp only
            rw [requeueFragments_eq, List.reverse_reverse]
            intro fragment member
            obtain ⟨bytes, encoded, _⟩ :=
              fragment_encodes lawful writes pieces (List.mem_reverse.mp member)
            exact ⟨bytes, encoded⟩
  refine ⟨(app.bare.touchUdpSession assocId now).bare, ?_⟩
  rw [writer_attempt performed, ahead, touched_pendingWrites, List.append_nil]
  rfl

/-- A datagram within the limit is sent, or put back as it is. -/
theorem attempt_fitting (app : App setting) (now : Nat) (assocId : Option UInt16)
    (data : List UInt8) {answer : SendAnswer}
    (answered : (∃ count, answer = .sent count) ∨ answer = .done) :
    (∃ after, (writer setting now).attempt app (.datagram assocId data) answer =
        (after, [], none)) ∨
      ∃ after, (writer setting now).attempt app (.datagram assocId data) answer =
        (after, [.datagram assocId data], some (.ok ())) := by
  rcases answered with ⟨count, rfl⟩ | rfl
  · left
    have performed : app.bare.performWrite now (.datagram assocId data) (.sent count) =
        (app.bare.touchUdpSession assocId now, .proceed) := rfl
    refine ⟨(app.bare.touchUdpSession assocId now).bare, ?_⟩
    rw [writer_attempt performed, touched_pendingWrites]
    rfl
  · right
    have performed : app.bare.performWrite now (.datagram assocId data) .done =
        ((app.bare.touchUdpSession assocId now).requeue (.datagram assocId data), .pause) := rfl
    refine ⟨(app.bare.touchUdpSession assocId now).bare, ?_⟩
    rw [writer_attempt performed, requeue, touched_pendingWrites]
    rfl

/-- A write to a stream puts something back only when it ends the pass. -/
theorem proceed_of_stream {app after : App setting} {now : Nat} {write : QuicWrite}
    {answer : SendAnswer} (stream : ∀ assocId data, write ≠ .datagram assocId data)
    (performed : app.bare.performWrite now write answer = (after, .proceed)) :
    after.pendingWrites = [] := by
  cases write with
  | datagram assocId data => exact absurd rfl (stream assocId data)
  | close streamId =>
      cases performed
      rfl
  | data streamId data fin =>
      cases answer <;> simp only [performWrite, writeData] at performed
      case sent count =>
          split at performed <;> cases performed
          rfl
      case done =>
          split at performed <;> cases performed
          rfl
      case bufferTooShort limit => cases performed
      case failed text => cases performed
  | uniStream assocId streamId data =>
      have nothing := app.touched_pendingWrites assocId now
      cases answer <;> simp only [performWrite, writeUniStream] at performed
      case sent count =>
          split at performed <;> cases performed
          split
          · exact nothing
          · exact nothing
      case done => cases performed
      case bufferTooShort limit => cases performed
      case failed text => cases performed

theorem attempt_stream (app : App setting) (now : Nat) {write : QuicWrite}
    (answer : SendAnswer) (stream : ∀ assocId data, write ≠ .datagram assocId data) :
    (∃ after, (writer setting now).attempt app write answer = (after, [], none)) ∨
      ∃ after left result,
        (writer setting now).attempt app write answer = (after, left, some result) := by
  cases performed : app.bare.performWrite now write answer with
  | mk after flow =>
      have tried := writer_attempt performed
      cases flow with
      | proceed =>
          rw [proceed_of_stream stream performed] at tried
          exact Or.inl ⟨_, tried⟩
      | pause => exact Or.inr ⟨_, _, _, tried⟩
      | fail reason => exact Or.inr ⟨_, _, _, tried⟩

theorem writer_cuts (lawful : setting.core.Lawful) (writes : setting.core.WritesPackets)
    (now limit : Nat) :
    (writer setting now).Cuts (.ok ()) (TooLong limit) (datagramPieces setting.core limit)
      (AnswersUnder limit) u8Max where
  small := by
    intro app write answer small obeys
    cases write with
    | datagram assocId data =>
        rcases app.attempt_fitting now assocId data (obeys.of_fits (Nat.not_lt.mp small)) with
          sent | ⟨after, held⟩
        · exact Or.inl sent
        · exact Or.inr ⟨after, _, _, held⟩
    | data streamId data fin => exact app.attempt_stream now answer fun _ _ => by simp
    | uniStream assocId streamId data => exact app.attempt_stream now answer fun _ _ => by simp
    | close streamId => exact app.attempt_stream now answer fun _ _ => by simp
  split := by
    intro app write answer large obeys
    obtain ⟨assocId, data, rfl, exceeds⟩ := large.datagram
    cases obeys.of_exceeds exceeds
    exact app.attempt_tooLong lawful writes now limit assocId data
  pieces := by
    intro write large piece member
    obtain ⟨assocId, data, rfl, exceeds⟩ := large.datagram
    obtain ⟨fragment, inside, rfl⟩ := List.mem_map.mp member
    rcases fragmentsOf_cases setting.core limit data with none | ⟨packet, _, cut⟩
    · rw [none] at inside
      cases inside
    · have fits := encoding_length_le lawful writes cut inside
      exact ⟨Nat.not_lt.mpr fits, fun app answer obeys =>
        app.attempt_fitting now assocId _ (obeys.of_fits fits)⟩
  few := by
    intro write large
    obtain ⟨assocId, data, rfl, exceeds⟩ := large.datagram
    rw [datagramPieces, List.length_map]
    rcases fragmentsOf_cases setting.core limit data with none | ⟨packet, _, cut⟩
    · rw [none]
      exact Nat.zero_le _
    · exact (fragmentPacket_ascending cut).1

end App

end Inbound

namespace Outbound

variable {core : TuicCore}

namespace UdpClientApp

def bare (app : UdpClientApp) : UdpClientApp := { app with pendingWrites := [] }

def behind (rest : List TuicUdpWrite) (app : UdpClientApp) : UdpClientApp :=
  { app with pendingWrites := app.pendingWrites ++ rest }

theorem performWrite_behind (app : UdpClientApp) (rest : List TuicUdpWrite)
    (write : TuicUdpWrite) (answer : SendAnswer) :
    (app.behind rest).performWrite core write answer =
      ((app.performWrite core write answer).1.behind rest,
        (app.performWrite core write answer).2) := by
  cases write with
  | heartbeat =>
      simp only [performWrite, writeHeartbeat]
      cases encodeHeartbeat core with
      | error reason => rfl
      | ok data => cases answer <;> rfl
  | packet packet =>
      simp only [performWrite, writePacket]
      cases encodePacket core packet with
      | error reason => rfl
      | ok data =>
          cases answer with
          | sent count => rfl
          | done => rfl
          | failed text => rfl
          | bufferTooShort limit =>
              dsimp only
              cases fragmentPacket core packet limit with
              | error reason => rfl
              | ok fragments =>
                  simp only [requeueFragments_eq, behind, List.append_assoc]

def writer (core : TuicCore) :
    Worker UdpClientApp TuicUdpWrite SendAnswer (Except Error Unit) where
  attempt app write answer :=
    ((app.bare.performWrite core write answer).1.bare,
      (app.bare.performWrite core write answer).1.pendingWrites,
      verdict (app.bare.performWrite core write answer).2)

theorem writer_attempt {app after : UdpClientApp} {write : TuicUdpWrite} {answer : SendAnswer}
    {flow : Flow} (performed : app.bare.performWrite core write answer = (after, flow)) :
    (writer core).attempt app write answer =
      (after.bare, after.pendingWrites, verdict flow) := by
  simp only [writer, performed]

theorem writer_drains (core : TuicCore) :
    (writer core).Drains (.ok ()) pendingWrites
      (fun app writes => { app with pendingWrites := writes })
      (fun app write answer => ((app.performWrite core write answer).1,
        verdict (app.performWrite core write answer).2))
      (fun app answers => app.writeLoop core answers) where
  restored _ := rfl
  queued _ _ := rfl
  replaced _ _ _ := rfl
  attempt_eq _ _ _ := rfl
  behind app rest write answer := by
    have moved : (app.behind rest).performWrite core write answer = _ :=
      performWrite_behind app rest write answer
    exact congrArg (fun reached => (reached.1, verdict reached.2)) moved
  idle := by
    intro app answers none
    cases answers with
    | nil => rfl
    | cons answer answers =>
        have empty := none.resolve_left (List.cons_ne_nil answer answers)
        simp only [writeLoop, empty]
  turn := by
    intro app write rest answer answers held
    simp only [writeLoop, held]
    rcases ({ app with pendingWrites := rest } : UdpClientApp).performWrite core write answer with
      ⟨after, flow⟩
    cases flow <;> rfl

end UdpClientApp

/-- What a write sends as a datagram. -/
def sends (core : TuicCore) : TuicUdpWrite → Except Error (List UInt8)
  | .packet packet => encodePacket core packet
  | .heartbeat => encodeHeartbeat core

def AnswersUnder (core : TuicCore) (limit : Nat) (write : TuicUdpWrite) (answer : SendAnswer) :
    Prop :=
  ∀ data, sends core write = .ok data → Obeys limit data answer

def TooLong (core : TuicCore) (limit : Nat) : TuicUdpWrite → Prop
  | .packet packet => limit < (encoding core packet).length
  | .heartbeat => False

instance decidableTooLong (core : TuicCore) (limit : Nat) : DecidablePred (TooLong core limit)
  | .packet packet => inferInstanceAs (Decidable (limit < (encoding core packet).length))
  | .heartbeat => .isFalse id

/-- The pieces of a packet, in the order of their numbers; none if it cannot be cut. -/
def packetPieces (core : TuicCore) (limit : Nat) : TuicUdpWrite → List TuicUdpWrite
  | .packet packet =>
      match fragmentPacket core packet limit with
      | .error _ => []
      | .ok fragments => fragments.map .packet
  | .heartbeat => []

/-- Only packets are too long, and only if they have an encoding. -/
theorem TooLong.packet {limit : Nat} {write : TuicUdpWrite} (large : TooLong core limit write) :
    ∃ packet data, write = .packet packet ∧ encodePacket core packet = .ok data ∧
      limit < data.length := by
  cases write with
  | heartbeat => exact large.elim
  | packet packet =>
      cases encoded : encodePacket core packet with
      | ok data =>
          simp only [TooLong, encoding, encoded] at large
          exact ⟨packet, data, rfl, encoded, large⟩
      | error reason =>
          simp only [TooLong, encoding, encoded] at large
          exact absurd large (Nat.not_lt_zero limit)

namespace UdpClientApp

theorem attempt_fitting (app : UdpClientApp) {packet : Packet} {data : List UInt8}
    (encoded : encodePacket core packet = .ok data) {answer : SendAnswer}
    (answered : (∃ count, answer = .sent count) ∨ answer = .done) :
    (∃ after, (writer core).attempt app (.packet packet) answer = (after, [], none)) ∨
      ∃ after, (writer core).attempt app (.packet packet) answer =
        (after, [.packet packet], some (.ok ())) := by
  rcases answered with ⟨count, rfl⟩ | rfl
  · have performed : app.bare.performWrite core (.packet packet) (.sent count) =
        (app.bare, .proceed) := by
      simp only [performWrite, writePacket, encoded]
    exact Or.inl ⟨_, writer_attempt performed⟩
  · have performed : app.bare.performWrite core (.packet packet) .done =
        (app.bare.requeue (.packet packet), .pause) := by
      simp only [performWrite, writePacket, encoded]
    exact Or.inr ⟨_, writer_attempt performed⟩

theorem attempt_tooLong (app : UdpClientApp) {packet : Packet} {data : List UInt8}
    (encoded : encodePacket core packet = .ok data) (limit : Nat) :
    ∃ after, (writer core).attempt app (.packet packet) (.bufferTooShort limit) =
      (after, packetPieces core limit (.packet packet), none) := by
  cases cut : fragmentPacket core packet limit with
  | error reason =>
      have performed : app.bare.performWrite core (.packet packet) (.bufferTooShort limit) =
          (app.bare, .proceed) := by
        simp only [performWrite, writePacket, encoded, cut]
      refine ⟨app.bare, ?_⟩
      rw [writer_attempt performed]
      simp only [packetPieces, cut]
      rfl
  | ok fragments =>
      have performed : app.bare.performWrite core (.packet packet) (.bufferTooShort limit) =
          (app.bare.requeueFragments fragments, .proceed) := by
        simp only [performWrite, writePacket, encoded, cut]
      refine ⟨app.bare, ?_⟩
      rw [writer_attempt performed]
      simp only [packetPieces, cut, requeueFragments_eq, bare, List.append_nil]
      rfl

/-- A heartbeat, or a packet without an encoding, is sent at once or ends the pass. -/
theorem attempt_unpacked (app : UdpClientApp) {write : TuicUdpWrite} (answer : SendAnswer)
    (unpacked : ∀ packet data, write = .packet packet → encodePacket core packet ≠ .ok data) :
    (∃ after, (writer core).attempt app write answer = (after, [], none)) ∨
      ∃ after left result, (writer core).attempt app write answer =
        (after, left, some result) := by
  cases write with
  | packet packet =>
      cases encoded : encodePacket core packet with
      | ok data => exact absurd encoded (unpacked packet data rfl)
      | error reason =>
          have performed : app.bare.performWrite core (.packet packet) answer =
              (app.bare, .fail reason) := by
            simp only [performWrite, writePacket, encoded]
          exact Or.inr ⟨_, _, _, writer_attempt performed⟩
  | heartbeat =>
      cases performed : app.bare.performWrite core .heartbeat answer with
      | mk after flow =>
          have tried := writer_attempt performed
          cases flow with
          | pause => exact Or.inr ⟨_, _, _, tried⟩
          | fail reason => exact Or.inr ⟨_, _, _, tried⟩
          | proceed =>
              have nothing : after.pendingWrites = [] := by
                simp only [performWrite, writeHeartbeat] at performed
                split at performed
                · cases performed
                · split at performed <;> cases performed
                  rfl
              rw [nothing] at tried
              exact Or.inl ⟨_, tried⟩

theorem writer_cuts (lawful : core.Lawful) (writes : core.WritesPackets) (limit : Nat) :
    (writer core).Cuts (.ok ()) (TooLong core limit) (packetPieces core limit)
      (AnswersUnder core limit) u8Max where
  small := by
    intro app write answer small obeys
    by_cases packed : ∃ packet data, write = .packet packet ∧ encodePacket core packet = .ok data
    · obtain ⟨packet, data, rfl, encoded⟩ := packed
      simp only [TooLong, encoding, encoded] at small
      rcases app.attempt_fitting encoded ((obeys data encoded).of_fits (Nat.not_lt.mp small)) with
        sent | ⟨after, held⟩
      · exact Or.inl sent
      · exact Or.inr ⟨after, _, _, held⟩
    · exact app.attempt_unpacked answer fun packet data same encoded =>
        packed ⟨packet, data, same, encoded⟩
  split := by
    intro app write answer large obeys
    obtain ⟨packet, data, rfl, encoded, exceeds⟩ := large.packet
    cases (obeys data encoded).of_exceeds exceeds
    exact app.attempt_tooLong encoded limit
  pieces := by
    intro write large piece member
    obtain ⟨packet, data, rfl, encoded, exceeds⟩ := large.packet
    simp only [packetPieces] at member
    split at member
    · cases member
    · next fragments cut =>
        obtain ⟨fragment, inside, rfl⟩ := List.mem_map.mp member
        have short := encoding_length_le lawful writes cut inside
        obtain ⟨bytes, written, fits⟩ := fragment_encodes lawful writes cut inside
        exact ⟨Nat.not_lt.mpr short, fun app answer obeys =>
          app.attempt_fitting written ((obeys bytes written).of_fits fits)⟩
  few := by
    intro write large
    obtain ⟨packet, data, rfl, encoded, exceeds⟩ := large.packet
    simp only [packetPieces]
    split
    · exact Nat.zero_le _
    · next fragments cut =>
        rw [List.length_map]
        exact (fragmentPacket_ascending cut).1

end UdpClientApp

end Outbound

/-- Under a fixed limit a pass of either side ends: it handles its queue write by
write, in at most 256 tries for each, cuts no write twice and no piece, tries the
pieces of a packet one behind the other in the order of their numbers, and drops
a packet that cannot be cut. -/
theorem write_passes_end (limit : Nat) :
    (∀ (setting : Inbound.Setting) (app : Inbound.App setting) (now : Nat)
        (late : List Inbound.QuicWrite),
      (∀ reason answers, app.checkAuthenticationDeadline now = .error reason →
        app.processWrites now late answers = (app, .error reason)) ∧
      ∀ ask : Nat → Inbound.QuicWrite → SendAnswer,
        setting.core.Lawful → setting.core.WritesPackets →
        (∀ time write, Inbound.AnswersUnder limit write (ask time write)) →
        app.checkAuthenticationDeadline now = .ok () →
        let start := (app.maybeCleanupUdpState now).drainOutbound late
        ∃ trace final left result,
          (Inbound.App.writer setting now).Pass (.ok ()) (Inbound.TooLong limit)
            (Inbound.datagramPieces setting.core limit) ask 0 start.bare start.pendingWrites
            trace final left result ∧
          trace.length ≤ 256 * start.pendingWrites.length ∧
          trace.countP (fun entry => Inbound.TooLong limit entry.1) ≤
            start.pendingWrites.length ∧
          ∀ more, app.processWrites now late (trace.map Prod.snd ++ more) =
            ({ final with pendingWrites := left }, result)) ∧
    (∀ (core : TuicCore) (app : Outbound.UdpClientApp) (late : List Outbound.TuicUdpWrite)
        (ask : Nat → Outbound.TuicUdpWrite → SendAnswer),
      core.Lawful → core.WritesPackets →
      (∀ time write, Outbound.AnswersUnder core limit write (ask time write)) →
      let start := app.drainOutbound late
      ∃ trace final left result,
        (Outbound.UdpClientApp.writer core).Pass (.ok ()) (Outbound.TooLong core limit)
          (Outbound.packetPieces core limit) ask 0 start.bare start.pendingWrites
          trace final left result ∧
        trace.length ≤ 256 * start.pendingWrites.length ∧
        trace.countP (fun entry => Outbound.TooLong core limit entry.1) ≤
          start.pendingWrites.length ∧
        ∀ more, app.processWrites core late (trace.map Prod.snd ++ more) =
          ({ final with pendingWrites := left }, result)) ∧
    ∀ (core : TuicCore) (packet : Packet) (fragments : List Packet),
      fragmentPacket core packet limit = .ok fragments → Ascending packet fragments := by
  refine ⟨?_, ?_, fun core packet fragments cut => (fragmentPacket_ascending cut).2⟩
  · intro setting app now late
    refine ⟨fun reason answers expired => ?_, fun ask lawful writes obeys timely => ?_⟩
    · rw [Inbound.App.processWrites, expired]
      rfl
    · obtain ⟨trace, final, left, result, pass, short⟩ :=
        (Inbound.App.writer_cuts lawful writes now limit).exists_pass obeys 0
          ((app.maybeCleanupUdpState now).drainOutbound late).bare
          ((app.maybeCleanupUdpState now).drainOutbound late).pendingWrites
      refine ⟨trace, final, left, result, pass, short, pass.countP_le, fun more => ?_⟩
      rw [Inbound.App.processWrites, timely]
      exact (Inbound.App.writer_drains setting now).drain_eq _ _ (pass.loop_eq more)
  · intro core app late ask lawful writes obeys
    obtain ⟨trace, final, left, result, pass, short⟩ :=
      (Outbound.UdpClientApp.writer_cuts lawful writes limit).exists_pass obeys 0
        (app.drainOutbound late).bare (app.drainOutbound late).pendingWrites
    exact ⟨trace, final, left, result, pass, short, pass.countP_le,
      fun more => (Outbound.UdpClientApp.writer_drains core).drain_eq _ _ (pass.loop_eq more)⟩

/-- A library that takes every datagram within the limit. -/
def answerTo (limit : Nat) (data : List UInt8) : SendAnswer :=
  if limit < data.length then .bufferTooShort limit else .sent data.length

theorem obeys_answerTo (limit : Nat) (data : List UInt8) :
    Obeys limit data (answerTo limit data) := by
  unfold Obeys answerTo
  split
  · rfl
  · exact Or.inl ⟨data.length, rfl⟩

def answerWrite (limit : Nat) : Inbound.QuicWrite → SendAnswer
  | .datagram _ data => answerTo limit data
  | _ => .done

def answerUdpWrite (limit : Nat) (write : Outbound.TuicUdpWrite) : SendAnswer :=
  match Outbound.sends tuicV5 write with
  | .ok data => answerTo limit data
  | .error _ => .done

/-- Its header takes 17 bytes. -/
def fiveBytePacket : Packet where
  assocId := 1
  pktId := 7
  fragTotal := 1
  fragId := 0
  target := some (.ip (.v4 loopback 53))
  payload := [1, 2, 3, 4, 5]

def passSetting : Inbound.Setting where
  core := tuicV5
  inbound := "in"
  users := []
  exporter _ _ := .error (.message "no exporter")

def queuedApp : Inbound.App passSetting :=
  { Inbound.App.new passSetting 0 with
    pendingWrites := [.datagram none (encoding tuicV5 fiveBytePacket), .close 4] }

def queuedClient : Outbound.UdpClientApp where
  outbound := .bounded 4
  pendingWrites := [.packet fiveBytePacket, .heartbeat]

/-- Under a limit of 19 bytes a packet of five bytes goes out in three pieces. -/
theorem sample_passes_end :
    (∃ (trace : List (Inbound.QuicWrite × SendAnswer)) (final : Inbound.App passSetting)
        (left : List Inbound.QuicWrite) (result : Except Error Unit), trace.length ≤ 512 ∧
      ∀ more, queuedApp.processWrites 0 [] (trace.map Prod.snd ++ more) =
        ({ final with pendingWrites := left }, result)) ∧
    (∃ (trace : List (Outbound.TuicUdpWrite × SendAnswer)) (final : Outbound.UdpClientApp)
        (left : List Outbound.TuicUdpWrite) (result : Except Error Unit), trace.length ≤ 512 ∧
      ∀ more, queuedClient.processWrites tuicV5 [] (trace.map Prod.snd ++ more) =
        ({ final with pendingWrites := left }, result)) ∧
    ∃ fragments, fragmentPacket tuicV5 fiveBytePacket 19 = .ok fragments ∧
      fragments.length = 3 ∧ Ascending fiveBytePacket fragments := by
  obtain ⟨inbound, outbound, ascending⟩ := write_passes_end 19
  have served : ∀ (time : Nat) write, Inbound.AnswersUnder 19 write (answerWrite 19 write) := by
    intro time write
    cases write with
    | datagram assocId data => exact obeys_answerTo 19 data
    | data streamId data fin => trivial
    | uniStream assocId streamId data => trivial
    | close streamId => trivial
  have taken : ∀ (time : Nat) write,
      Outbound.AnswersUnder tuicV5 19 write (answerUdpWrite 19 write) := by
    intro time write data sent
    rw [answerUdpWrite, sent]
    exact obeys_answerTo 19 data
  obtain ⟨trace, final, left, result, _, short, _, ran⟩ := (inbound passSetting queuedApp 0 []).2
    (fun _ => answerWrite 19) tuicV5_lawful tuicV5_writesPackets served rfl
  obtain ⟨trace', final', left', result', _, short', _, ran'⟩ := outbound tuicV5 queuedClient []
    (fun _ => answerUdpWrite 19) tuicV5_lawful tuicV5_writesPackets taken
  have cut : ∃ fragments, fragmentPacket tuicV5 fiveBytePacket 19 = .ok fragments ∧
      fragments.length = 3 := ⟨_, rfl, rfl⟩
  obtain ⟨fragments, found, count⟩ := cut
  exact ⟨⟨trace, final, left, result, short, ran⟩, ⟨trace', final', left', result', short', ran'⟩,
    fragments, found, count, ascending tuicV5 fiveBytePacket fragments found⟩

end Rtunnel.Tuic
