import Rtunnel.Anytls.Inbound.UotRelay

namespace Rtunnel.Anytls.Inbound

open Rtunnel.Data Rtunnel.Anytls.Uot

/-! The sizes of the answers that a relay writes back.

An answer is limited by the two-byte length of its payload and, with that length
and in packet mode its source in front, by the two-byte length of the one frame
that carries it.  Payloads between the two limits end the relay.
-/

/-- The bytes of a datagram's address. -/
def uotAddrLength : TargetAddr → Nat
  | .ip (.v4 _ _) => 7
  | .ip (.v6 _ _ _ _) => 19
  | .domain host _ => host.utf8ByteSize + 4

/-- The address has a form on the stream: a host name's length is one byte. -/
def Addressable : TargetAddr → Prop
  | .ip _ => True
  | .domain host _ => host.utf8ByteSize ≤ 255

/-- What stands in front of an answer's payload. -/
def uotOverhead (connect : Bool) (source : TargetAddr) : Nat :=
  if connect then 2 else uotAddrLength source + 2

/-- The answer and what stands in front of it fit one frame. -/
structure FitsFrame (connect : Bool) (response : TargetAddr × List UInt8) : Prop where
  addressed : connect = false → Addressable response.1
  sized : uotOverhead connect response.1 + response.2.length ≤ u16Max

/-- The client's reader takes the datagram from these bytes, with its source as
far as the stream carries it. -/
def ReadsBack (data : List UInt8) (response : TargetAddr × List UInt8) : Bool → Prop
  | true => readUotPayload.Reads data response.2
  | false => readPacket.Reads data (response.1.onWire, response.2)

/-- An answer is received, and the connection takes what is written. -/
def answer (response : TargetAddr × List UInt8) : UotEvent := .respond (.ok response) (.ok ())

/-- The relay wrote one frame for each answer and goes on as before. -/
structure Forwarded (streamId : UInt32) (connect : Bool)
    (responses : List (TargetAddr × List UInt8)) (before after : UotStream) : Prop where
  running : after.stage = before.stage
  written : ∃ frames, after.wrote = before.wrote ++ frames ∧
    (∀ frame ∈ frames, frame.command = .psh ∧ frame.streamId = streamId) ∧
    List.Forall₂ (fun frame response => ReadsBack frame.data response connect) frames responses

theorem encodeUotPacketAddr_of_addressable {source : TargetAddr}
    (addressable : Addressable source) :
    ∃ address, encodeUotPacketAddr source = .ok address ∧
      address.length = uotAddrLength source := by
  cases source with
  | ip addr =>
      cases addr with
      | v4 ip port =>
          refine ⟨_, rfl, ?_⟩
          simp [ip.length_eq, uotAddrLength]
      | v6 ip port flowinfo scopeId =>
          refine ⟨_, rfl, ?_⟩
          simp [ip.length_eq, uotAddrLength]
  | domain host port =>
      refine ⟨_, if_pos addressable, ?_⟩
      simp [utf8Bytes_length, uotAddrLength]

theorem encodeUotPacketAddr_of_not_addressable {source : TargetAddr}
    (unnamed : ¬ Addressable source) :
    encodeUotPacketAddr source = .error "domain is too long" := by
  cases source with
  | ip addr => exact absurd trivial unnamed
  | domain host port => exact if_neg unnamed

/-- An answer that has a form has the expected size and is read back. -/
theorem encodeDatagram_of_addressed {connect : Bool} {response : TargetAddr × List UInt8}
    (small : response.2.length ≤ u16Max) (addressed : connect = false → Addressable response.1) :
    ∃ data, encodeDatagram connect response = .ok data ∧
      data.length = uotOverhead connect response.1 + response.2.length ∧
      ReadsBack data response connect := by
  cases connect with
  | true =>
      have encoded : encodeUotPayload response.2 =
          .ok (toBe 2 response.2.length ++ response.2) := if_pos small
      refine ⟨_, encoded, ?_, reads_lenPayload encoded⟩
      rw [List.length_append, toBe_length]
      rfl
  | false =>
      obtain ⟨address, found, length⟩ := encodeUotPacketAddr_of_addressable (addressed rfl)
      have encoded : encodeUotPacket response.1 response.2 =
          .ok (address ++ (toBe 2 response.2.length ++ response.2)) := by
        rw [encodeUotPacket, if_pos small, found]
        rfl
      refine ⟨_, encoded, ?_, reads_readPacket encoded⟩
      rw [List.length_append, List.length_append, toBe_length, length, ← Nat.add_assoc]
      rfl

theorem encodeDatagram_of_not_addressed {response : TargetAddr × List UInt8}
    (small : response.2.length ≤ u16Max) (unnamed : ¬ Addressable response.1) :
    encodeDatagram false response = .error "domain is too long" := by
  have refused := encodeUotPacketAddr_of_not_addressable unnamed
  change encodeUotPacket response.1 response.2 = _
  rw [encodeUotPacket, if_pos small, refused]
  rfl

namespace UotStream

variable {stream : UotStream} {connect : Bool} {target : TargetAddr}
  {pending : Demand Failure (TargetAddr × List UInt8)} {response : TargetAddr × List UInt8}

theorem respond_of_fits (streamId : UInt32)
    (relaying : stream.stage = .relaying connect target pending)
    (small : response.2.length ≤ u16Max) (fits : FitsFrame connect response) :
    ∃ frame : Frame, frame.command = .psh ∧ frame.streamId = streamId ∧
      ReadsBack frame.data response connect ∧
      stream.respond streamId (.ok response) (.ok ()) =
        { stream with
          answered := stream.answered ++ [response]
          wrote := stream.wrote ++ [frame] } := by
  obtain ⟨data, encoded, length, reads⟩ := encodeDatagram_of_addressed small fits.addressed
  have sized : data.length ≤ u16Max := length ▸ fits.sized
  refine ⟨⟨.psh, streamId, data, sized⟩, rfl, rfl, reads, ?_⟩
  simp only [respond, relaying, writeAnswer, encoded, dif_pos sized]

theorem respond_of_not_fits (streamId : UInt32)
    (relaying : stream.stage = .relaying connect target pending)
    (small : response.2.length ≤ u16Max) (large : ¬ FitsFrame connect response) :
    ∃ reason, (stream.respond streamId (.ok response) (.ok ())).stage = .ended reason := by
  by_cases addressed : connect = false → Addressable response.1
  · obtain ⟨data, encoded, length, _⟩ := encodeDatagram_of_addressed small addressed
    have oversized : ¬ data.length ≤ u16Max := fun sized =>
      large ⟨addressed, length ▸ sized⟩
    refine ⟨"anytls frame is too large", ?_⟩
    simp only [respond, relaying, writeAnswer, encoded, dif_neg oversized, enter]
  · obtain ⟨rfl, unnamed⟩ := Classical.not_imp.mp addressed
    refine ⟨"domain is too long", ?_⟩
    simp only [respond, relaying, writeAnswer, encodeDatagram_of_not_addressed small unnamed,
      enter]

theorem respond_of_ended (streamId : UInt32) {reason : Failure}
    (ended : stream.stage = .ended reason) (response : TargetAddr × List UInt8) :
    (stream.respond streamId (.ok response) (.ok ())).stage = .ended reason := by
  simp only [respond, ended]

variable {tag : String} {streamId : UInt32}

theorem run_of_ended {reason : Failure} (ended : stream.stage = .ended reason)
    (responses : List (TargetAddr × List UInt8)) :
    ((uotMachine tag streamId).run stream (responses.map answer)).stage = .ended reason := by
  induction responses generalizing stream with
  | nil => exact ended
  | cons response responses ih => exact ih (respond_of_ended streamId ended response)

/-- A relay that still runs has received answers that fit. -/
theorem fits_of_running {responses : List (TargetAddr × List UInt8)}
    (relaying : stream.stage = .relaying connect target pending)
    (small : ∀ response ∈ responses, response.2.length ≤ u16Max)
    (running : ((uotMachine tag streamId).run stream (responses.map answer)).stage =
      .relaying connect target pending) :
    ∀ response ∈ responses, FitsFrame connect response := by
  induction responses generalizing stream with
  | nil => exact fun _ absent => absurd absent List.not_mem_nil
  | cons response responses ih =>
      obtain ⟨smallFirst, smallRest⟩ := List.forall_mem_cons.mp small
      by_cases fits : FitsFrame connect response
      · obtain ⟨frame, _, _, _, stepped⟩ := respond_of_fits streamId relaying smallFirst fits
        have later : (stream.respond streamId (.ok response) (.ok ())).stage =
            .relaying connect target pending := by
          rw [stepped]
          exact relaying
        exact List.forall_mem_cons.mpr ⟨fits, ih later smallRest running⟩
      · obtain ⟨reason, ended⟩ := respond_of_not_fits streamId relaying smallFirst fits
        have stays : ((uotMachine tag streamId).run stream
            ((response :: responses).map answer)).stage = .ended reason :=
          run_of_ended ended responses
        rw [stays] at running
        cases running

theorem forwarded_of_fits {responses : List (TargetAddr × List UInt8)}
    (relaying : stream.stage = .relaying connect target pending)
    (small : ∀ response ∈ responses, response.2.length ≤ u16Max)
    (fits : ∀ response ∈ responses, FitsFrame connect response) :
    Forwarded streamId connect responses stream
      ((uotMachine tag streamId).run stream (responses.map answer)) := by
  induction responses generalizing stream with
  | nil =>
      refine ⟨rfl, [], ?_, fun _ absent => absurd absent List.not_mem_nil, .nil⟩
      rw [List.append_nil]
      rfl
  | cons response responses ih =>
      obtain ⟨smallFirst, smallRest⟩ := List.forall_mem_cons.mp small
      obtain ⟨fitsFirst, fitsRest⟩ := List.forall_mem_cons.mp fits
      obtain ⟨frame, command, sameId, reads, stepped⟩ :=
        respond_of_fits streamId relaying smallFirst fitsFirst
      have later : (stream.respond streamId (.ok response) (.ok ())).stage =
          .relaying connect target pending := by
        rw [stepped]
        exact relaying
      obtain ⟨running, frames, wrote, framed, carried⟩ := ih later smallRest fitsRest
      refine ⟨running.trans (later.trans relaying.symm), frame :: frames, ?_, ?_,
        .cons reads carried⟩
      · refine wrote.trans ?_
        rw [stepped, List.append_assoc]
        rfl
      · exact List.forall_mem_cons.mpr ⟨⟨command, sameId⟩, framed⟩

end UotStream

/-- Whenever a stream's task relays, it forwards the answers it receives and
goes on, exactly if each of them fits one frame. -/
theorem answers_are_forwarded_iff (tag : String) (streamId : UInt32) (events : List UotEvent)
    {connect : Bool} {target : TargetAddr} {pending : Demand Failure (TargetAddr × List UInt8)}
    (relaying : ((uotMachine tag streamId).run .new events).stage =
      .relaying connect target pending)
    (responses : List (TargetAddr × List UInt8))
    (small : ∀ response ∈ responses, response.2.length ≤ u16Max) :
    Forwarded streamId connect responses ((uotMachine tag streamId).run .new events)
        ((uotMachine tag streamId).run .new (events ++ responses.map answer)) ↔
      ∀ response ∈ responses, FitsFrame connect response := by
  rw [Machine.run_append]
  constructor
  · intro forwarded
    exact UotStream.fits_of_running relaying small (forwarded.running.trans relaying)
  · exact UotStream.forwarded_of_fits relaying small

/-- A stream in packet mode was requested and its target dialled. -/
def packetRequest : List UotEvent :=
  [.arrive [0, 1, 127, 0, 0, 1, 0, 53], .poll (.ok ()) (.ok ())]

def packetTarget : TargetAddr := .ip (.v4 loopback 53)

theorem packetRequest_relays :
    ((uotMachine "in" 3).run .new packetRequest).stage =
      .relaying false packetTarget (readDatagram false packetTarget) := rfl

/-- An answer of the given size. -/
def zeroAnswer (source : TargetAddr) (size : Nat) : TargetAddr × List UInt8 :=
  (source, List.replicate size 0)

theorem zeroAnswer_length (source : TargetAddr) (size : Nat) :
    (zeroAnswer source size).2.length = size := List.length_replicate

/-- A datagram over IPv4 carries at most 65507 bytes, and they fit. -/
theorem largest_ipv4_answer_is_forwarded :
    Forwarded 3 false [zeroAnswer packetTarget 65507]
      ((uotMachine "in" 3).run .new packetRequest)
      ((uotMachine "in" 3).run .new
        (packetRequest ++ [zeroAnswer packetTarget 65507].map answer)) := by
  refine (answers_are_forwarded_iff "in" 3 packetRequest packetRequest_relays _ ?_).mpr ?_
  · intro response member
    rw [List.mem_singleton.mp member, zeroAnswer_length]
    decide
  · intro response member
    rw [List.mem_singleton.mp member]
    refine ⟨fun _ => trivial, ?_⟩
    rw [zeroAnswer_length]
    decide

def ipv6Source : TargetAddr := .ip (.v6 ⟨List.replicate 15 0 ++ [1], rfl⟩ 53 0 0)

/-- A datagram over IPv6 carries up to 65527 bytes; in packet mode such an
answer ends the relay. -/
theorem largest_ipv6_answer_ends_relay :
    ((uotMachine "in" 3).run .new packetRequest).stage =
        .relaying false packetTarget (readDatagram false packetTarget) ∧
      (zeroAnswer ipv6Source 65527).2.length ≤ u16Max ∧
      ¬ Forwarded 3 false [zeroAnswer ipv6Source 65527]
        ((uotMachine "in" 3).run .new packetRequest)
        ((uotMachine "in" 3).run .new
          (packetRequest ++ [zeroAnswer ipv6Source 65527].map answer)) := by
  have small : (zeroAnswer ipv6Source 65527).2.length ≤ u16Max := by
    rw [zeroAnswer_length]
    decide
  refine ⟨packetRequest_relays, small, fun forwarded => ?_⟩
  rw [Machine.run_append] at forwarded
  have fits := UotStream.fits_of_running packetRequest_relays (List.forall_mem_singleton.mpr small)
    (forwarded.running.trans packetRequest_relays) _ (List.mem_singleton_self _)
  have sized := fits.sized
  rw [zeroAnswer_length] at sized
  exact absurd sized (by decide)

end Rtunnel.Anytls.Inbound
