import Rtunnel.Anytls.Socksaddr
import Rtunnel.Data.Demand

namespace Rtunnel.Anytls

open Rtunnel.Data

/-! UDP over TCP, version 2.

A stream starts with a mode byte and a target; after that it carries datagrams,
each with its length in front and, unless the stream is bound to one target,
with its own address.  The address format of a datagram is not the one of the
request.  Readers are suspended wherever the stream pauses.
-/

def encodeUotPayload (payload : List UInt8) : Except Failure (List UInt8) :=
  if payload.length ≤ u16Max then .ok (toBe 2 payload.length ++ payload)
  else .error "uot packet is too large"

def encodeUotAddr (target : TargetAddr) : Except Failure (List UInt8) := encodeSocksaddr target

def encodeUotPacketAddr : TargetAddr → Except Failure (List UInt8)
  | .ip (.v4 ip port) => .ok (0x00 :: (ip.bytes ++ toBe 2 port.toNat))
  | .ip (.v6 ip port _ _) => .ok (0x01 :: (ip.bytes ++ toBe 2 port.toNat))
  | .domain host port =>
      if host.utf8ByteSize ≤ 255 then
        .ok (0x02 :: UInt8.ofNat host.utf8ByteSize :: (utf8Bytes host ++ toBe 2 port.toNat))
      else .error "domain is too long"

def encodeUotPacket (target : TargetAddr) (payload : List UInt8) : Except Failure (List UInt8) :=
  if payload.length ≤ u16Max then do
    let address ← encodeUotPacketAddr target
    return address ++ (toBe 2 payload.length ++ payload)
  else .error "uot packet is too large"

/-- What one datagram looks like on the stream. -/
def encodeDatagram (connect : Bool) (datagram : TargetAddr × List UInt8) :
    Except Failure (List UInt8) :=
  if connect then encodeUotPayload datagram.2 else encodeUotPacket datagram.1 datagram.2

def encodeDatagrams (connect : Bool) :
    List (TargetAddr × List UInt8) → Except Failure (List UInt8)
  | [] => .ok []
  | datagram :: datagrams => do
      let first ← encodeDatagram connect datagram
      let rest ← encodeDatagrams connect datagrams
      return first ++ rest

/-- What the client writes first, and how that ends; the stream answers the write
of the mode and that of the address. -/
def writeUotV2Request (connect : Bool) (target : TargetAddr)
    (modeWrite addressWrite : Except Failure Unit) : List UInt8 × Except Failure Unit :=
  match modeWrite with
  | .error reason => ([], .error reason)
  | .ok () =>
      let mode : UInt8 := if connect then 1 else 0
      match encodeUotAddr target with
      | .error reason => ([mode], .error reason)
      | .ok address =>
          match addressWrite with
          | .error reason => ([mode], .error reason)
          | .ok () => (mode :: address, .ok ())

namespace Uot

def readU8 (ended : Failure) : Demand Failure UInt8 := do
  let bytes ← Demand.field 1 ended
  return UInt8.ofNat bytes.toNat

def readU16 (ended : Failure) : Demand Failure UInt16 := do
  let bytes ← Demand.field 2 ended
  return UInt16.ofNat bytes.toNat

/-- A payload behind its length, with the reports of a stream that ends in either. -/
def lenPayload (lengthEnded payloadEnded : Failure) : Demand Failure (List UInt8) := do
  let length ← readU16 lengthEnded
  let payload ← Demand.field length.toNat payloadEnded
  return payload.bytes

def streamClosed : Failure := "uot stream closed"

def readLenPayload : Demand Failure (List UInt8) := lenPayload streamClosed streamClosed

def ipv4Target (bytes : Octets (4 + 2)) : TargetAddr :=
  .ip (.v4 bytes.front (UInt16.ofNat bytes.back.toNat))

def ipv6Target (bytes : Octets (16 + 2)) : TargetAddr :=
  .ip (.v6 bytes.front (UInt16.ofNat bytes.back.toNat) 0 0)

def readDomain : Demand Failure TargetAddr := do
  let length ← readU8 streamClosed
  let bytes ← Demand.field (length.toNat + 2) streamClosed
  match ofUtf8 bytes.front.bytes with
  | some host => return .domain host (UInt16.ofNat bytes.back.toNat)
  | none => .fail (utf8Failure bytes.front.bytes)

def readSocksTarget : Demand Failure TargetAddr := do
  let atyp ← readU8 streamClosed
  if atyp = 0x01 then
    let bytes ← Demand.field (4 + 2) streamClosed
    return ipv4Target bytes
  else if atyp = 0x02 then readDomain
  else if atyp = 0x03 then readDomain
  else if atyp = 0x04 then
    let bytes ← Demand.field (16 + 2) streamClosed
    return ipv6Target bytes
  else .fail s!"unsupported uot request address type {atyp}"

def readUotPacketTarget : Demand Failure TargetAddr := do
  let atyp ← readU8 streamClosed
  if atyp = 0x00 then
    let bytes ← Demand.field (4 + 2) streamClosed
    return ipv4Target bytes
  else if atyp = 0x01 then
    let bytes ← Demand.field (16 + 2) streamClosed
    return ipv6Target bytes
  else if atyp = 0x02 then readDomain
  else .fail s!"unsupported uot packet address type {atyp}"

def readPacket : Demand Failure (TargetAddr × List UInt8) := do
  let target ← readUotPacketTarget
  let payload ← readLenPayload
  return (target, payload)

/-- The mode of a stream and its target. -/
def readRequest : Demand Failure (Bool × TargetAddr) := do
  let mode ← readU8 streamClosed
  let target ← readSocksTarget
  return (decide (mode = 1), target)

/-- The client's reader of a response. -/
def readUotPayload : Demand Failure (List UInt8) := lenPayload endOfFile earlyEof

theorem encodeDatagrams_snoc {connect : Bool} {datagrams : List (TargetAddr × List UInt8)}
    {datagram : TargetAddr × List UInt8} {body data : List UInt8}
    (first : encodeDatagrams connect datagrams = .ok body)
    (last : encodeDatagram connect datagram = .ok data) :
    encodeDatagrams connect (datagrams ++ [datagram]) = .ok (body ++ data) := by
  induction datagrams generalizing body with
  | nil =>
      cases first
      rw [List.nil_append, encodeDatagrams, last, encodeDatagrams]
      simp [bind, Except.bind, pure, Except.pure]
  | cons head others ih =>
      cases found : encodeDatagram connect head with
      | error reason =>
          rw [encodeDatagrams, found] at first
          cases first
      | ok front =>
          cases rest : encodeDatagrams connect others with
          | error reason =>
              rw [encodeDatagrams, found, rest] at first
              cases first
          | ok back =>
              rw [encodeDatagrams, found, rest] at first
              cases first
              rw [List.cons_append, encodeDatagrams, found, ih rest, List.append_assoc]
              rfl

theorem reads_readU8 {ended : Failure} (byte : UInt8) : (readU8 ended).Reads [byte] byte := by
  have value : UInt8.ofNat (Octets.toNat ⟨[byte], rfl⟩) = byte := by
    simp [Octets.toNat, ofBe]
  have reads : (readU8 ended).Reads [byte] (UInt8.ofNat (Octets.toNat ⟨[byte], rfl⟩)) :=
    (Demand.Reads.field ⟨[byte], rfl⟩).map fun bytes => UInt8.ofNat bytes.toNat
  rw [value] at reads
  exact reads

theorem ofNat_toNat_u16 (value : UInt16) :
    UInt16.ofNat (Octets.ofNat 2 value.toNat).toNat = value := by
  have small : value.toNat % 256 ^ 2 = value.toNat := Nat.mod_eq_of_lt value.toNat_lt
  rw [Octets.toNat_ofNat, small, UInt16.ofNat_toNat]

theorem reads_readU16 {ended : Failure} (value : UInt16) :
    (readU16 ended).Reads (toBe 2 value.toNat) value := by
  have reads : (readU16 ended).Reads (toBe 2 value.toNat)
      (UInt16.ofNat (Octets.ofNat 2 value.toNat).toNat) :=
    (Demand.Reads.field (Octets.ofNat 2 value.toNat)).map fun bytes => UInt16.ofNat bytes.toNat
  rw [ofNat_toNat_u16] at reads
  exact reads

theorem reads_lenPayload {lengthEnded payloadEnded : Failure} {payload encoded : List UInt8}
    (accepted : encodeUotPayload payload = .ok encoded) :
    (lenPayload lengthEnded payloadEnded).Reads encoded payload := by
  unfold encodeUotPayload at accepted
  split at accepted
  · rename_i fits
    cases accepted
    have length : (UInt16.ofNat payload.length).toNat = payload.length :=
      Nat.mod_eq_of_lt (Nat.lt_succ_of_le fits)
    have front : (readU16 lengthEnded).Reads _ _ := reads_readU16 (UInt16.ofNat payload.length)
    rw [length] at front
    apply front.bind
    exact (Demand.Reads.field ⟨payload, length.symm⟩).map Octets.bytes
  · cases accepted

/-- A payload is read from its encoding only. -/
theorem encodeUotPayload_of_reads {lengthEnded payloadEnded : Failure} {payload used : List UInt8}
    (reads : (lenPayload lengthEnded payloadEnded).Reads used payload) :
    encodeUotPayload payload = .ok used := by
  have read := reads []
  rw [List.append_nil] at read
  obtain ⟨length, middle, first, read⟩ := Demand.advance_bind read
  obtain ⟨digits, start, second, value⟩ := Demand.advance_bind first
  obtain ⟨body, last, third, whole⟩ := Demand.advance_bind read
  cases value
  cases whole
  have small : digits.toNat < 256 ^ 2 := by
    have bound := ofBe_lt digits.bytes
    rw [digits.length_eq] at bound
    exact bound
  have announced : (UInt16.ofNat digits.toNat).toNat = digits.toNat := Nat.mod_eq_of_lt small
  have length : body.bytes.length = digits.toNat := body.length_eq.trans announced
  have front : toBe 2 digits.toNat = digits.bytes := congrArg Octets.bytes digits.ofNat_toNat
  have fits : body.bytes.length ≤ u16Max := by
    rw [length]
    exact Nat.le_of_lt_succ small
  rw [encodeUotPayload, if_pos fits, length, front, Demand.advance_field second,
    Demand.advance_field third, List.append_nil]

/-- Every announced length can be met. -/
theorem lenPayload_not_fail {lengthEnded payloadEnded : Failure} (input : List UInt8)
    (reason : Failure) (left : List UInt8) :
    (lenPayload lengthEnded payloadEnded).advance input ≠ (.fail reason, left) := by
  intro gaveUp
  cases found : readExact 2 input with
  | none =>
      simp only [lenPayload, readU16, Demand.field, bind, Demand.bind, Demand.advance,
        found] at gaveUp
      cases gaveUp
  | some split =>
      cases body : readExact (UInt16.ofNat split.1.toNat).toNat split.2 <;>
        simp only [lenPayload, readU16, Demand.field, bind, pure, Demand.bind, Demand.advance,
          found, body] at gaveUp <;>
        cases gaveUp

theorem ipv4Target_append (ip : Octets 4) (port : UInt16) :
    ipv4Target (ip.append (Octets.ofNat 2 port.toNat)) = .ip (.v4 ip port) := by
  simp only [ipv4Target, Octets.front_append, Octets.back_append, ofNat_toNat_u16]

theorem ipv6Target_append (ip : Octets 16) (port : UInt16) :
    ipv6Target (ip.append (Octets.ofNat 2 port.toNat)) = .ip (.v6 ip port 0 0) := by
  simp only [ipv6Target, Octets.front_append, Octets.back_append, ofNat_toNat_u16]

theorem reads_ipv4Target (ip : Octets 4) (port : UInt16) :
    (Demand.field (4 + 2) streamClosed >>= fun bytes => .done (ipv4Target bytes) :
      Demand Failure TargetAddr).Reads (ip.bytes ++ toBe 2 port.toNat)
        (TargetAddr.ip (.v4 ip port)).onWire := by
  rw [TargetAddr.onWire_v4, ← ipv4Target_append]
  exact (Demand.Reads.field (ip.append (Octets.ofNat 2 port.toNat))).map ipv4Target

theorem reads_ipv6Target (ip : Octets 16) (port : UInt16) (flowinfo scopeId : UInt32) :
    (Demand.field (16 + 2) streamClosed >>= fun bytes => .done (ipv6Target bytes) :
      Demand Failure TargetAddr).Reads (ip.bytes ++ toBe 2 port.toNat)
        (TargetAddr.ip (.v6 ip port flowinfo scopeId)).onWire := by
  rw [TargetAddr.onWire, ← ipv6Target_append]
  exact (Demand.Reads.field (ip.append (Octets.ofNat 2 port.toNat))).map ipv6Target

theorem reads_readDomain {host : String} (short : host.utf8ByteSize ≤ 255) (port : UInt16) :
    readDomain.Reads (UInt8.ofNat host.utf8ByteSize :: (utf8Bytes host ++ toBe 2 port.toNat))
      (.domain host port) := by
  have length : (UInt8.ofNat host.utf8ByteSize).toNat = host.utf8ByteSize :=
    Nat.mod_eq_of_lt (Nat.lt_succ_of_le short)
  let name : Octets (UInt8.ofNat host.utf8ByteSize).toNat :=
    ⟨utf8Bytes host, (utf8Bytes_length host).trans length.symm⟩
  have found : ofUtf8 (name.append (Octets.ofNat 2 port.toNat)).front.bytes = some host := by
    rw [Octets.front_append]
    exact ofUtf8_utf8Bytes host
  have rest : (Demand.field ((UInt8.ofNat host.utf8ByteSize).toNat + 2) streamClosed >>=
      fun bytes => match ofUtf8 bytes.front.bytes with
      | some host => .done (.domain host (UInt16.ofNat bytes.back.toNat))
      | none => .fail (utf8Failure bytes.front.bytes) : Demand Failure TargetAddr).Reads
        (utf8Bytes host ++ toBe 2 port.toNat) (.domain host port) := by
    intro later
    rw [show utf8Bytes host ++ toBe 2 port.toNat =
      (name.append (Octets.ofNat 2 port.toNat)).bytes from rfl]
    refine (Demand.advance_bind_of_done (Demand.Reads.field _ later) _).trans ?_
    simp only [found, Octets.back_append, ofNat_toNat_u16]
    rfl
  exact (reads_readU8 _).bind rest

variable {target : TargetAddr} {encoded : List UInt8}

/-- A request's target is read back as it was, up to what the wire does not carry. -/
theorem reads_readSocksTarget (accepted : encodeUotAddr target = .ok encoded) :
    readSocksTarget.Reads encoded target.onWire := by
  cases target with
  | ip addr =>
      cases addr with
      | v4 ip port =>
          cases accepted
          exact (reads_readU8 0x01).bind (reads_ipv4Target ip port)
      | v6 ip port flowinfo scopeId =>
          cases accepted
          exact (reads_readU8 0x04).bind (reads_ipv6Target ip port flowinfo scopeId)
  | domain host port =>
      simp only [encodeUotAddr, encodeSocksaddr] at accepted
      split at accepted
      · rename_i short
        cases accepted
        exact (reads_readU8 0x03).bind (reads_readDomain short port)
      · cases accepted

theorem reads_readUotPacketTarget (accepted : encodeUotPacketAddr target = .ok encoded) :
    readUotPacketTarget.Reads encoded target.onWire := by
  cases target with
  | ip addr =>
      cases addr with
      | v4 ip port =>
          cases accepted
          exact (reads_readU8 0x00).bind (reads_ipv4Target ip port)
      | v6 ip port flowinfo scopeId =>
          cases accepted
          exact (reads_readU8 0x01).bind (reads_ipv6Target ip port flowinfo scopeId)
  | domain host port =>
      simp only [encodeUotPacketAddr] at accepted
      split at accepted
      · rename_i short
        cases accepted
        exact (reads_readU8 0x02).bind (reads_readDomain short port)
      · cases accepted

theorem reads_readPacket {payload : List UInt8}
    (accepted : encodeUotPacket target payload = .ok encoded) :
    readPacket.Reads encoded (target.onWire, payload) := by
  unfold encodeUotPacket at accepted
  split at accepted
  · rename_i fits
    cases addressed : encodeUotPacketAddr target with
    | error reason =>
        rw [addressed] at accepted
        cases accepted
    | ok address =>
        rw [addressed] at accepted
        cases accepted
        have body : readLenPayload.Reads (toBe 2 payload.length ++ payload) payload :=
          reads_lenPayload (if_pos fits)
        exact (reads_readUotPacketTarget addressed).bind
          (body.map fun payload => (target.onWire, payload))
  · cases accepted

/-- What the client writes first tells the server the mode and the target. -/
theorem reads_readRequest {address : List UInt8} (accepted : encodeUotAddr target = .ok address)
    (mode : UInt8) :
    readRequest.Reads (mode :: address) (decide (mode = 1), target.onWire) := by
  exact (reads_readU8 mode).bind
    ((reads_readSocksTarget accepted).map fun target => (decide (mode = 1), target))

theorem advance_readU8 {ended : Failure} {input rest : List UInt8} {byte : UInt8}
    (read : (readU8 ended).advance input = (.done byte, rest)) : input = byte :: rest := by
  obtain ⟨field, middle, found, converted⟩ := Demand.advance_bind read
  cases converted
  obtain ⟨bytes, length⟩ := field
  obtain ⟨value, rfl⟩ := List.length_eq_one_iff.mp length
  have same : UInt8.ofNat (Octets.toNat ⟨[value], length⟩) = value := by
    simp [Octets.toNat, ofBe]
  rw [Demand.advance_field found, same]
  rfl

/-- The last two bytes of a field are its port. -/
theorem bytes_eq_front_port {width : Nat} (field : Octets (width + 2)) :
    field.bytes = field.front.bytes ++ toBe 2 (UInt16.ofNat field.back.toNat).toNat := by
  have small : field.back.toNat < 65536 := by
    have bound := ofBe_lt field.back.bytes
    rw [field.back.length_eq] at bound
    exact bound
  have port : toBe 2 field.back.toNat = field.back.bytes :=
    congrArg Octets.bytes field.back.ofNat_toNat
  rw [UInt16.toNat_ofNat', Nat.mod_eq_of_lt small, port]
  exact (List.take_append_drop width field.bytes).symm

theorem advance_field_port {width : Nat} {ended : Failure}
    {convert : Octets (width + 2) → TargetAddr} {input rest : List UInt8}
    (read : (Demand.field (width + 2) ended >>= fun bytes => .done (convert bytes) :
      Demand Failure TargetAddr).advance input = (.done target, rest)) :
    ∃ field, target = convert field ∧ input = field.front.bytes ++
      (toBe 2 (UInt16.ofNat field.back.toNat).toNat ++ rest) := by
  obtain ⟨field, middle, found, converted⟩ := Demand.advance_bind read
  cases converted
  refine ⟨field, rfl, ?_⟩
  rw [Demand.advance_field found, ← List.append_assoc, ← bytes_eq_front_port]

theorem advance_readDomain {input rest : List UInt8}
    (read : readDomain.advance input = (.done target, rest)) :
    ∃ host port, target = .domain host port ∧ host.utf8ByteSize ≤ 255 ∧
      input = UInt8.ofNat host.utf8ByteSize ::
        (utf8Bytes host ++ (toBe 2 port.toNat ++ rest)) := by
  obtain ⟨length, afterLength, readLength, read⟩ := Demand.advance_bind read
  obtain ⟨field, middle, found, read⟩ := Demand.advance_bind read
  split at read
  · next host decoded =>
      cases read
      have bytes := utf8Bytes_of_ofUtf8 decoded
      have width : host.utf8ByteSize = length.toNat := by
        rw [← utf8Bytes_length, bytes, field.front.length_eq]
      have small := length.toNat_lt
      refine ⟨host, UInt16.ofNat field.back.toNat, rfl, by omega, ?_⟩
      rw [advance_readU8 readLength, Demand.advance_field found, bytes, width,
        UInt8.ofNat_toNat, ← List.append_assoc field.front.bytes, ← bytes_eq_front_port]
  · cases read

/-- What is read as a request's target starts with its encoding, unless it has
the domain type of the other address format. -/
theorem advance_readSocksTarget {input rest : List UInt8} (other : input.head? ≠ some 0x02)
    (read : readSocksTarget.advance input = (.done target, rest)) :
    ∃ encoded, encodeUotAddr target = .ok encoded ∧ input = encoded ++ rest := by
  obtain ⟨atyp, afterAtyp, readAtyp, readRest⟩ := Demand.advance_bind read
  obtain rfl := advance_readU8 readAtyp
  split at readRest
  · next ipv4 =>
      obtain ⟨field, rfl, rfl⟩ := advance_field_port readRest
      exact ⟨_, rfl, by simp [ipv4]⟩
  · split at readRest
    · next foreign => exact absurd (congrArg some foreign) other
    · split at readRest
      · next domain =>
          obtain ⟨host, port, rfl, short, rfl⟩ := advance_readDomain readRest
          exact ⟨_, by rw [encodeUotAddr, encodeSocksaddr, if_pos short], by simp [domain]⟩
      · split at readRest
        · next ipv6 =>
            obtain ⟨field, rfl, rfl⟩ := advance_field_port readRest
            exact ⟨_, rfl, by simp [ipv6]⟩
        · cases readRest

end Uot

end Rtunnel.Anytls
