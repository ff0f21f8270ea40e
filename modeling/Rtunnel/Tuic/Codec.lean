import Rtunnel.Data.Chunks
import Rtunnel.Data.KeyedMap
import Rtunnel.Tuic.Core

namespace Rtunnel.Tuic

open Rtunnel.Data

/-! The TUIC codec: headers in and out of the `tuic-core` crate, packet
fragmentation, and the assembler that undoes it. -/

def authenticateLen : Nat := 2 + 16 + tokenLen

def seconds (count : Nat) : Nat := count * 1000000000

def fragmentIdleTimeout : Nat := seconds 30

def u16Max : Nat := 65535

def u8Max : Nat := 255

def targetToAddress : TargetAddr → Except Error Address
  | .domain host port =>
      if host.utf8ByteSize ≤ 255 then .ok (.domainAddress host port)
      else .error (.message "domain is too long")
  | .ip addr => .ok (.socketAddress addr)

def addressToTarget : Address → Except Error TargetAddr
  | .domainAddress host port => .ok (.domain host port)
  | .socketAddress addr => .ok (.ip addr)
  | .none => .error (.message "empty address is not valid for TCP connect")

def addressToOptionalTarget : Address → Except Error (Option TargetAddr)
  | .none => .ok none
  | other => (addressToTarget other).map some

structure Packet where
  assocId : UInt16
  pktId : UInt16
  fragTotal : UInt8
  fragId : UInt8
  target : Option TargetAddr
  payload : List UInt8
deriving DecidableEq

section Headers

variable (core : TuicCore)

def marshalHeader (header : Header) : Except Error (List UInt8) :=
  (core.marshal header).mapError .message

def parseHeader (data : List UInt8) : Except Error (Header × Nat) :=
  (core.unmarshal data).mapError .unmarshal

def encodeAuthenticate (uuid : Uuid) (token : Token) : Except Error (List UInt8) :=
  marshalHeader core (.authenticate uuid token)

def encodeConnect (target : TargetAddr) (payload : List UInt8) : Except Error (List UInt8) :=
  match targetToAddress target with
  | .error reason => .error reason
  | .ok addr => (marshalHeader core (.connect addr)).map (· ++ payload)

def encodeHeartbeat : Except Error (List UInt8) := marshalHeader core .heartbeat

def unexpectedCommand (header : Header) (expected : String) : Error :=
  let code := core.typeCode header
  .message s!"unexpected tuic command {code}, expected {expected}"

def parseAuthenticate (data : List UInt8) : Except Error (Uuid × Token) :=
  match parseHeader core data with
  | .error reason => .error reason
  | .ok (.authenticate uuid token, _) => .ok (uuid, token)
  | .ok (header, _) => .error (unexpectedCommand core header "authenticate")

def parseConnect (data : List UInt8) : Except Error (TargetAddr × Nat) :=
  match parseHeader core data with
  | .error reason => .error reason
  | .ok (.connect addr, consumed) => (addressToTarget addr).map fun target => (target, consumed)
  | .ok (header, _) => .error (unexpectedCommand core header "connect")

/-- Parse a stream prefix, distinguishing an incomplete header from invalid
data. -/
def tryParseConnect (data : List UInt8) : Except Error (Option (TargetAddr × Nat)) :=
  match parseConnect core data with
  | .ok connect => .ok (some connect)
  | .error (.unmarshal .unexpectedEof) => .ok none
  | .error reason => .error reason

def parseDissociate (data : List UInt8) : Except Error UInt16 :=
  match parseHeader core data with
  | .error reason => .error reason
  | .ok (.dissociate assocId, _) => .ok assocId
  | .ok (header, _) => .error (unexpectedCommand core header "dissociate")

def packetAddress (target : Option TargetAddr) : Except Error Address :=
  match target with
  | some target => targetToAddress target
  | none => .ok .none

def encodePacket (packet : Packet) : Except Error (List UInt8) :=
  if packet.fragTotal = 0 then
    .error (.message "packet fragment total cannot be zero")
  else if packet.fragTotal ≤ packet.fragId then
    .error (.message "packet fragment id exceeds fragment total")
  else if u16Max < packet.payload.length then
    .error (.message "tuic packet fragment is too large")
  else
    match packetAddress packet.target with
    | .error reason => .error reason
    | .ok addr =>
        match marshalHeader core (.packet packet.assocId packet.pktId packet.fragTotal
          packet.fragId (UInt16.ofNat packet.payload.length) addr) with
        | .error reason => .error reason
        | .ok output => .ok (output ++ packet.payload)

/-- One piece of a packet; only the first piece names the target. -/
def fragmentAt (packet : Packet) (count index : Nat) (payload : List UInt8) : Packet where
  assocId := packet.assocId
  pktId := packet.pktId
  fragTotal := UInt8.ofNat count
  fragId := UInt8.ofNat index
  target := if index = 0 then packet.target else none
  payload := payload

/-- Split a complete UDP packet to fit the negotiated QUIC DATAGRAM payload. -/
def fragmentPacket (packet : Packet) (maxSize : Nat) : Except Error (List Packet) :=
  match encodePacket core packet with
  | .error reason => .error reason
  | .ok encoded =>
      if encoded.length ≤ maxSize then
        .ok [packet]
      else if ¬ (packet.fragTotal = 1 ∧ packet.fragId = 0) then
        .error (.message "cannot refragment a TUIC fragment")
      else
        let headerLen := encoded.length - packet.payload.length
        let capacity := maxSize - headerLen
        if maxSize < headerLen ∨ capacity = 0 then
          .error (.message "QUIC DATAGRAM limit cannot fit a TUIC packet header")
        else
          let count := chunkCount capacity packet.payload
          if u8Max < count then
            .error (.message "TUIC packet requires too many fragments")
          else
            .ok ((chunks capacity packet.payload).mapIdx fun index payload =>
              fragmentAt packet count index payload)

/-- The payload range needs no overflow check of its own: both ends lie within
a byte string in memory. -/
def parsePacket (data : List UInt8) : Except Error Packet :=
  match parseHeader core data with
  | .error reason => .error reason
  | .ok (.packet assocId pktId fragTotal fragId size addr, payloadStart) =>
      if fragTotal = 0 then
        .error (.message "packet fragment total cannot be zero")
      else if fragTotal ≤ fragId then
        .error (.message "packet fragment id exceeds fragment total")
      else
        let payloadEnd := payloadStart + size.toNat
        if data.length < payloadEnd then
          .error (.message "short tuic packet payload")
        else
          match addressToOptionalTarget addr with
          | .error reason => .error reason
          | .ok target =>
              let payload := (data.drop payloadStart).take size.toNat
              .ok { assocId, pktId, fragTotal, fragId, target, payload }
  | .ok (header, _) => .error (unexpectedCommand core header "packet")

end Headers

/-- The fragments of one packet that have arrived so far. -/
structure FragmentedPacket where
  assocId : UInt16
  pktId : UInt16
  fragTotal : UInt8
  target : Option TargetAddr
  lastUsed : Nat
  fragments : KeyedMap UInt8 (List UInt8)
deriving DecidableEq

/-- The group that the first fragment of a packet opens. -/
def FragmentedPacket.opened (packet : Packet) (now : Nat) : FragmentedPacket where
  assocId := packet.assocId
  pktId := packet.pktId
  fragTotal := packet.fragTotal
  target := none
  lastUsed := now
  fragments := ∅

/-- A group after it has taken one fragment in. -/
def FragmentedPacket.accept (entry : FragmentedPacket) (packet : Packet) (now : Nat) :
    FragmentedPacket :=
  { entry with
    lastUsed := now
    target := if packet.fragId = 0 then packet.target else entry.target
    fragments := entry.fragments.insert packet.fragId packet.payload }

structure PacketAssembler where
  fragments : KeyedMap (UInt16 × UInt16) FragmentedPacket
deriving DecidableEq

namespace PacketAssembler

def empty : PacketAssembler := ⟨∅⟩

/-- Remove the fragments in id order and join them; a missing one stops the
loop, and what was removed before it stays removed. -/
def collect (fragments : KeyedMap UInt8 (List UInt8)) :
    List Nat → List UInt8 → KeyedMap UInt8 (List UInt8) × Option (List UInt8)
  | [], payload => (fragments, some payload)
  | fragId :: rest, payload =>
      match fragments.lookup (UInt8.ofNat fragId) with
      | none => (fragments, none)
      | some fragment =>
          collect (fragments.erase (UInt8.ofNat fragId)) rest (payload ++ fragment)

/-- What a group gives up once a fragment has arrived: nothing while pieces or
the target are missing, else the whole packet, and the group is gone. -/
def finish (entry : FragmentedPacket) : Option FragmentedPacket × Option Packet :=
  if entry.fragments.size ≠ entry.fragTotal.toNat then (some entry, none)
  else
    match entry.target with
    | none => (some entry, none)
    | some target =>
        match collect entry.fragments (List.range entry.fragTotal.toNat) [] with
        | (left, none) => (some { entry with fragments := left }, none)
        | (_, some payload) =>
            (none, some {
              assocId := entry.assocId
              pktId := entry.pktId
              fragTotal := 1
              fragId := 0
              target := some target
              payload := payload })

/-- What a fragment does to the group stored under its key. -/
def pushFragment (group : Option FragmentedPacket) (packet : Packet) (now : Nat) :
    Option FragmentedPacket × Except Error (Option Packet) :=
  let entry := group.getD (.opened packet now)
  if entry.fragTotal ≠ packet.fragTotal then
    (some entry, .error (.message "fragment total changed within packet"))
  else
    let finished := finish (entry.accept packet now)
    (finished.1, .ok finished.2)

def put (assembler : PacketAssembler) (key : UInt16 × UInt16) :
    Option FragmentedPacket → PacketAssembler
  | some entry => ⟨assembler.fragments.insert key entry⟩
  | none => ⟨assembler.fragments.erase key⟩

def pushAt (assembler : PacketAssembler) (packet : Packet) (now : Nat) :
    PacketAssembler × Except Error (Option Packet) :=
  if packet.fragTotal = 1 then
    if packet.target.isSome then (assembler, .ok (some packet))
    else (assembler, .error (.message "single-fragment packet missing target"))
  else
    let key := (packet.assocId, packet.pktId)
    let pushed := pushFragment (assembler.fragments.lookup key) packet now
    (assembler.put key pushed.1, pushed.2)

def evictIdle (assembler : PacketAssembler) (now timeout : Nat) : PacketAssembler :=
  ⟨assembler.fragments.retain fun _ packet => now - packet.lastUsed < timeout⟩

def push (assembler : PacketAssembler) (packet : Packet) (now : Nat) :
    PacketAssembler × Except Error (Option Packet) :=
  (assembler.evictIdle now fragmentIdleTimeout).pushAt packet now

end PacketAssembler

end Rtunnel.Tuic
