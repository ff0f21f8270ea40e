import Rtunnel.Session

namespace Rtunnel.Tuic

open Rtunnel.Data

/-! The boundary to the `tuic-core` crate.

Headers and addresses are the crate's model types.  Its wire format is a
parameter of everything below: `TuicCore` carries the type codes and the two
conversions, and `TuicCore.Lawful` states what the codec relies on.
-/

structure Uuid where
  bytes : Octets 16
deriving DecidableEq

def hexDigit (value : Nat) : Char := "0123456789abcdef".toList.getD value '0'

/-- The hyphenated form in which a uuid appears in messages. -/
def Uuid.hyphenated (uuid : Uuid) : String :=
  let digits := uuid.bytes.bytes.flatMap fun byte =>
    [hexDigit (byte.toNat / 16), hexDigit (byte.toNat % 16)]
  String.ofList (digits.take 8 ++ '-' :: (digits.drop 8).take 4 ++ '-' :: (digits.drop 12).take 4 ++
    '-' :: (digits.drop 16).take 4 ++ '-' :: digits.drop 20)

def tokenLen : Nat := 32

abbrev Token := Octets tokenLen

inductive Address where
  | none
  | domainAddress (host : String) (port : UInt16)
  | socketAddress (addr : SocketAddr)
deriving DecidableEq

inductive Header where
  | authenticate (uuid : Uuid) (token : Token)
  | connect (addr : Address)
  | packet (assocId pktId : UInt16) (fragTotal fragId : UInt8) (size : UInt16) (addr : Address)
  | dissociate (assocId : UInt16)
  | heartbeat
deriving DecidableEq

/-- The crate separates input that ends too early from input that is wrong. -/
inductive UnmarshalError where
  | unexpectedEof
  | invalid (text : String)
deriving DecidableEq

/-- An error as the inbound reports it; a header error keeps its kind. -/
inductive Error where
  | message (text : String)
  | unmarshal (reason : UnmarshalError)
deriving DecidableEq

structure TuicCore where
  version : UInt8
  typeCodeAuthenticate : UInt8
  typeCodeConnect : UInt8
  typeCodePacket : UInt8
  typeCodeDissociate : UInt8
  typeCodeHeartbeat : UInt8
  marshal : Header → Except String (List UInt8)
  unmarshal : List UInt8 → Except UnmarshalError (Header × Nat)

def TuicCore.typeCode (core : TuicCore) : Header → UInt8
  | .authenticate _ _ => core.typeCodeAuthenticate
  | .connect _ => core.typeCodeConnect
  | .packet _ _ _ _ _ _ => core.typeCodePacket
  | .dissociate _ => core.typeCodeDissociate
  | .heartbeat => core.typeCodeHeartbeat

/-- Addresses the wire format can carry without loss. -/
def Address.Encodable : Address → Prop
  | .none => True
  | .domainAddress host _ => host.utf8ByteSize ≤ 255
  | .socketAddress (.v4 _ _) => True
  | .socketAddress (.v6 _ _ flowinfo scopeId) => flowinfo = 0 ∧ scopeId = 0

def Header.Encodable : Header → Prop
  | .connect addr => addr.Encodable
  | .packet _ _ _ _ _ addr => addr.Encodable
  | _ => True

/-- What the codec relies on: writing a header into memory succeeds, reading it
back yields the same header and stops exactly behind it, and the fixed-width
fields of a packet header leave its length to the address, the empty address
being the shortest. -/
structure TuicCore.Lawful (core : TuicCore) : Prop where
  marshal_ok : ∀ header : Header, header.Encodable → ∃ bytes, core.marshal header = .ok bytes
  unmarshal_marshal : ∀ (header : Header) (bytes rest : List UInt8), header.Encodable →
    core.marshal header = .ok bytes →
    core.unmarshal (bytes ++ rest) = .ok (header, bytes.length)
  packet_length : ∀ {assocId pktId fragTotal fragId size addr assocId' pktId' fragTotal' fragId'
      size' addr'} {bytes bytes' : List UInt8}, addr' = addr ∨ addr' = .none →
    core.marshal (.packet assocId pktId fragTotal fragId size addr) = .ok bytes →
    core.marshal (.packet assocId' pktId' fragTotal' fragId' size' addr') = .ok bytes' →
    bytes'.length ≤ bytes.length

/-- A host name's length is one byte on the wire. -/
def Address.Named : Address → Prop
  | .domainAddress host _ => host.utf8ByteSize ≤ 255
  | _ => True

/-- Packet headers are written into memory, which does not fail. -/
def TuicCore.WritesPackets (core : TuicCore) : Prop :=
  ∀ (assocId pktId : UInt16) (fragTotal fragId : UInt8) (size : UInt16) (addr : Address),
    addr.Named →
      ∃ bytes, core.marshal (.packet assocId pktId fragTotal fragId size addr) = .ok bytes

/-- The type codes that the inbound tells apart differ, and a written header
carries its own code in its second byte. -/
structure TuicCore.Coded (core : TuicCore) : Prop where
  packet_ne_authenticate : core.typeCodePacket ≠ core.typeCodeAuthenticate
  packet_ne_heartbeat : core.typeCodePacket ≠ core.typeCodeHeartbeat
  dissociate_ne_authenticate : core.typeCodeDissociate ≠ core.typeCodeAuthenticate
  dissociate_ne_packet : core.typeCodeDissociate ≠ core.typeCodePacket
  marshal_code : ∀ (header : Header) (bytes : List UInt8),
    core.marshal header = .ok bytes → bytes[1]? = some (core.typeCode header)

/-- `unmarshal` reads a prefix: what the first bytes decide, good or bad, further
bytes do not change, and it is for want of bytes that it stops on no bytes. -/
structure TuicCore.Decisive (core : TuicCore) : Prop where
  unmarshal_nil : core.unmarshal [] = .error .unexpectedEof
  unmarshal_append : ∀ (data rest : List UInt8) (header : Header) (consumed : Nat),
    core.unmarshal data = .ok (header, consumed) →
    consumed ≤ data.length ∧ core.unmarshal (data ++ rest) = .ok (header, consumed)
  invalid_append : ∀ (data rest : List UInt8) (text : String),
    core.unmarshal data = .error (.invalid text) →
    ∃ text', core.unmarshal (data ++ rest) = .error (.invalid text')

end Rtunnel.Tuic
