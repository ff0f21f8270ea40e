import Rtunnel.Data.Framing
import Rtunnel.Session

namespace Rtunnel.Anytls

open Rtunnel.Data

/-! The AnyTLS codec: frames, targets and settings.

A frame is one command byte, a big-endian stream id and length, and the data.
Failures are the texts that the program reports.
-/

abbrev Failure := String

def u16Max : Nat := 65535

def frameHeaderLen : Nat := 7

/-- The commands of the protocol; any other byte is kept as it is. -/
inductive FrameCommand where
  | waste
  | syn
  | psh
  | fin
  | settings
  | alert
  | updatePaddingScheme
  | synack
  | heartRequest
  | heartResponse
  | serverSettings
  | unknown (value : UInt8) (other : 11 ≤ value.toNat)
deriving DecidableEq

def FrameCommand.code : FrameCommand → UInt8
  | .waste => 0
  | .syn => 1
  | .psh => 2
  | .fin => 3
  | .settings => 4
  | .alert => 5
  | .updatePaddingScheme => 6
  | .synack => 7
  | .heartRequest => 8
  | .heartResponse => 9
  | .serverSettings => 10
  | .unknown value _ => value

def FrameCommand.ofCode (code : UInt8) : FrameCommand :=
  match same : code.toNat with
  | 0 => .waste
  | 1 => .syn
  | 2 => .psh
  | 3 => .fin
  | 4 => .settings
  | 5 => .alert
  | 6 => .updatePaddingScheme
  | 7 => .synack
  | 8 => .heartRequest
  | 9 => .heartResponse
  | 10 => .serverSettings
  | extra + 11 => .unknown code (by omega)

theorem FrameCommand.ofCode_code (command : FrameCommand) : ofCode command.code = command := by
  cases command with
  | unknown value other =>
      unfold ofCode
      split <;> first | rfl | (simp only [code] at *; omega)
  | _ => rfl

/-- The length field has two bytes, so a longer frame cannot be built. -/
structure Frame where
  command : FrameCommand
  streamId : UInt32
  data : List UInt8
  fits : data.length ≤ u16Max
deriving DecidableEq

def Frame.toBytes (frame : Frame) : List UInt8 :=
  frame.command.code ::
    (toBe 4 frame.streamId.toNat ++ (toBe 2 frame.data.length ++ frame.data))

def encodeFrame (command : FrameCommand) (streamId : UInt32) (data : List UInt8) :
    Except Failure (List UInt8) :=
  if fits : data.length ≤ u16Max then .ok (Frame.mk command streamId data fits).toBytes
  else .error "anytls frame is too large"

/-- The next frame, or nothing while its bytes are incomplete. -/
def readFrame (input : List UInt8) : Option (Frame × List UInt8) :=
  match readExact frameHeaderLen input with
  | none => none
  | some (header, rest) =>
      let length := ofBe (header.bytes.drop 5)
      match readExact length rest with
      | none => none
      | some (body, rest) =>
          some ({
            command := .ofCode (header.bytes.headD 0)
            streamId := UInt32.ofNat (ofBe ((header.bytes.drop 1).take 4))
            data := body.bytes
            fits := by
              have width : (header.bytes.drop 5).length = 2 := by
                rw [List.length_drop, header.length_eq]
                rfl
              have small := ofBe_lt (header.bytes.drop 5)
              rw [width] at small
              rw [body.length_eq]
              exact Nat.le_of_lt_succ small }, rest)

theorem encodeFrame_frame (frame : Frame) :
    encodeFrame frame.command frame.streamId frame.data = .ok frame.toBytes := by
  unfold encodeFrame
  rw [dif_pos frame.fits]

def Frame.header (frame : Frame) : Octets frameHeaderLen where
  bytes := frame.command.code :: (toBe 4 frame.streamId.toNat ++ toBe 2 frame.data.length)
  length_eq := by simp [frameHeaderLen]

theorem Frame.toBytes_append (frame : Frame) (rest : List UInt8) :
    frame.toBytes ++ rest = frame.header.bytes ++ (frame.data ++ rest) := by
  simp only [Frame.toBytes, Frame.header, List.cons_append, List.append_assoc]

theorem readFrame_toBytes (frame : Frame) (rest : List UInt8) :
    readFrame (frame.toBytes ++ rest) = some (frame, rest) := by
  have length : ofBe (frame.header.bytes.drop 5) = frame.data.length := by
    have field : frame.header.bytes.drop 5 = toBe 2 frame.data.length := by
      simp [Frame.header]
    have small := frame.fits
    simp only [u16Max] at small
    rw [field, ofBe_toBe, Nat.mod_eq_of_lt (by omega)]
  have streamId : UInt32.ofNat (ofBe ((frame.header.bytes.drop 1).take 4)) = frame.streamId := by
    have field : (frame.header.bytes.drop 1).take 4 = toBe 4 frame.streamId.toNat := by
      simp [Frame.header]
    rw [field, ofBe_toBe, Nat.mod_eq_of_lt (show _ < 256 ^ 4 from frame.streamId.toNat_lt),
      UInt32.ofNat_toNat]
  have body : readExact (ofBe (frame.header.bytes.drop 5)) (frame.data ++ rest) =
      some (⟨frame.data, length.symm⟩, rest) :=
    readExact_append ⟨frame.data, length.symm⟩ rest
  unfold readFrame
  rw [Frame.toBytes_append, readExact_append]
  dsimp only
  rw [body]
  simp only [streamId, Option.some.injEq, Prod.mk.injEq, and_true]
  cases frame
  simp only [Frame.header, List.headD_cons, FrameCommand.ofCode_code]

def frames : Framing Frame where
  encode := Frame.toBytes
  read := readFrame
  read_nil := rfl
  read_encode := readFrame_toBytes

/-- Every frame but padding. -/
def isPayload (frame : Frame) : Bool := decide (frame.command ≠ .waste)

def unexpectedEof : Failure := "failed to fill whole buffer"

/-- What `read_exact` of an asynchronous stream reports at its end. -/
def earlyEof : Failure := "early eof"

/-- What `read_u8` and `read_u16` of an asynchronous stream report at its end. -/
def endOfFile : Failure := "unexpected end of file"

/-- The error of `String::from_utf8`. -/
def utf8Failure (bytes : List UInt8) : Failure :=
  match utf8Fault 0 bytes with
  | (index, some count) => s!"invalid utf-8 sequence of {count} bytes from index {index}"
  | (index, none) => s!"incomplete utf-8 byte sequence from index {index}"

def readOctets (width : Nat) (input : List UInt8) : Except Failure (Octets width × List UInt8) :=
  match readExact width input with
  | some found => .ok found
  | none => .error unexpectedEof

def readU8 : List UInt8 → Except Failure (UInt8 × List UInt8)
  | [] => .error unexpectedEof
  | byte :: rest => .ok (byte, rest)

def readU16 (input : List UInt8) : Except Failure (UInt16 × List UInt8) :=
  match readOctets 2 input with
  | .ok (field, rest) => .ok (UInt16.ofNat field.toNat, rest)
  | .error reason => .error reason

def encodeSocksaddr : TargetAddr → Except Failure (List UInt8)
  | .ip (.v4 ip port) => .ok (0x01 :: (ip.bytes ++ toBe 2 port.toNat))
  | .ip (.v6 ip port _ _) => .ok (0x04 :: (ip.bytes ++ toBe 2 port.toNat))
  | .domain host port =>
      if host.utf8ByteSize ≤ 255 then
        .ok (0x03 :: UInt8.ofNat host.utf8ByteSize :: (utf8Bytes host ++ toBe 2 port.toNat))
      else .error "domain is too long"

def readSocksaddr (input : List UInt8) : Except Failure (TargetAddr × List UInt8) := do
  let (atyp, rest) ← readU8 input
  if atyp = 0x01 then
    let (ip, rest) ← readOctets 4 rest
    let (port, rest) ← readU16 rest
    return (.ip (.v4 ip port), rest)
  else if atyp = 0x03 then
    let (length, rest) ← readU8 rest
    let (host, rest) ← readOctets length.toNat rest
    let (port, rest) ← readU16 rest
    match ofUtf8 host.bytes with
    | some host => return (.domain host port, rest)
    | none => .error (utf8Failure host.bytes)
  else if atyp = 0x04 then
    let (ip, rest) ← readOctets 16 rest
    let (port, rest) ← readU16 rest
    return (.ip (.v6 ip port 0 0), rest)
  else .error s!"unknown anytls address family {atyp}"

/-- The target at the front of a stream and the length of its encoding. -/
def decodeSocksaddr (data : List UInt8) : Except Failure (TargetAddr × Nat) :=
  match readSocksaddr data with
  | .ok (target, rest) => .ok (target, data.length - rest.length)
  | .error reason => .error reason

theorem encodeSocksaddr_length {target : TargetAddr} {encoded : List UInt8}
    (ok : encodeSocksaddr target = .ok encoded) : encoded.length ≤ 259 := by
  cases target with
  | ip addr =>
      cases addr with
      | v4 ip port =>
          cases ok
          simp [ip.length_eq]
      | v6 ip port flowinfo scopeId =>
          cases ok
          simp [ip.length_eq]
  | domain host port =>
      simp only [encodeSocksaddr] at ok
      split at ok
      · cases ok
        simp only [List.length_cons, List.length_append, utf8Bytes_length, toBe_length]
        omega
      · cases ok

def uotV2MagicHost : String := "sp.v2.udp-over-tcp.arpa"

def asciiLower (byte : UInt8) : UInt8 := if 65 ≤ byte ∧ byte ≤ 90 then byte + 32 else byte

/-- The target that asks for UDP over the stream; its host is compared without
regard to ASCII case. -/
def isUotV2MagicTarget : TargetAddr → Bool
  | .domain host port =>
      decide ((utf8Bytes host).map asciiLower = (utf8Bytes uotV2MagicHost).map asciiLower) &&
        decide (port = 0)
  | .ip _ => false

def newline : UInt8 := 10

def carriageReturn : UInt8 := 13

def equalsSign : UInt8 := 61

/-- Settings are lines of text.  Every separator is an ASCII byte, so the text is
split as bytes, once it is known to be UTF-8.  A line break ends a line together
with a carriage return before it; the last line keeps one of its own. -/
def splitLines : List UInt8 → List UInt8 → List (List UInt8)
  | line, [] => if line = [] then [] else [line]
  | line, byte :: rest =>
      if byte = newline then
        let ended := if line.getLast? = some carriageReturn then line.dropLast else line
        ended :: splitLines [] rest
      else splitLines (line ++ [byte]) rest

def lines (text : List UInt8) : List (List UInt8) := splitLines [] text

def splitOnce (separator : UInt8) : List UInt8 → Option (List UInt8 × List UInt8)
  | [] => none
  | byte :: rest =>
      if byte = separator then some ([], rest)
      else (splitOnce separator rest).map fun (name, value) => (byte :: name, value)

def settingsValue (data : List UInt8) (key : String) : Option (List UInt8) :=
  if (ofUtf8 data).isSome then
    (lines data).findSome? fun line =>
      match splitOnce equalsSign line with
      | some (name, value) => if name = utf8Bytes key then some value else none
      | none => none
  else none

def parseDigits : List UInt8 → Nat → Option Nat
  | [], value => some value
  | digit :: rest, value =>
      if 48 ≤ digit ∧ digit ≤ 57 then
        let next := value * 10 + (digit.toNat - 48)
        if 255 < next then none else parseDigits rest next
      else none

/-- A decimal number of one byte; a plus sign may stand before the digits. -/
def parseU8 (text : List UInt8) : Option Nat :=
  match text with
  | 43 :: digits => if digits = [] then none else parseDigits digits 0
  | digits => if digits = [] then none else parseDigits digits 0

def settingsVersion (data : List UInt8) : Option Nat :=
  (settingsValue data "v").bind parseU8

/-- What the server answers to a client of version 2. -/
def serverSettings : List UInt8 := utf8Bytes "v=2"

def clientSettingsWithPaddingMd5 (paddingMd5 : String) : List UInt8 :=
  utf8Bytes s!"v=2\nclient=rtunnel\npadding-md5={paddingMd5}"

end Rtunnel.Anytls
