import Rtunnel.Tuic.Core

namespace Rtunnel.Tuic

open Rtunnel.Data

/-! The TUIC v5 wire format, as one concrete `TuicCore`.

The codec is stated for every lawful header format.  This instance shows that
the laws are those of the protocol itself: version 5, one type byte, big-endian
fields, and an address led by its kind.
-/

namespace Wire

def marshalAddress : Address → List UInt8
  | .none => [0xff]
  | .domainAddress host port =>
      0x00 :: UInt8.ofNat host.utf8ByteSize :: (utf8Bytes host ++ toBe 2 port.toNat)
  | .socketAddress (.v4 ip port) => 0x01 :: (ip.bytes ++ toBe 2 port.toNat)
  | .socketAddress (.v6 ip port _ _) => 0x02 :: (ip.bytes ++ toBe 2 port.toNat)

def marshal : Header → List UInt8
  | .authenticate uuid token => 5 :: 0 :: (uuid.bytes.bytes ++ token.bytes)
  | .connect addr => 5 :: 1 :: marshalAddress addr
  | .packet assocId pktId fragTotal fragId size addr =>
      5 :: 2 :: (toBe 2 assocId.toNat ++ (toBe 2 pktId.toNat ++ (fragTotal :: fragId ::
        (toBe 2 size.toNat ++ marshalAddress addr))))
  | .dissociate assocId => 5 :: 3 :: toBe 2 assocId.toNat
  | .heartbeat => [5, 4]

/-- A reader consumes a prefix and hands on the rest. -/
abbrev Reader (α : Type) := List UInt8 → Except UnmarshalError (α × List UInt8)

def octets (width : Nat) : Reader (Octets width) := fun input =>
  match readExact width input with
  | some found => .ok found
  | none => .error .unexpectedEof

def u8 : Reader UInt8
  | [] => .error .unexpectedEof
  | byte :: rest => .ok (byte, rest)

def u16 : Reader UInt16 := fun input =>
  match octets 2 input with
  | .ok (field, rest) => .ok (UInt16.ofNat field.toNat, rest)
  | .error reason => .error reason

def text (width : Nat) : Reader String := fun input =>
  match octets width input with
  | .error reason => .error reason
  | .ok (field, rest) =>
      match ofUtf8 field.bytes with
      | some found => .ok (found, rest)
      | none => .error (.invalid "invalid utf-8")

def unmarshalAddress : Reader Address := fun input => do
  let (kind, rest) ← u8 input
  if kind = 0xff then
    return (.none, rest)
  else if kind = 0x00 then
    let (length, rest) ← u8 rest
    let (host, rest) ← text length.toNat rest
    let (port, rest) ← u16 rest
    return (.domainAddress host port, rest)
  else if kind = 0x01 then
    let (ip, rest) ← octets 4 rest
    let (port, rest) ← u16 rest
    return (.socketAddress (.v4 ip port), rest)
  else if kind = 0x02 then
    let (ip, rest) ← octets 16 rest
    let (port, rest) ← u16 rest
    return (.socketAddress (.v6 ip port 0 0), rest)
  else
    .error (.invalid "invalid address type")

def unmarshalHeader : Reader Header := fun input => do
  let (version, rest) ← u8 input
  if version ≠ 5 then
    .error (.invalid "invalid version")
  else
    let (code, rest) ← u8 rest
    if code = 0 then
      let (uuid, rest) ← octets 16 rest
      let (token, rest) ← octets tokenLen rest
      return (.authenticate ⟨uuid⟩ token, rest)
    else if code = 1 then
      let (addr, rest) ← unmarshalAddress rest
      return (.connect addr, rest)
    else if code = 2 then
      let (assocId, rest) ← u16 rest
      let (pktId, rest) ← u16 rest
      let (fragTotal, rest) ← u8 rest
      let (fragId, rest) ← u8 rest
      let (size, rest) ← u16 rest
      let (addr, rest) ← unmarshalAddress rest
      return (.packet assocId pktId fragTotal fragId size addr, rest)
    else if code = 3 then
      let (assocId, rest) ← u16 rest
      return (.dissociate assocId, rest)
    else if code = 4 then
      return (.heartbeat, rest)
    else
      .error (.invalid "invalid command")

end Wire

def tuicV5 : TuicCore where
  version := 5
  typeCodeAuthenticate := 0
  typeCodeConnect := 1
  typeCodePacket := 2
  typeCodeDissociate := 3
  typeCodeHeartbeat := 4
  marshal header := .ok (Wire.marshal header)
  unmarshal input :=
    match Wire.unmarshalHeader input with
    | .ok (header, rest) => .ok (header, input.length - rest.length)
    | .error reason => .error reason

namespace Wire

@[simp] theorem octets_append {width : Nat} (field : Octets width) (rest : List UInt8) :
    octets width (field.bytes ++ rest) = .ok (field, rest) := by
  simp only [octets, readExact_append]

@[simp] theorem u8_cons (byte : UInt8) (rest : List UInt8) : u8 (byte :: rest) = .ok (byte, rest) :=
  rfl

@[simp] theorem u16_append (value : UInt16) (rest : List UInt8) :
    u16 (toBe 2 value.toNat ++ rest) = .ok (value, rest) := by
  have read := octets_append (Octets.ofNat 2 value.toNat) rest
  have small : value.toNat % 256 ^ 2 = value.toNat := Nat.mod_eq_of_lt value.toNat_lt
  simp only [Octets.ofNat] at read
  simp only [u16, read]
  rw [show Octets.toNat ⟨toBe 2 value.toNat, _⟩ = value.toNat from
    (Octets.toNat_ofNat 2 value.toNat).trans small, UInt16.ofNat_toNat]

@[simp] theorem text_append (host : String) (rest : List UInt8) :
    text host.utf8ByteSize (utf8Bytes host ++ rest) = .ok (host, rest) := by
  have read := octets_append
    (⟨utf8Bytes host, utf8Bytes_length host⟩ : Octets host.utf8ByteSize) rest
  simp only at read
  simp only [text, read, ofUtf8_utf8Bytes]

theorem unmarshalAddress_marshalAddress (addr : Address) (encodable : addr.Encodable)
    (rest : List UInt8) : unmarshalAddress (marshalAddress addr ++ rest) = .ok (addr, rest) := by
  cases addr with
  | none => rfl
  | domainAddress host port =>
      have short : host.utf8ByteSize ≤ 255 := encodable
      have width : (UInt8.ofNat host.utf8ByteSize).toNat = host.utf8ByteSize := by
        rw [UInt8.toNat_ofNat', Nat.mod_eq_of_lt (by omega)]
      simp [unmarshalAddress, marshalAddress, width, bind, Except.bind, pure, Except.pure]
  | socketAddress addr =>
      cases addr with
      | v4 ip port => simp [unmarshalAddress, marshalAddress, bind, Except.bind, pure, Except.pure]
      | v6 ip port flowinfo scopeId =>
          obtain ⟨rfl, rfl⟩ := encodable
          simp [unmarshalAddress, marshalAddress, bind, Except.bind, pure, Except.pure]

theorem unmarshalHeader_marshal {header : Header} (encodable : header.Encodable)
    (rest : List UInt8) : unmarshalHeader (marshal header ++ rest) = .ok (header, rest) := by
  cases header with
  | authenticate uuid token =>
      simp [unmarshalHeader, marshal, bind, Except.bind, pure, Except.pure]
  | connect addr =>
      simp [unmarshalHeader, marshal, unmarshalAddress_marshalAddress addr encodable,
        bind, Except.bind, pure, Except.pure]
  | packet assocId pktId fragTotal fragId size addr =>
      simp [unmarshalHeader, marshal, unmarshalAddress_marshalAddress addr encodable,
        bind, Except.bind, pure, Except.pure]
  | dissociate assocId => simp [unmarshalHeader, marshal, bind, Except.bind, pure, Except.pure]
  | heartbeat => rfl

/-- A reader whose answer, once given, stands however the input goes on. -/
structure Steady {α : Type} (read : Reader α) : Prop where
  found : ∀ {input value rest}, read input = .ok (value, rest) →
    rest.length ≤ input.length ∧ ∀ more, read (input ++ more) = .ok (value, rest ++ more)
  refused : ∀ {input text}, read input = .error (.invalid text) →
    ∀ more, read (input ++ more) = .error (.invalid text)

namespace Steady

variable {α β : Type}

theorem pure (value : α) : Steady fun input => Pure.pure (value, input) where
  found read := by
    cases read
    exact ⟨le_refl _, fun _ => rfl⟩
  refused read := by cases read

theorem invalid (text : String) : Steady fun _ => (.error (.invalid text) : Except _ (α × _)) where
  found read := by cases read
  refused read _ := read

theorem bind {read : Reader α} (steady : Steady read)
    {next : α × List UInt8 → Except UnmarshalError (β × List UInt8)}
    (continues : ∀ value, Steady fun rest => next (value, rest)) :
    Steady fun input => read input >>= next where
  found := by
    intro input value rest answered
    cases first : read input with
    | error reason =>
        rw [first] at answered
        cases answered
    | ok found =>
        rw [first] at answered
        have earlier := steady.found first
        have later := (continues found.1).found answered
        refine ⟨later.1.trans earlier.1, fun more => ?_⟩
        rw [earlier.2 more]
        exact later.2 more
  refused := by
    intro input text answered more
    cases first : read input with
    | error reason =>
        rw [first] at answered
        cases answered
        rw [steady.refused first more]
        rfl
    | ok found =>
        rw [first] at answered
        rw [(steady.found first).2 more]
        exact (continues found.1).refused answered more

theorem ite {condition : Prop} [Decidable condition] {read other : Reader α}
    (steady : Steady read) (steadyOther : Steady other) :
    Steady fun input => if condition then read input else other input := by
  by_cases holds : condition
  · simpa only [if_pos holds] using steady
  · simpa only [if_neg holds] using steadyOther

end Steady

theorem steady_octets (width : Nat) : Steady (octets width) where
  found := by
    intro input value rest answered
    cases read : readExact width input with
    | none => simp [octets, read] at answered
    | some found =>
        simp only [octets, read, Except.ok.injEq] at answered
        subst answered
        have spec := readExact_eq_some read
        refine ⟨by rw [spec]; simp, fun more => ?_⟩
        simp only [octets, readExact_append_of_some read]
  refused := by
    intro input text answered
    unfold octets at answered
    split at answered <;> simp at answered

theorem steady_u8 : Steady u8 where
  found := by
    intro input value rest answered
    cases input with
    | nil => cases answered
    | cons byte tail =>
        cases answered
        exact ⟨Nat.le_succ _, fun _ => rfl⟩
  refused := by
    intro input text answered
    cases input with
    | nil => cases answered
    | cons byte tail => cases answered

theorem steady_u16 : Steady u16 := by
  have steady : Steady fun input => octets 2 input >>= fun found =>
      pure (UInt16.ofNat found.1.toNat, found.2) :=
    (steady_octets 2).bind fun field => .pure (UInt16.ofNat field.toNat)
  refine cast (congrArg Steady (funext fun input => ?_)) steady
  unfold u16
  cases octets 2 input <;> rfl

theorem steady_text (width : Nat) : Steady (text width) := by
  have steady : Steady fun input => octets width input >>= fun found =>
      match ofUtf8 found.1.bytes with
      | some host => pure (host, found.2)
      | none => .error (.invalid "invalid utf-8") := by
    refine (steady_octets width).bind fun field => ?_
    dsimp only
    cases ofUtf8 field.bytes with
    | none => exact .invalid _
    | some host => exact .pure host
  refine cast (congrArg Steady (funext fun input => ?_)) steady
  unfold text
  cases octets width input <;> rfl

theorem steady_unmarshalAddress : Steady unmarshalAddress := by
  unfold unmarshalAddress
  refine steady_u8.bind fun kind => ?_
  refine .ite (.pure _) (.ite ?_ (.ite ?_ (.ite ?_ (.invalid _))))
  · exact steady_u8.bind fun length => (steady_text length.toNat).bind fun _ =>
      steady_u16.bind fun _ => .pure _
  · exact (steady_octets 4).bind fun _ => steady_u16.bind fun _ => .pure _
  · exact (steady_octets 16).bind fun _ => steady_u16.bind fun _ => .pure _

theorem steady_unmarshalHeader : Steady unmarshalHeader := by
  unfold unmarshalHeader
  refine steady_u8.bind fun version => .ite (.invalid _) (steady_u8.bind fun code => ?_)
  refine .ite ?_ (.ite ?_ (.ite ?_ (.ite ?_ (.ite (.pure _) (.invalid _)))))
  · exact (steady_octets 16).bind fun _ => (steady_octets tokenLen).bind fun _ => .pure _
  · exact steady_unmarshalAddress.bind fun _ => .pure _
  · exact steady_u16.bind fun _ => steady_u16.bind fun _ => steady_u8.bind fun _ =>
      steady_u8.bind fun _ => steady_u16.bind fun _ =>
        steady_unmarshalAddress.bind fun _ => .pure _
  · exact steady_u16.bind fun _ => .pure _

end Wire

theorem tuicV5_lawful : tuicV5.Lawful where
  marshal_ok header _ := ⟨Wire.marshal header, rfl⟩
  unmarshal_marshal header bytes rest encodable written := by
    cases written
    simp [tuicV5, Wire.unmarshalHeader_marshal encodable]
  packet_length := by
    intro _ _ _ _ _ addr _ _ _ _ _ addr' _ _ shorter written written'
    cases written
    cases written'
    have addresses : (Wire.marshalAddress addr').length ≤ (Wire.marshalAddress addr).length := by
      rcases shorter with rfl | rfl
      · exact le_refl _
      · cases addr with
        | none => exact le_refl _
        | domainAddress host port => simp [Wire.marshalAddress]
        | socketAddress addr => cases addr <;> simp [Wire.marshalAddress]
    simp only [Wire.marshal, List.length_cons, List.length_append, toBe_length]
    omega

theorem tuicV5_writesPackets : tuicV5.WritesPackets :=
  fun assocId pktId fragTotal fragId size addr _ =>
    ⟨Wire.marshal (.packet assocId pktId fragTotal fragId size addr), rfl⟩

theorem tuicV5_coded : tuicV5.Coded where
  packet_ne_authenticate := by decide
  packet_ne_heartbeat := by decide
  dissociate_ne_authenticate := by decide
  dissociate_ne_packet := by decide
  marshal_code header bytes written := by
    cases written
    cases header <;> rfl

theorem tuicV5_decisive : tuicV5.Decisive where
  unmarshal_nil := rfl
  unmarshal_append := by
    intro data rest header consumed read
    cases answered : Wire.unmarshalHeader data with
    | error reason => simp [tuicV5, answered] at read
    | ok found =>
        simp only [tuicV5, answered, Except.ok.injEq, Prod.mk.injEq] at read
        obtain ⟨rfl, rfl⟩ := read
        obtain ⟨shorter, longer⟩ := Wire.steady_unmarshalHeader.found answered
        refine ⟨Nat.sub_le _ _, ?_⟩
        simp only [tuicV5, longer rest, List.length_append, Nat.add_sub_add_right]
  invalid_append := by
    intro data rest text read
    cases answered : Wire.unmarshalHeader data with
    | error reason =>
        simp only [tuicV5, answered, Except.error.injEq] at read
        subst read
        exact ⟨text, by simp only [tuicV5, Wire.steady_unmarshalHeader.refused answered rest]⟩
    | ok found => simp [tuicV5, answered] at read

end Rtunnel.Tuic
