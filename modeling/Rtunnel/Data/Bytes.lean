import Mathlib.Algebra.Order.Group.Nat

namespace Rtunnel.Data

/-! Byte strings on a wire.

Numbers travel big-endian, text travels as UTF-8, and every decoder consumes a
prefix of its input and hands on the rest.  A fixed-width field is an `Octets`
value, so a field of the wrong width cannot be built.
-/

/-- A byte string of a fixed width. -/
structure Octets (width : Nat) where
  bytes : List UInt8
  length_eq : bytes.length = width
deriving DecidableEq

/-- The big-endian digits of a number, most significant first. -/
def toBe : Nat → Nat → List UInt8
  | 0, _ => []
  | width + 1, value => UInt8.ofNat (value / 256 ^ width) :: toBe width value

/-- The number that big-endian digits stand for. -/
def ofBe : List UInt8 → Nat
  | [] => 0
  | byte :: rest => byte.toNat * 256 ^ rest.length + ofBe rest

@[simp] theorem toBe_length (width value : Nat) : (toBe width value).length = width := by
  induction width with
  | zero => rfl
  | succ width ih => simp only [toBe, List.length_cons, ih]

theorem ofBe_toBe (width value : Nat) : ofBe (toBe width value) = value % 256 ^ width := by
  induction width with
  | zero => simp [toBe, ofBe, Nat.mod_one]
  | succ width ih =>
      rw [toBe, ofBe, ih, toBe_length, Nat.mod_pow_succ, UInt8.toNat_ofNat', Nat.mul_comm,
        Nat.add_comm]

theorem ofBe_lt (bytes : List UInt8) : ofBe bytes < 256 ^ bytes.length := by
  induction bytes with
  | nil => simp [ofBe]
  | cons byte rest ih =>
      have digit := byte.toNat_lt
      have scaled : (byte.toNat + 1) * 256 ^ rest.length ≤ 256 * 256 ^ rest.length :=
        Nat.mul_le_mul_right _ (by omega)
      simp only [ofBe, List.length_cons, pow_succ]
      rw [Nat.add_mul] at scaled
      omega

theorem toBe_mod (width value : Nat) : toBe width (value % 256 ^ width) = toBe width value := by
  have widen : ∀ narrow, narrow ≤ width →
      toBe narrow (value % 256 ^ width) = toBe narrow value := by
    intro narrow
    induction narrow with
    | zero => intro _; rfl
    | succ narrow ih =>
        intro within
        rw [toBe, toBe, ih (by omega)]
        congr 1
        apply UInt8.toNat_inj.mp
        obtain ⟨extra, rfl⟩ : ∃ extra, width = narrow + (extra + 1) :=
          ⟨width - narrow - 1, by omega⟩
        rw [UInt8.toNat_ofNat', UInt8.toNat_ofNat', pow_add, Nat.mod_mul_right_div_self, pow_succ]
        exact Nat.mod_mul_left_mod _ _ _
  exact widen width (le_refl width)

theorem toBe_ofBe (bytes : List UInt8) : toBe bytes.length (ofBe bytes) = bytes := by
  induction bytes with
  | nil => rfl
  | cons byte rest ih =>
      have small := ofBe_lt rest
      have quotient : (byte.toNat * 256 ^ rest.length + ofBe rest) / 256 ^ rest.length =
          byte.toNat := by
        rw [Nat.mul_comm, Nat.mul_add_div (Nat.pow_pos (by decide)), Nat.div_eq_of_lt small,
          Nat.add_zero]
      have remainder : (byte.toNat * 256 ^ rest.length + ofBe rest) % 256 ^ rest.length =
          ofBe rest := by
        rw [Nat.mul_comm, Nat.mul_add_mod, Nat.mod_eq_of_lt small]
      rw [List.length_cons, toBe, ofBe, quotient, ← toBe_mod, remainder, ih, UInt8.ofNat_toNat]

/-- Split a field of known width off the front of the input. -/
def readExact (width : Nat) (input : List UInt8) : Option (Octets width × List UInt8) :=
  if enough : width ≤ input.length then
    some (⟨input.take width, by simp [enough]⟩, input.drop width)
  else
    none

@[simp] theorem readExact_append {width : Nat} (field : Octets width) (rest : List UInt8) :
    readExact width (field.bytes ++ rest) = some (field, rest) := by
  obtain ⟨bytes, rfl⟩ := field
  simp [readExact]

theorem readExact_eq_some {width : Nat} {input rest : List UInt8} {field : Octets width}
    (found : readExact width input = some (field, rest)) : input = field.bytes ++ rest := by
  unfold readExact at found
  split at found
  · cases found
    exact (List.take_append_drop width input).symm
  · cases found

theorem readExact_append_of_some {width : Nat} {input rest : List UInt8} {field : Octets width}
    (found : readExact width input = some (field, rest)) (more : List UInt8) :
    readExact width (input ++ more) = some (field, rest ++ more) := by
  rw [readExact_eq_some found, List.append_assoc, readExact_append]

theorem readExact_eq_none_iff {width : Nat} {input : List UInt8} :
    readExact width input = none ↔ input.length < width := by
  unfold readExact
  split <;> simp <;> omega

def Octets.ofNat (width value : Nat) : Octets width := ⟨toBe width value, toBe_length width value⟩

def Octets.toNat {width : Nat} (field : Octets width) : Nat := ofBe field.bytes

@[simp] theorem Octets.toNat_ofNat (width value : Nat) :
    (Octets.ofNat width value).toNat = value % 256 ^ width := ofBe_toBe width value

@[simp] theorem Octets.ofNat_toNat {width : Nat} (field : Octets width) :
    Octets.ofNat width field.toNat = field := by
  obtain ⟨bytes, rfl⟩ := field
  simp only [Octets.ofNat, Octets.toNat, toBe_ofBe]

/-- The first part of a field. -/
def Octets.front {first second : Nat} (field : Octets (first + second)) : Octets first where
  bytes := field.bytes.take first
  length_eq := by simp [field.length_eq]

/-- The second part of a field. -/
def Octets.back {first second : Nat} (field : Octets (first + second)) : Octets second where
  bytes := field.bytes.drop first
  length_eq := by simp [field.length_eq]

def Octets.append {first second : Nat} (front : Octets first) (back : Octets second) :
    Octets (first + second) where
  bytes := front.bytes ++ back.bytes
  length_eq := by simp [front.length_eq, back.length_eq]

@[simp] theorem Octets.front_append {first second : Nat} (front : Octets first)
    (back : Octets second) : (front.append back).front = front := by
  obtain ⟨bytes, rfl⟩ := front
  simp [Octets.append, Octets.front]

@[simp] theorem Octets.back_append {first second : Nat} (front : Octets first)
    (back : Octets second) : (front.append back).back = back := by
  obtain ⟨bytes, rfl⟩ := front
  simp [Octets.append, Octets.back]

def utf8Bytes (text : String) : List UInt8 := text.toByteArray.data.toList

def ofUtf8 (bytes : List UInt8) : Option String := String.fromUTF8? ⟨bytes.toArray⟩

/-- A byte that goes on with a character. -/
def continues (byte : UInt8) : Bool := 0x80 ≤ byte && byte ≤ 0xBF

/-- The second byte of a character is bounded by the first. -/
def follows (first second : UInt8) : Bool :=
  if first = 0xE0 then 0xA0 ≤ second && second ≤ 0xBF
  else if first = 0xED then 0x80 ≤ second && second ≤ 0x9F
  else if first = 0xF0 then 0x90 ≤ second && second ≤ 0xBF
  else if first = 0xF4 then 0x80 ≤ second && second ≤ 0x8F
  else continues second

/-- Where bytes stop to be UTF-8, and how many of them are wrong there; no number
if they end within a character. -/
def utf8Fault : Nat → List UInt8 → Nat × Option Nat
  | index, [] => (index, none)
  | index, first :: rest =>
      if first < 0x80 then utf8Fault (index + 1) rest
      else if first < 0xC2 || 0xF4 < first then (index, some 1)
      else
        match rest with
        | [] => (index, none)
        | second :: rest =>
            if !follows first second then (index, some 1)
            else if first < 0xE0 then utf8Fault (index + 2) rest
            else
              match rest with
              | [] => (index, none)
              | third :: rest =>
                  if !continues third then (index, some 2)
                  else if first < 0xF0 then utf8Fault (index + 3) rest
                  else
                    match rest with
                    | [] => (index, none)
                    | fourth :: rest =>
                        if !continues fourth then (index, some 3)
                        else utf8Fault (index + 4) rest

@[simp] theorem ofUtf8_utf8Bytes (text : String) : ofUtf8 (utf8Bytes text) = some text := by
  have valid := text.isValidUTF8
  simp [ofUtf8, utf8Bytes, String.fromUTF8?, String.fromUTF8, valid]

@[simp] theorem utf8Bytes_length (text : String) : (utf8Bytes text).length = text.utf8ByteSize := by
  rfl

end Rtunnel.Data
