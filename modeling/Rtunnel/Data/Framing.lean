import Rtunnel.Data.Bytes

namespace Rtunnel.Data

/-! Streams of self-delimiting records.

A record carries its own length, so records written one after the other are
read back one after the other, whatever follows them.
-/

structure Framing (Record : Type) where
  encode : Record → List UInt8
  read : List UInt8 → Option (Record × List UInt8)
  read_nil : read [] = none
  read_encode : ∀ record rest, read (encode record ++ rest) = some (record, rest)

namespace Framing

variable {Record : Type} (framing : Framing Record)

def encodeAll (records : List Record) : List UInt8 := records.flatMap framing.encode

/-- Read at most `limit` records; what cannot be read is handed back. -/
def readUpTo : Nat → List UInt8 → List Record × List UInt8
  | 0, input => ([], input)
  | limit + 1, input =>
      match framing.read input with
      | none => ([], input)
      | some (record, rest) =>
          let later := readUpTo limit rest
          (record :: later.1, later.2)

/-- Read until a record is incomplete.  Every record takes at least one byte. -/
def readAll (input : List UInt8) : List Record × List UInt8 :=
  framing.readUpTo input.length input

@[simp] theorem encodeAll_nil : framing.encodeAll [] = [] := rfl

@[simp] theorem encodeAll_cons (record : Record) (records : List Record) :
    framing.encodeAll (record :: records) = framing.encode record ++ framing.encodeAll records :=
  rfl

@[simp] theorem encodeAll_append (first second : List Record) :
    framing.encodeAll (first ++ second) = framing.encodeAll first ++ framing.encodeAll second :=
  List.flatMap_append

theorem encode_ne_nil (record : Record) : framing.encode record ≠ [] := by
  intro empty
  have read := framing.read_encode record []
  rw [empty, List.append_nil, framing.read_nil] at read
  cases read

theorem length_le_encodeAll (records : List Record) :
    records.length ≤ (framing.encodeAll records).length := by
  induction records with
  | nil => exact Nat.le_refl 0
  | cons record records ih =>
      have positive := List.length_pos_iff.mpr (framing.encode_ne_nil record)
      simp only [encodeAll_cons, List.length_cons, List.length_append]
      omega

theorem readUpTo_encodeAll {limit : Nat} {records : List Record}
    (enough : records.length ≤ limit) :
    framing.readUpTo limit (framing.encodeAll records) = (records, []) := by
  induction limit generalizing records with
  | zero =>
      cases records with
      | nil => rfl
      | cons record records => exact absurd enough (Nat.not_succ_le_zero _)
  | succ limit ih =>
      cases records with
      | nil => simp only [encodeAll_nil, readUpTo, framing.read_nil]
      | cons record records =>
          have rest := ih (Nat.le_of_succ_le_succ enough)
          simp only [encodeAll_cons, readUpTo, framing.read_encode, rest]

/-- What was written is read back, and nothing else. -/
theorem readAll_encodeAll (records : List Record) :
    framing.readAll (framing.encodeAll records) = (records, []) :=
  framing.readUpTo_encodeAll (framing.length_le_encodeAll records)

end Framing

end Rtunnel.Data
