import Mathlib.Tactic.ByContra
import Mathlib.Data.List.Basic

namespace Rtunnel.Data

/-! Cutting a list into consecutive pieces of one size, the last one shorter. -/

variable {α : Type}

def chunk (width : Nat) (values : List α) (index : Nat) : List α :=
  (values.drop (index * width)).take width

def chunkCount (width : Nat) (values : List α) : Nat := (values.length + width - 1) / width

def chunks (width : Nat) (values : List α) : List (List α) :=
  (List.range (chunkCount width values)).map (chunk width values)

@[simp] theorem chunks_length (width : Nat) (values : List α) :
    (chunks width values).length = chunkCount width values := by
  simp [chunks]

theorem chunk_length_le (width : Nat) (values : List α) (index : Nat) :
    (chunk width values index).length ≤ width := by
  simp only [chunk, List.length_take]
  omega

theorem flatten_chunk_prefix (width count : Nat) (values : List α) :
    ((List.range count).map (chunk width values)).flatten = values.take (count * width) := by
  induction count with
  | zero => simp
  | succ count ih =>
      rw [List.range_succ, List.map_append, List.flatten_append, ih, Nat.add_mul, Nat.one_mul,
        List.take_add]
      simp [chunk]

theorem length_le_chunkCount_mul {width : Nat} (positive : 0 < width) (values : List α) :
    values.length ≤ chunkCount width values * width := by
  have division := Nat.div_add_mod (values.length + width - 1) width
  have remainder := Nat.mod_lt (values.length + width - 1) positive
  rw [chunkCount, Nat.mul_comm]
  omega

/-- The pieces put back together are the original list. -/
theorem chunks_flatten {width : Nat} (positive : 0 < width) (values : List α) :
    (chunks width values).flatten = values := by
  rw [chunks, flatten_chunk_prefix]
  exact List.take_of_length_le (length_le_chunkCount_mul positive values)

/-- More than one piece is needed as soon as the list exceeds the width. -/
theorem one_lt_chunkCount {width : Nat} (positive : 0 < width) {values : List α}
    (exceeds : width < values.length) : 1 < chunkCount width values := by
  have enough := length_le_chunkCount_mul positive values
  by_contra few
  have bound : chunkCount width values * width ≤ 1 * width :=
    Nat.mul_le_mul_right width (by omega)
  omega

end Rtunnel.Data
