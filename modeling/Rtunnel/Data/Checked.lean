import Mathlib.Data.List.Basic

namespace Rtunnel.Data

/-! Calls that may panic.

A call returns a value, reports an error, or panics because it indexes outside
of its data.  Keeping the third way apart makes "never indexes out of bounds" a
statement about the call.
-/

inductive Checked (Reason Value : Type) where
  | returns (value : Value)
  | fails (reason : Reason)
  | panics
deriving DecidableEq

namespace Checked

variable {Reason Value Next Item : Type}

def bind : Checked Reason Value → (Value → Checked Reason Next) → Checked Reason Next
  | .returns value, rest => rest value
  | .fails reason, _ => .fails reason
  | .panics, _ => .panics

instance : Monad (Checked Reason) where
  pure := .returns
  bind := bind

/-- A call that reports its errors and never panics. -/
def ofExcept : Except Reason Value → Checked Reason Value
  | .ok value => .returns value
  | .error reason => .fails reason

/-- Go on only if a condition holds. -/
def ensure (condition : Prop) [Decidable condition] (reason : Reason) : Checked Reason Unit :=
  if condition then .returns () else .fails reason

def index (data : List Item) (position : Nat) : Checked Reason Item :=
  match data[position]? with
  | some item => .returns item
  | none => .panics

def sliceFrom (data : List Item) (start : Nat) : Checked Reason (List Item) :=
  if start ≤ data.length then .returns (data.drop start) else .panics

def sliceTo (data : List Item) (stop : Nat) : Checked Reason (List Item) :=
  if stop ≤ data.length then .returns (data.take stop) else .panics

def slice (data : List Item) (start stop : Nat) : Checked Reason (List Item) :=
  if start ≤ stop ∧ stop ≤ data.length then .returns ((data.drop start).take (stop - start))
  else .panics

/-- A difference of unsigned numbers. -/
def sub (left right : Nat) : Checked Reason Nat :=
  if right ≤ left then .returns (left - right) else .panics

/-- The characters in the first bytes of a text, which is cut only between characters. -/
def sliceText : List Char → Nat → Checked Reason (List Char)
  | _, 0 => .returns []
  | [], _ + 1 => .panics
  | character :: rest, stop + 1 =>
      if character.utf8Size ≤ stop + 1 then
        (sliceText rest (stop + 1 - character.utf8Size)).bind fun front =>
          .returns (character :: front)
      else .panics

@[simp] theorem returns_bind (value : Value) (rest : Value → Checked Reason Next) :
    (Checked.returns value >>= rest) = rest value := rfl

@[simp] theorem fails_bind (reason : Reason) (rest : Value → Checked Reason Next) :
    (Checked.fails reason >>= rest) = .fails reason := rfl

theorem ensure_of_true {condition : Prop} [Decidable condition] (holds : condition)
    (reason : Reason) : ensure condition reason = .returns () := if_pos holds

theorem ensure_of_false {condition : Prop} [Decidable condition] (fails : ¬ condition)
    (reason : Reason) : ensure condition reason = .fails reason := if_neg fails

theorem sliceFrom_of_le {data : List Item} {start : Nat} (within : start ≤ data.length) :
    (sliceFrom data start : Checked Reason (List Item)) = .returns (data.drop start) :=
  if_pos within

theorem slice_of_le {data : List Item} {start stop : Nat} (ordered : start ≤ stop)
    (within : stop ≤ data.length) : (slice data start stop : Checked Reason (List Item)) =
      .returns ((data.drop start).take (stop - start)) :=
  if_pos ⟨ordered, within⟩

theorem sub_of_le {left right : Nat} (within : right ≤ left) :
    (sub left right : Checked Reason Nat) = .returns (left - right) := if_pos within

theorem sliceTo_of_le {data : List Item} {stop : Nat} (within : stop ≤ data.length) :
    (sliceTo data stop : Checked Reason (List Item)) = .returns (data.take stop) :=
  if_pos within

/-- A text of one-byte characters is cut anywhere. -/
theorem sliceText_of_le {text : List Char} (ascii : ∀ character ∈ text, character.utf8Size = 1)
    {stop : Nat} (within : stop ≤ text.length) :
    (sliceText text stop : Checked Reason (List Char)) = .returns (text.take stop) := by
  induction text generalizing stop with
  | nil =>
      cases Nat.le_zero.mp within
      rfl
  | cons character rest ih =>
      cases stop with
      | zero => rfl
      | succ stop =>
          obtain ⟨single, later⟩ := List.forall_mem_cons.mp ascii
          have front := ih later (Nat.le_of_succ_le_succ within)
          rw [sliceText, single, if_pos (Nat.le_add_left 1 stop), Nat.add_sub_cancel, front]
          rfl

end Checked

end Rtunnel.Data
