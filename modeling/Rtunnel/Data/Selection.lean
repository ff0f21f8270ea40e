import Mathlib.Data.List.Basic

namespace Rtunnel.Data

/-! Choosing one element of a list by comparing elements pairwise. -/

universe u

variable {α : Type u}

/-- Folds a nonempty list with its first element as the start. -/
def reduce (choose : α → α → α) : List α → Option α
  | [] => none
  | first :: rest => some (rest.foldl choose first)

/-- A least element; of several the first. -/
def minBy (greater : α → α → Bool) : List α → Option α :=
  reduce fun best next => if greater best next then next else best

/-- An element with the greatest key; of several the last. -/
def maxByKey (key : α → Nat) : List α → Option α :=
  reduce fun best next => if key next < key best then best else next

@[simp] theorem reduce_eq_none {choose : α → α → α} {list : List α} :
    reduce choose list = none ↔ list = [] := by
  cases list <;> simp [reduce]

/-- A choice between two elements chooses a member of the list. -/
theorem mem_of_reduce {choose : α → α → α}
    (picks : ∀ best next, choose best next = best ∨ choose best next = next)
    {list : List α} {chosen : α} (found : reduce choose list = some chosen) :
    chosen ∈ list := by
  have folded : ∀ (rest : List α) (first : α), rest.foldl choose first ∈ first :: rest := by
    intro rest
    induction rest with
    | nil => exact fun first => List.mem_singleton.mpr rfl
    | cons next rest ih =>
        intro first
        rcases List.mem_cons.mp (ih (choose first next)) with same | later
        · rw [List.foldl_cons, same]
          rcases picks first next with kept | replaced
          · rw [kept]
            exact List.mem_cons_self
          · rw [replaced]
            exact List.mem_cons_of_mem _ List.mem_cons_self
        · exact List.mem_cons_of_mem _ (List.mem_cons_of_mem _ later)
  cases list with
  | nil => cases found
  | cons first rest =>
      cases found
      exact folded rest first

theorem mem_of_minBy {greater : α → α → Bool} {list : List α} {chosen : α}
    (found : minBy greater list = some chosen) : chosen ∈ list := by
  refine mem_of_reduce (fun best next => ?_) found
  by_cases worse : greater best next = true
  · exact Or.inr (if_pos worse)
  · exact Or.inl (if_neg worse)

theorem mem_of_maxByKey {key : α → Nat} {list : List α} {chosen : α}
    (found : maxByKey key list = some chosen) : chosen ∈ list := by
  refine mem_of_reduce (fun best next => ?_) found
  by_cases smaller : key next < key best
  · exact Or.inl (if_pos smaller)
  · exact Or.inr (if_neg smaller)

@[simp] theorem minBy_eq_none {greater : α → α → Bool} {list : List α} :
    minBy greater list = none ↔ list = [] := reduce_eq_none

@[simp] theorem maxByKey_eq_none {key : α → Nat} {list : List α} :
    maxByKey key list = none ↔ list = [] := reduce_eq_none

end Rtunnel.Data
