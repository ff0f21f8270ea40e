import Rtunnel.Data.KeyedMap

namespace Rtunnel.Data.Validation

/-! Checks that stop at the first refusal, and tables filled by checked entries. -/

variable {Reason First Second Item κ ν : Type}

/-- Go on only if a condition holds. -/
def ensure (condition : Bool) (reason : Reason) : Except Reason Unit :=
  if condition then .ok () else .error reason

theorem ensure_eq_ok_iff {condition : Bool} {reason : Reason} :
    ensure condition reason = .ok () ↔ condition = true := by
  cases condition with
  | true => exact iff_of_true rfl rfl
  | false => exact iff_of_false (by rintro ⟨⟩) (by rintro ⟨⟩)

theorem bind_eq_ok_iff {first : Except Reason First} {rest : First → Except Reason Second}
    {result : Second} :
    (first >>= rest) = .ok result ↔ ∃ value, first = .ok value ∧ rest value = .ok result := by
  cases first with
  | error reason => exact iff_of_false (by rintro ⟨⟩) (by rintro ⟨value, ⟨⟩, _⟩)
  | ok value =>
      constructor
      · exact fun succeeds => ⟨value, rfl, succeeds⟩
      · rintro ⟨found, ⟨⟩, succeeds⟩
        exact succeeds

/-- A check that is followed by others passes when they all do. -/
theorem seq_eq_ok_iff {check : Except Reason Unit} {rest : Unit → Except Reason Second}
    {result : Second} :
    (check >>= rest) = .ok result ↔ check = .ok () ∧ rest () = .ok result := by
  rw [bind_eq_ok_iff]
  exact ⟨fun ⟨(), passed, succeeds⟩ => ⟨passed, succeeds⟩,
    fun ⟨passed, succeeds⟩ => ⟨(), passed, succeeds⟩⟩

theorem forM_eq_ok_iff {check : Item → Except Reason Unit} {items : List Item} :
    items.forM check = .ok () ↔ ∀ item ∈ items, check item = .ok () := by
  induction items with
  | nil => exact iff_of_true rfl (by simp)
  | cons item rest ih =>
      change (check item >>= fun _ => rest.forM check) = .ok () ↔ _
      rw [seq_eq_ok_iff, ih, List.forall_mem_cons]

section Table

variable [DecidableEq κ] {key : Item → κ} {make : Item → Except Reason ν}

/-- File what each item makes under the item's key; a later item replaces an
earlier one, and an item that makes nothing stops the filing. -/
def tabulate (key : Item → κ) (make : Item → Except Reason ν) (items : List Item) :
    Except Reason (KeyedMap κ ν) :=
  items.foldlM (fun table item => do
    let value ← make item
    return table.insert (key item) value) ∅

/-- The keys of the items are added to those that were filed. -/
theorem lookup_foldlM_isSome_iff {items : List Item} {start table : KeyedMap κ ν}
    (filed : items.foldlM (fun table item => do
      let value ← make item
      return table.insert (key item) value) start = .ok table) (wanted : κ) :
    (table.lookup wanted).isSome ↔
      (start.lookup wanted).isSome ∨ wanted ∈ items.map key := by
  induction items generalizing start with
  | nil =>
      cases filed
      simp
  | cons item rest ih =>
      rw [List.foldlM_cons] at filed
      obtain ⟨next, inserted, filed⟩ := bind_eq_ok_iff.mp filed
      obtain ⟨made, makes, inserted⟩ := bind_eq_ok_iff.mp inserted
      cases inserted
      rw [ih filed, List.map_cons, List.mem_cons]
      by_cases same : wanted = key item
      · subst same
        simp
      · simp [AList.lookup_insert_ne same, same]

theorem lookup_tabulate_isSome_iff {items : List Item} {table : KeyedMap κ ν}
    (filed : tabulate key make items = .ok table) (wanted : κ) :
    (table.lookup wanted).isSome ↔ ∃ item ∈ items, key item = wanted := by
  have none : ((∅ : KeyedMap κ ν).lookup wanted).isSome = false := rfl
  rw [lookup_foldlM_isSome_iff filed, none, List.mem_map]
  simp

end Table

end Rtunnel.Data.Validation
