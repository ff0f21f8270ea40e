import Mathlib.Algebra.Ring.Nat
import Mathlib.Data.Finset.Card
import Mathlib.Data.List.AList

namespace Rtunnel.Data

/-! Finite keyed maps with a weight.

Mathlib's `AList` already carries the proof that its keys are distinct.  What a
bounded store needs on top of it is the weight of all entries together and how
one insertion or removal changes that weight.
-/

abbrev KeyedMap (κ ν : Type) := AList (fun _ : κ => ν)

namespace KeyedMap

variable {κ ν : Type}

/-- The weights of all entries, added up. -/
def total (weight : ν → Nat) (map : KeyedMap κ ν) : Nat :=
  (map.entries.map fun entry => weight entry.2).sum

def size (map : KeyedMap κ ν) : Nat := map.entries.length

/-- Keep only the entries that satisfy a test. -/
def retain (test : κ → ν → Bool) (map : KeyedMap κ ν) : KeyedMap κ ν where
  entries := map.entries.filter fun entry => test entry.1 entry.2
  nodupKeys := List.NodupKeys.sublist List.filter_sublist map.nodupKeys

theorem size_eq_total (map : KeyedMap κ ν) :
    map.size = map.total fun _ => 1 := by
  simp [size, total]

theorem retain_retain_comm (first second : κ → ν → Bool) (map : KeyedMap κ ν) :
    retain first (map.retain second) = retain second (map.retain first) := by
  apply AList.ext
  change (map.entries.filter _).filter _ = (map.entries.filter _).filter _
  rw [List.filter_filter, List.filter_filter]
  exact List.filter_congr fun entry _ => Bool.and_comm _ _

variable [DecidableEq κ] {map : KeyedMap κ ν} {key other : κ} {value : ν}

theorem erase_of_lookup_none (absent : map.lookup key = none) : map.erase key = map :=
  AList.ext (List.kerase_of_notMem_keys (AList.lookup_eq_none.mp absent))

theorem lookup_erase_eq_some (erased : (map.erase key).lookup other = some value) :
    other ≠ key ∧ map.lookup other = some value := by
  by_cases same : other = key
  · rw [same, AList.lookup_erase] at erased
    cases erased
  · exact ⟨same, (AList.lookup_erase_ne same).symm.trans erased⟩

/-- The entry stored under a key is one summand of the total. -/
theorem total_eq_erase_add (weight : ν → Nat) (found : map.lookup key = some value) :
    map.total weight = total weight (map.erase key) + weight value := by
  have member : key ∈ map.entries.keys := AList.lookup_isSome.mp (by rw [found]; rfl)
  obtain ⟨stored, before, after, outside, split, erased⟩ := List.exists_of_kerase member
  have stored_eq : stored = value := by
    have looked : List.dlookup key map.entries = some stored := by
      rw [split, List.dlookup_append, List.dlookup_eq_none.mpr outside]
      simp
    exact Option.some.inj (looked.symm.trans found)
  subst stored_eq
  change (map.entries.map _).sum = ((List.kerase key map.entries).map _).sum + _
  rw [erased, split]
  simp only [List.map_append, List.map_cons, List.sum_append, List.sum_cons]
  omega

theorem total_insert (weight : ν → Nat) (map : KeyedMap κ ν) (key : κ) (value : ν) :
    total weight (map.insert key value) =
      total weight (map.erase key) + weight value := by
  change ((List.kinsert key value map.entries).map _).sum = _
  rw [List.kinsert_def, List.map_cons, List.sum_cons, Nat.add_comm]
  rfl

theorem total_insert_of_none (weight : ν → Nat) (absent : map.lookup key = none) :
    total weight (map.insert key value) = map.total weight + weight value := by
  rw [total_insert, erase_of_lookup_none absent]

theorem total_insert_of_some {stored : ν} (weight : ν → Nat)
    (found : map.lookup key = some stored) :
    total weight (map.insert key value) + weight stored =
      map.total weight + weight value := by
  have inserted := total_insert weight map key value
  have split := total_eq_erase_add weight found
  omega

/-- Storing a value exchanges the weight of what the key held for its own. -/
theorem total_insert_exchange (weight : ν → Nat) (map : KeyedMap κ ν) (key : κ) (value : ν) :
    total weight (map.insert key value) + (map.lookup key).elim 0 weight =
      map.total weight + weight value := by
  cases found : map.lookup key with
  | none => exact total_insert_of_none weight found
  | some stored => exact total_insert_of_some weight found

theorem lookup_retain (test : κ → ν → Bool) (map : KeyedMap κ ν) (key : κ) :
    (map.retain test).lookup key = (map.lookup key).filter (test key) := by
  have search : ∀ entries : List (Sigma fun _ : κ => ν), entries.NodupKeys →
      List.dlookup key (entries.filter fun entry => test entry.1 entry.2) =
        (List.dlookup key entries).filter (test key) := by
    intro entries distinct
    induction entries with
    | nil => rfl
    | cons entry rest ih =>
        obtain ⟨stored, value⟩ := entry
        obtain ⟨outside, restDistinct⟩ := List.nodupKeys_cons.mp distinct
        have restSearch := ih restDistinct
        by_cases same : stored = key
        · subst same
          have absent : List.dlookup stored rest = none := List.dlookup_eq_none.mpr outside
          by_cases kept : test stored value = true
          · simp [kept, Option.filter]
          · simp [kept, restSearch, absent, Option.filter]
        · have skip : ∀ tail : List (Sigma fun _ : κ => ν),
              List.dlookup key (⟨stored, value⟩ :: tail) = List.dlookup key tail :=
            fun tail => List.dlookup_cons_ne tail ⟨stored, value⟩ (Ne.symm same)
          by_cases kept : test stored value = true
          · simp [kept, skip, restSearch]
          · simp [kept, skip, restSearch]
  exact search map.entries map.nodupKeys

/-- A map whose keys lie in a finite set is full when it has as many entries. -/
theorem size_eq_card_iff {domain : Finset κ}
    (within : ∀ key, (map.lookup key).isSome → key ∈ domain) :
    map.size = domain.card ↔ ∀ key ∈ domain, (map.lookup key).isSome := by
  have member : ∀ key, key ∈ map.keys.toFinset ↔ (map.lookup key).isSome :=
    fun key => List.mem_toFinset.trans AList.lookup_isSome.symm
  have inside : map.keys.toFinset ⊆ domain := fun key stored => within key ((member key).mp stored)
  have count : map.keys.toFinset.card = map.size := by
    rw [List.toFinset_card_of_nodup (AList.keys_nodup map)]
    exact List.length_map _
  constructor
  · intro full key listed
    have same := Finset.eq_of_subset_of_card_le inside (by rw [count, full])
    exact (member key).mp (same ▸ listed)
  · intro full
    rw [← count]
    have every : domain ⊆ map.keys.toFinset := fun key listed => (member key).mpr (full key listed)
    exact congrArg Finset.card (inside.antisymm every)

theorem erase_insert_self (map : KeyedMap κ ν) (key : κ) (value : ν) :
    (map.insert key value).erase key = map.erase key := by
  apply AList.ext
  change List.kerase key (List.kinsert key value map.entries) = List.kerase key map.entries
  rw [List.kinsert_def]
  exact List.kerase_cons_eq rfl

theorem erase_insert_other (map : KeyedMap κ ν) (different : other ≠ key) (value : ν) :
    (map.insert other value).erase key = (map.erase key).insert other value := by
  apply AList.ext
  change List.kerase key (List.kinsert other value map.entries) =
    List.kinsert other value (List.kerase key map.entries)
  rw [List.kinsert_def, List.kinsert_def, List.kerase_comm]
  exact List.kerase_cons_ne (Ne.symm different)

theorem filter_kerase (keep : (Sigma fun _ : κ => ν) → Bool) (key : κ)
    {entries : List (Sigma fun _ : κ => ν)} (distinct : entries.NodupKeys) :
    (List.kerase key entries).filter keep = List.kerase key (entries.filter keep) := by
  induction entries with
  | nil => rfl
  | cons entry rest ih =>
      obtain ⟨outside, restDistinct⟩ := List.nodupKeys_cons.mp distinct
      by_cases same : key = entry.1
      · rw [List.kerase_cons_eq same]
        have absent : key ∉ (rest.filter keep).keys :=
          fun member => outside (same ▸ (List.filter_sublist.map _).subset member)
        by_cases kept : keep entry = true
        · rw [List.filter_cons_of_pos kept, List.kerase_cons_eq same]
        · rw [List.filter_cons_of_neg kept, List.kerase_of_notMem_keys absent]
      · rw [List.kerase_cons_ne same]
        by_cases kept : keep entry = true
        · rw [List.filter_cons_of_pos kept, List.filter_cons_of_pos kept,
            List.kerase_cons_ne same, ih restDistinct]
        · rw [List.filter_cons_of_neg kept, List.filter_cons_of_neg kept, ih restDistinct]

theorem retain_erase (test : κ → ν → Bool) (map : KeyedMap κ ν) (key : κ) :
    retain test (map.erase key) = (map.retain test).erase key :=
  AList.ext (filter_kerase _ key map.nodupKeys)

theorem retain_insert_of_pos {test : κ → ν → Bool} (kept : test key value = true)
    (map : KeyedMap κ ν) :
    retain test (map.insert key value) = (map.retain test).insert key value := by
  have erased := congrArg AList.entries (retain_erase test map key)
  apply AList.ext
  change (⟨key, value⟩ :: List.kerase key map.entries).filter (fun entry => test entry.1 entry.2) =
    ⟨key, value⟩ :: List.kerase key (map.retain test).entries
  rw [List.filter_cons, if_pos kept]
  exact congrArg _ erased

theorem retain_insert_of_neg {test : κ → ν → Bool} (dropped : ¬ test key value = true)
    (map : KeyedMap κ ν) :
    retain test (map.insert key value) = (map.retain test).erase key := by
  have erased := congrArg AList.entries (retain_erase test map key)
  apply AList.ext
  change (⟨key, value⟩ :: List.kerase key map.entries).filter
    (fun entry => test entry.1 entry.2) = _
  rw [List.filter_cons, if_neg dropped]
  exact erased

/-- A test that every stored entry passes drops nothing. -/
theorem retain_of_forall {test : κ → ν → Bool} {map : KeyedMap κ ν}
    (kept : ∀ key value, map.lookup key = some value → test key value = true) :
    map.retain test = map := by
  apply AList.ext
  refine List.filter_eq_self.mpr fun entry member => kept entry.1 entry.2 ?_
  exact List.mem_dlookup map.nodupKeys member

end KeyedMap

end Rtunnel.Data
