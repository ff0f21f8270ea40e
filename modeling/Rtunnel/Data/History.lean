import Mathlib.Data.List.Basic

namespace Rtunnel.Data

/-! Histories that are judged entry by entry.

A run leaves a list of what happened, the latest entry last.  Safety is stated
on it in two ways: every entry is allowed by what stands before it, or between
two entries of one kind there is an entry of another kind.  Both are proved as
the history grows, one entry at a time.
-/

namespace History

variable {Entry Value : Type*}

/-- Every entry is allowed by the entries before it. -/
def Lawful (allowed : List Entry → Entry → Prop) (history : List Entry) : Prop :=
  ∀ earlier entry later, history = earlier ++ entry :: later → allowed earlier entry

/-- Some entry that starts is not followed by one that stops. -/
def Pending (starts stops : Entry → Prop) (history : List Entry) : Prop :=
  ∃ earlier entry later, history = earlier ++ entry :: later ∧ starts entry ∧
    ∀ other ∈ later, ¬ stops other

/-- The value of the latest entry that has one. -/
def latest (pick : Entry → Option Value) (history : List Entry) : Option Value :=
  (history.filterMap pick).getLast?

theorem append_singleton_eq {history earlier later : List Entry} {entry last : Entry}
    (split : history ++ [last] = earlier ++ entry :: later) :
    (later = [] ∧ earlier = history ∧ entry = last) ∨
      ∃ before, later = before ++ [last] ∧ history = earlier ++ entry :: before := by
  rcases List.eq_nil_or_concat' later with rfl | ⟨before, final, rfl⟩
  · obtain ⟨rfl, same⟩ := List.append_inj' split rfl
    exact .inl ⟨rfl, rfl, (List.singleton_inj.mp same).symm⟩
  · rw [← List.cons_append, ← List.append_assoc] at split
    obtain ⟨rfl, same⟩ := List.append_inj' split rfl
    exact .inr ⟨before, by rw [List.singleton_inj.mp same], rfl⟩

section Lawful

variable {allowed : List Entry → Entry → Prop}

theorem lawful_nil : Lawful allowed [] := by
  intro earlier entry later split
  simp at split

theorem Lawful.append_singleton {history : List Entry} (lawful : Lawful allowed history)
    {last : Entry} (fine : allowed history last) : Lawful allowed (history ++ [last]) := by
  intro earlier entry later split
  rcases append_singleton_eq split with ⟨-, rfl, rfl⟩ | ⟨before, -, within⟩
  · exact fine
  · exact lawful earlier entry before within

end Lawful

section Pending

variable {starts stops : Entry → Prop}

theorem not_pending_nil : ¬ Pending starts stops ([] : List Entry) := by
  rintro ⟨earlier, entry, later, split, -⟩
  simp at split

theorem pending_append_singleton {history : List Entry} {last : Entry} :
    Pending starts stops (history ++ [last]) ↔
      starts last ∨ Pending starts stops history ∧ ¬ stops last := by
  constructor
  · rintro ⟨earlier, entry, later, split, started, unstopped⟩
    rcases append_singleton_eq split with ⟨-, rfl, rfl⟩ | ⟨before, rfl, within⟩
    · exact .inl started
    · refine .inr ⟨⟨earlier, entry, before, within, started, fun other member => ?_⟩, ?_⟩
      · exact unstopped other (List.mem_append_left _ member)
      · exact unstopped last (List.mem_append_right _ (List.mem_singleton_self last))
  · rintro (started | ⟨⟨earlier, entry, later, rfl, started, unstopped⟩, goesOn⟩)
    · exact ⟨history, last, [], rfl, started, fun _ member => nomatch member⟩
    · refine ⟨earlier, entry, later ++ [last], by simp, started, fun other member => ?_⟩
      rcases List.mem_append.mp member with member | member
      · exact unstopped other member
      · exact List.mem_singleton.mp member ▸ goesOn

/-- When nothing starts while something is pending, two starts are separated by a
stop. -/
theorem stop_between {allowed : List Entry → Entry → Prop} {earlier between later : List Entry}
    {first second : Entry}
    (lawful : Lawful allowed (earlier ++ first :: between ++ second :: later))
    (started : starts first)
    (exclusive : ∀ history, allowed history second → ¬ Pending starts stops history) :
    ∃ other ∈ between, stops other := by
  by_contra none
  have fine := lawful (earlier ++ first :: between) second later rfl
  exact exclusive _ fine ⟨earlier, first, between, rfl, started,
    fun other member stopped => none ⟨other, member, stopped⟩⟩

end Pending

section Latest

variable {pick : Entry → Option Value}

theorem latest_append_singleton (history : List Entry) (last : Entry) :
    latest pick (history ++ [last]) = (pick last).or (latest pick history) := by
  cases picked : pick last <;> simp [latest, List.filterMap_append, picked]

theorem latest_append_of_none (history : List Entry) {last : Entry} (plain : pick last = none) :
    latest pick (history ++ [last]) = latest pick history := by
  rw [latest_append_singleton, plain, Option.none_or]

theorem mem_of_latest {history : List Entry} {value : Value}
    (found : latest pick history = some value) : ∃ entry ∈ history, pick entry = some value :=
  List.mem_filterMap.mp (List.mem_of_getLast? found)

theorem latest_isSome_iff {history : List Entry} :
    (latest pick history).isSome ↔ ∃ entry ∈ history, (pick entry).isSome := by
  constructor
  · intro found
    obtain ⟨value, found⟩ := Option.isSome_iff_exists.mp found
    obtain ⟨entry, member, picked⟩ := mem_of_latest found
    exact ⟨entry, member, by rw [picked]; rfl⟩
  · rintro ⟨entry, member, picked⟩
    obtain ⟨value, picked⟩ := Option.isSome_iff_exists.mp picked
    have kept : value ∈ history.filterMap pick := List.mem_filterMap.mpr ⟨entry, member, picked⟩
    exact List.getLast?_isSome.mpr (List.ne_nil_of_mem kept)

end Latest

end History

end Rtunnel.Data
