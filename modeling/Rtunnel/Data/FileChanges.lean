import Mathlib.Data.List.Infix
import Rtunnel.Data.KeyedMap
import Rtunnel.Data.Machine

namespace Rtunnel.Data

/-! Files and the changes made to them.

A call changes files one at a time, and others may look at any moment: every
state that a list of changes leads through is reached.  Replacing a file writes
a temporary one, in as many drafts as it takes, and renames it at last.
-/

abbrev Files (Path Content : Type) := KeyedMap Path Content

inductive Change (Path Content : Type) where
  | write (path : Path) (content : Content)
  | rename (source target : Path)
deriving DecidableEq

namespace Change

variable {Path Content : Type} [DecidableEq Path]

def apply (files : Files Path Content) : Change Path Content → Files Path Content
  | .write path content => files.insert path content
  | .rename source target =>
      match files.lookup source with
      | some content => (files.erase source).insert target content
      | none => files

def machine : Machine (Files Path Content) (Change Path Content) Unit where
  step files change := (change.apply files, ())

/-- The files after some changes. -/
def after (files : Files Path Content) (changes : List (Change Path Content)) :
    Files Path Content := machine.run files changes

/-- The files are in this state at some moment while the changes are made. -/
def Reaches (files : Files Path Content) (changes : List (Change Path Content))
    (state : Files Path Content) : Prop :=
  ∃ done, done <+: changes ∧ after files done = state

def Touches (path : Path) : Change Path Content → Prop
  | .write written _ => written = path
  | .rename source target => source = path ∨ target = path

/-- Write a temporary file, through some drafts, and put it in the target's place. -/
def replace (temporary target : Path) (drafts : List Content) (content : Content) :
    List (Change Path Content) :=
  drafts.map (.write temporary) ++ [.write temporary content] ++ [.rename temporary target]

variable {files state : Files Path Content} {first second changes : List (Change Path Content)}
  {path temporary target : Path} {drafts : List Content} {content : Content}

theorem after_append (files : Files Path Content) (first second : List (Change Path Content)) :
    after files (first ++ second) = after (after files first) second :=
  machine.run_append files first second

theorem reaches_after (files : Files Path Content) (changes : List (Change Path Content)) :
    Reaches files changes (after files changes) := ⟨changes, List.prefix_refl _, rfl⟩

/-- A moment of two lists of changes is one of the first, or one of the second. -/
theorem reaches_append : Reaches files (first ++ second) state ↔
    Reaches files first state ∨ Reaches (after files first) second state := by
  constructor
  · rintro ⟨done, start, rfl⟩
    rcases List.prefix_or_prefix_of_prefix start (List.prefix_append first second) with
      within | ⟨rest, rfl⟩
    · exact .inl ⟨done, within, rfl⟩
    · exact .inr ⟨rest, (List.prefix_append_right_inj first).mp start, (after_append _ _ _).symm⟩
  · rintro (⟨done, start, rfl⟩ | ⟨done, start, rfl⟩)
    · exact ⟨done, start.trans (List.prefix_append first second), rfl⟩
    · exact ⟨first ++ done, (List.prefix_append_right_inj first).mpr start, after_append _ _ _⟩

theorem reaches_append_singleton {last : Change Path Content} :
    Reaches files (changes ++ [last]) state ↔
      Reaches files changes state ∨ state = after files (changes ++ [last]) := by
  rw [reaches_append]
  constructor
  · rintro (before | ⟨done, start, rfl⟩)
    · exact .inl before
    · rcases List.prefix_cons_iff.mp start with rfl | ⟨rest, rfl, none⟩
      · exact .inl (reaches_after files changes)
      · rw [List.prefix_nil.mp none, ← after_append]
        exact .inr rfl
  · rintro (before | rfl)
    · exact .inl before
    · rw [after_append]
      exact .inr (reaches_after _ _)

theorem lookup_apply {change : Change Path Content} (untouched : ¬ change.Touches path)
    (files : Files Path Content) : (change.apply files).lookup path = files.lookup path := by
  cases change with
  | write written content => exact AList.lookup_insert_ne (Ne.symm untouched)
  | rename source target =>
      have fromSource : path ≠ source := fun same => untouched (.inl same.symm)
      have fromTarget : path ≠ target := fun same => untouched (.inr same.symm)
      rw [apply]
      split
      · rw [AList.lookup_insert_ne fromTarget, AList.lookup_erase_ne fromSource]
      · rfl

/-- A file that no change touches stays as it is at every moment. -/
theorem lookup_of_reaches (untouched : ∀ change ∈ changes, ¬ change.Touches path)
    (reached : Reaches files changes state) : state.lookup path = files.lookup path := by
  obtain ⟨done, start, rfl⟩ := reached
  have step : ∀ (state : Files Path Content) (change : Change Path Content),
      ¬ change.Touches path → state.lookup path = files.lookup path →
      (machine.next state change).lookup path = files.lookup path :=
    fun state change free same => (lookup_apply free state).trans same
  exact machine.run_invariant_of_forall step rfl
    fun change member => untouched change (start.subset member)

/-- A replaced file is the old one until the last change. -/
theorem lookup_of_reaches_replace (different : temporary ≠ target)
    (reached : Reaches files (replace temporary target drafts content) state) :
    state.lookup target = files.lookup target ∨
      state = after files (replace temporary target drafts content) := by
  rcases reaches_append_singleton.mp reached with before | last
  · refine .inl (lookup_of_reaches (fun change member => ?_) before)
    rcases List.mem_append.mp member with draft | final
    · obtain ⟨text, _, rfl⟩ := List.mem_map.mp draft
      exact different
    · cases List.mem_singleton.mp final
      exact different
  · exact .inr last

theorem lookup_after_replace :
    (after files (replace temporary target drafts content)).lookup target = some content := by
  rw [replace, after_append, after_append]
  generalize after files (drafts.map (.write temporary)) = drafted
  change (apply (drafted.insert temporary content) (.rename temporary target)).lookup target = _
  rw [apply, AList.lookup_insert]
  exact AList.lookup_insert _

omit [DecidableEq Path] in
/-- Only the temporary file and the target are touched. -/
theorem touches_replace {change : Change Path Content}
    (member : change ∈ replace temporary target drafts content) (touched : change.Touches path) :
    path = temporary ∨ path = target := by
  rcases List.mem_append.mp member with written | renamed
  · rcases List.mem_append.mp written with draft | final
    · obtain ⟨text, _, rfl⟩ := List.mem_map.mp draft
      exact .inl touched.symm
    · cases List.mem_singleton.mp final
      exact .inl touched.symm
  · cases List.mem_singleton.mp renamed
    exact touched.imp Eq.symm Eq.symm

end Change

end Rtunnel.Data
