import Mathlib.Tactic.Common

namespace Rtunnel.Data.Paths

/-! Paths as texts, parted by slashes.

A component is a part that is not empty and has no slash.  Pushing components
onto a path keeps them apart: the path that results determines each of them.  A
component that is not one of the names `.` and `..` leads below the path.
-/

/-- Append a path to another one; an absolute path replaces what it is pushed onto. -/
def push (base part : String) : String :=
  if part.toList.head? = some '/' then part
  else if base.toList.getLast? = none ∨ base.toList.getLast? = some '/' then base ++ part
  else base ++ "/" ++ part

/-- A path without its extension, and the extension.  The last part of the path
is a name; a name that starts with its only dot has no extension. -/
def splitExtension (path : List Char) : List Char × Option (List Char) :=
  let piece := (path.reverse.takeWhile fun character => character ≠ '.' ∧ character ≠ '/').reverse
  match path.reverse.drop piece.length with
  | '.' :: before =>
      if before.head? = none ∨ before.head? = some '/' then (path, none)
      else (before.reverse, some piece)
  | _ => (path, none)

/-- A path without its last part, which is a name; `/` is its own root. -/
def parent (path : String) : String :=
  match path.toList.reverse.dropWhile fun character => character ≠ '/' with
  | [] => ""
  | [_] => "/"
  | _ :: before => String.ofList before.reverse

/-- The base as it stands before what is pushed onto it. -/
def lead (base : String) : String :=
  if base.toList.getLast? = none ∨ base.toList.getLast? = some '/' then base else base ++ "/"

structure Component (part : String) : Prop where
  filled : part ≠ ""
  unparted : '/' ∉ part.toList

instance (part : String) : Decidable (Component part) :=
  decidable_of_iff (part ≠ "" ∧ '/' ∉ part.toList)
    ⟨fun both => ⟨both.1, both.2⟩, fun component => ⟨component.filled, component.unparted⟩⟩

variable {base part first second : String}

theorem Component.toList_ne_nil (component : Component part) : part.toList ≠ [] := by
  intro empty
  exact component.filled (String.toList_inj.mp empty)

theorem push_component (base : String) (component : Component part) :
    push base part = lead base ++ part := by
  have relative : part.toList.head? ≠ some '/' :=
    fun leading => component.unparted (List.mem_of_head? leading)
  unfold push lead
  rw [if_neg relative]
  split <;> rfl

theorem lead_append_component (base : String) (component : Component part) :
    lead (base ++ part) = base ++ part ++ "/" := by
  unfold lead
  rw [if_neg]
  rw [String.toList_append, List.getLast?_append]
  obtain ⟨last, found⟩ := Option.isSome_iff_exists.mp
    (List.getLast?_isSome.mpr component.toList_ne_nil)
  rw [found]
  rintro (none | parted)
  · cases none
  · cases parted
    exact component.unparted (List.mem_of_getLast? found)

/-- A component pushed onto a component stands behind it and a slash. -/
theorem push_push_component (base : String) (outer : Component first) (inner : Component second) :
    push (push base first) second = lead base ++ first ++ "/" ++ second := by
  rw [push_component base outer, push_component _ inner, lead_append_component _ outer]

theorem push_injective (firstComponent : Component first) (secondComponent : Component second)
    (same : push base first = push base second) : first = second := by
  rw [push_component base firstComponent, push_component base secondComponent] at same
  have texts := congrArg String.toList same
  rw [String.toList_append, String.toList_append] at texts
  exact String.toList_inj.mp (List.append_cancel_left texts)

/-- Below two directories of one path, the same name stands for the same file
only if the directories are the same. -/
theorem push_push_injective (firstComponent : Component first)
    (secondComponent : Component second) (inner : Component part)
    (same : push (push base first) part = push (push base second) part) : first = second := by
  rw [push_push_component base firstComponent inner,
    push_push_component base secondComponent inner] at same
  have texts := congrArg String.toList same
  simp only [String.toList_append, List.append_assoc] at texts
  exact String.toList_inj.mp (List.append_cancel_right (List.append_cancel_left texts))

theorem getLast?_push (base : String) (component : Component part) :
    (push base part).toList.getLast? = part.toList.getLast? := by
  rw [push_component base component, String.toList_append, List.getLast?_append]
  obtain ⟨last, found⟩ := Option.isSome_iff_exists.mp
    (List.getLast?_isSome.mpr component.toList_ne_nil)
  rw [found]
  rfl

/-- The extension is what stands behind the last dot of a name. -/
theorem splitExtension_named {before extension : List Char} {last : Char}
    (named : before.getLast? = some last) (inside : last ≠ '/')
    (plain : extension.all (fun character => character ≠ '.' ∧ character ≠ '/') = true) :
    splitExtension (before ++ '.' :: extension) = (before, some extension) := by
  have reversed : (before ++ '.' :: extension).reverse =
      extension.reverse ++ '.' :: before.reverse := by simp
  have taken : (extension.reverse ++ '.' :: before.reverse).takeWhile
      (fun character => character ≠ '.' ∧ character ≠ '/') = extension.reverse := by
    rw [List.takeWhile_append_of_pos fun character member =>
      List.all_eq_true.mp plain character (List.mem_reverse.mp member)]
    simp
  have front : before.reverse.head? = some last := by rw [List.head?_reverse, named]
  unfold splitExtension
  dsimp only
  rw [reversed, taken, List.reverse_reverse, ← List.length_reverse, List.drop_left]
  simp only [front, reduceCtorEq, Option.some.injEq, inside, or_self, if_false,
    List.reverse_reverse]

/-- Walk down from a directory; `..` goes back up, but not above the directory. -/
def descend : List (List Char) → List (List Char) → Option (List (List Char))
  | reached, [] => some reached
  | reached, part :: rest =>
      if part = [] ∨ part = ['.'] then descend reached rest
      else if part = ['.', '.'] then
        if reached = [] then none else descend reached.dropLast rest
      else descend (reached ++ [part]) rest

/-- A path that leads below a directory, and not to the directory itself. -/
def Inside (base path : String) : Prop :=
  ∃ rest reached, path.toList = (lead base).toList ++ rest ∧
    descend [] (rest.splitOn '/') = some reached ∧ reached ≠ []

/-- A name for a file, which is not one of the two names every directory has. -/
structure Name (part : String) : Prop extends Component part where
  other : part ≠ "."
  below : part ≠ ".."

theorem splitOn_component (component : Component part) :
    part.toList.splitOn '/' = [part.toList] := by
  have split : (['/'].intercalate [part.toList]).splitOn '/' = [part.toList] :=
    List.splitOn_intercalate '/' (by simpa using component.unparted) (by simp)
  simpa [List.intercalate] using split

theorem splitOn_components (outer : Component first) (inner : Component second) :
    (first.toList ++ '/' :: second.toList).splitOn '/' = [first.toList, second.toList] := by
  have split : (['/'].intercalate [first.toList, second.toList]).splitOn '/' =
      [first.toList, second.toList] :=
    List.splitOn_intercalate '/' (by simpa using ⟨outer.unparted, inner.unparted⟩) (by simp)
  simpa [List.intercalate] using split

theorem descend_name (name : Name part) (reached rest : List (List Char)) :
    descend reached (part.toList :: rest) = descend (reached ++ [part.toList]) rest := by
  have here : part.toList ≠ ['.'] := fun same => name.other (String.toList_inj.mp same)
  have above : part.toList ≠ ['.', '.'] := fun same => name.below (String.toList_inj.mp same)
  rw [descend, if_neg (not_or.mpr ⟨name.toList_ne_nil, here⟩), if_neg above]

theorem inside_push (base : String) (name : Name part) : Inside base (push base part) := by
  refine ⟨part.toList, [part.toList], ?_, ?_, by simp⟩
  · rw [push_component base name.toComponent, String.toList_append]
  · rw [splitOn_component name.toComponent, descend_name name]
    rfl

theorem inside_push_push (base : String) (outer : Name first) (inner : Name second) :
    Inside base (push (push base first) second) := by
  refine ⟨first.toList ++ '/' :: second.toList, [first.toList, second.toList], ?_, ?_, by simp⟩
  · rw [push_push_component base outer.toComponent inner.toComponent]
    simp
  · rw [splitOn_components outer.toComponent inner.toComponent, descend_name outer,
      descend_name inner]
    rfl

theorem not_inside_push (base : String) (component : Component part) (unnamed : ¬ Name part) :
    ¬ Inside base (push base part) := by
  rw [push_component base component]
  intro inside
  obtain ⟨rest, reached, same, walked, strict⟩ := inside
  rw [String.toList_append] at same
  have whole := List.append_cancel_left same
  rw [← whole, splitOn_component component, descend, descend, descend, descend] at walked
  refine unnamed ⟨component, fun here => ?_, fun above => ?_⟩
  · rw [here] at walked
    exact strict (Option.some.inj walked).symm
  · rw [above] at walked
    cases walked

end Rtunnel.Data.Paths
