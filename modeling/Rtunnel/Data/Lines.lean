import Mathlib.Data.List.Basic

namespace Rtunnel.Data

/-! Texts and their lines.

A text is cut at its line breaks; a carriage return in front of a break goes
with it, and a break at the very end starts no further line.  Joining the lines
again therefore gives back exactly the texts that have neither.
-/

universe u

structure Breaks (Symbol : Type u) where
  newline : Symbol
  carriageReturn : Symbol
  distinct : newline ≠ carriageReturn

namespace Breaks

variable {Symbol : Type u} (breaks : Breaks Symbol)

def join (texts : List (List Symbol)) : List Symbol := [breaks.newline].intercalate texts

/-- No carriage return stands before a break, and none is at the end. -/
def Plain : List Symbol → Prop
  | [] => True
  | [symbol] => symbol ≠ breaks.newline
  | symbol :: next :: rest =>
      ¬ (symbol = breaks.carriageReturn ∧ next = breaks.newline) ∧ Plain (next :: rest)

@[simp] theorem join_nil : breaks.join [] = [] := rfl

@[simp] theorem join_single (line : List Symbol) : breaks.join [line] = line := by
  simp [join]

theorem join_cons {texts : List (List Symbol)} (more : texts ≠ []) (line : List Symbol) :
    breaks.join (line :: texts) = line ++ breaks.newline :: breaks.join texts := by
  obtain ⟨next, rest, rfl⟩ := List.exists_cons_of_ne_nil more
  simp only [join, List.intercalate_cons_cons, List.append_assoc, List.singleton_append]

theorem plain_of_unbroken {line : List Symbol} (unbroken : breaks.newline ∉ line) :
    breaks.Plain line := by
  induction line with
  | nil => exact trivial
  | cons symbol rest ih =>
      rw [List.mem_cons, not_or] at unbroken
      cases rest with
      | nil => exact Ne.symm unbroken.1
      | cons next rest =>
          refine ⟨fun broken => unbroken.2 ?_, ih unbroken.2⟩
          rw [broken.2]
          exact List.mem_cons_self

theorem plain_append_newline {line : List Symbol} (unbroken : breaks.newline ∉ line)
    (rest : List Symbol) :
    breaks.Plain (line ++ breaks.newline :: rest) ↔
      line.getLast? ≠ some breaks.carriageReturn ∧ breaks.Plain (breaks.newline :: rest) := by
  induction line with
  | nil => simp
  | cons symbol line ih =>
      rw [List.mem_cons, not_or] at unbroken
      cases line with
      | nil => simp [Plain]
      | cons next line =>
          have inside : next ≠ breaks.newline := by
            rintro rfl
            exact unbroken.2 List.mem_cons_self
          rw [List.getLast?_cons_cons, ← ih unbroken.2]
          simp [Plain, inside]

theorem plain_newline_cons (symbol : Symbol) (rest : List Symbol) :
    breaks.Plain (breaks.newline :: symbol :: rest) ↔ breaks.Plain (symbol :: rest) := by
  simp [Plain, breaks.distinct]

variable [DecidableEq Symbol]

instance decidablePlain : (text : List Symbol) → Decidable (breaks.Plain text)
  | [] => .isTrue trivial
  | [_] => inferInstanceAs (Decidable (¬ _))
  | _ :: next :: rest =>
      have := decidablePlain (next :: rest)
      inferInstanceAs (Decidable (_ ∧ _))

def ended (line : List Symbol) : List Symbol :=
  if line.getLast? = some breaks.carriageReturn then line.dropLast else line

/-- Cut a text of which `line` has already been read; the last line keeps a
carriage return of its own. -/
def splitFrom : List Symbol → List Symbol → List (List Symbol)
  | line, [] => if line = [] then [] else [line]
  | line, symbol :: rest =>
      if symbol = breaks.newline then breaks.ended line :: splitFrom [] rest
      else splitFrom (line ++ [symbol]) rest

def lines (text : List Symbol) : List (List Symbol) := breaks.splitFrom [] text

theorem length_ended_le (line : List Symbol) : (breaks.ended line).length ≤ line.length := by
  unfold ended
  split
  · rw [List.length_dropLast]
    omega
  · exact Nat.le_refl _

theorem splitFrom_ne_nil {line text : List Symbol} (some : line ≠ [] ∨ text ≠ []) :
    breaks.splitFrom line text ≠ [] := by
  induction text generalizing line with
  | nil =>
      have pending : line ≠ [] := some.resolve_right fun absent => absent rfl
      simp [splitFrom, pending]
  | cons symbol rest ih =>
      unfold splitFrom
      split
      · exact List.cons_ne_nil _ _
      · exact ih (.inl (by simp))

/-- Joining never makes a text longer. -/
theorem length_join_le (line text : List Symbol) :
    (breaks.join (breaks.splitFrom line text)).length ≤ line.length + text.length := by
  induction text generalizing line with
  | nil =>
      unfold splitFrom
      split <;> simp
  | cons symbol rest ih =>
      unfold splitFrom
      split
      · have short := breaks.length_ended_le line
        by_cases last : rest = []
        · subst last
          simp only [splitFrom, if_true, join_single, List.length_cons, List.length_nil]
          omega
        · have later := ih []
          rw [breaks.join_cons (breaks.splitFrom_ne_nil (.inr last)), List.length_append,
            List.length_cons, List.length_cons]
          rw [List.length_nil] at later
          omega
      · have later := ih (line ++ [symbol])
        rw [List.length_append, List.length_singleton] at later
        rw [List.length_cons]
        omega

theorem join_splitFrom_eq_iff {line : List Symbol} (unbroken : breaks.newline ∉ line)
    (text : List Symbol) :
    breaks.join (breaks.splitFrom line text) = line ++ text ↔ breaks.Plain (line ++ text) := by
  induction text generalizing line with
  | nil =>
      have plain := breaks.plain_of_unbroken unbroken
      by_cases empty : line = []
      · simp [splitFrom, empty, Plain]
      · simp [splitFrom, empty, plain]
  | cons symbol rest ih =>
      by_cases broken : symbol = breaks.newline
      · subst broken
        rw [breaks.plain_append_newline unbroken]
        simp only [splitFrom, if_true]
        cases rest with
        | nil =>
            have short := breaks.length_ended_le line
            simp only [splitFrom, if_true, join_single, Plain, ne_eq, not_true_eq_false, and_false,
              iff_false]
            intro same
            have lengths := congrArg List.length same
            rw [List.length_append, List.length_singleton] at lengths
            omega
        | cons next rest =>
            have more : breaks.splitFrom [] (next :: rest) ≠ [] :=
              breaks.splitFrom_ne_nil (.inr (List.cons_ne_nil _ _))
            rw [breaks.join_cons more, breaks.plain_newline_cons]
            by_cases returned : line.getLast? = some breaks.carriageReturn
            · have shrinks := breaks.length_join_le [] (next :: rest)
              have dropped : (breaks.ended line).length < line.length := by
                have filled : line ≠ [] := by
                  rintro rfl
                  cases returned
                have positive := List.length_pos_iff.mpr filled
                rw [ended, if_pos returned, List.length_dropLast]
                omega
              simp only [returned, ne_eq, not_true_eq_false, false_and, iff_false]
              intro same
              have lengths := congrArg List.length same
              simp only [List.length_append, List.length_cons, List.length_nil] at lengths shrinks
              omega
            · have later := ih (List.not_mem_nil (a := breaks.newline))
              rw [List.nil_append] at later
              rw [ended, if_neg returned, ← later, List.append_cancel_left_eq, List.cons.injEq]
              simp [returned]
      · have pending : breaks.newline ∉ line ++ [symbol] := by
          rw [List.mem_append, List.mem_singleton, not_or]
          exact ⟨unbroken, Ne.symm broken⟩
        have later := ih pending
        rw [List.append_assoc, List.singleton_append] at later
        simpa only [splitFrom, broken, if_false] using later

/-- Exactly the plain texts are their lines joined. -/
theorem join_lines_eq_iff (text : List Symbol) :
    breaks.join (breaks.lines text) = text ↔ breaks.Plain text :=
  breaks.join_splitFrom_eq_iff List.not_mem_nil text

theorem splitFrom_unbroken {text : List Symbol} (unbroken : breaks.newline ∉ text)
    (line : List Symbol) :
    breaks.splitFrom line text = if line ++ text = [] then [] else [line ++ text] := by
  induction text generalizing line with
  | nil => simp [splitFrom]
  | cons symbol rest ih =>
      rw [List.mem_cons, not_or] at unbroken
      have later := ih unbroken.2 (line ++ [symbol])
      rw [List.append_assoc, List.singleton_append] at later
      simpa only [splitFrom, Ne.symm unbroken.1, if_false] using later

theorem splitFrom_newline {start : List Symbol} (unbroken : breaks.newline ∉ start)
    (line rest : List Symbol) :
    breaks.splitFrom line (start ++ breaks.newline :: rest) =
      breaks.ended (line ++ start) :: breaks.lines rest := by
  induction start generalizing line with
  | nil => simp [splitFrom, lines]
  | cons symbol start ih =>
      rw [List.mem_cons, not_or] at unbroken
      have later := ih unbroken.2 (line ++ [symbol])
      rw [List.append_assoc, List.singleton_append] at later
      simpa only [List.cons_append, splitFrom, Ne.symm unbroken.1, if_false] using later

theorem lines_join_single {line : List Symbol} (unbroken : breaks.newline ∉ line) :
    breaks.lines (breaks.join [line]) = if line = [] then [] else [line] := by
  rw [join_single, lines, breaks.splitFrom_unbroken unbroken, List.nil_append]

theorem lines_join_cons {line : List Symbol} (unbroken : breaks.newline ∉ line)
    {texts : List (List Symbol)} (more : texts ≠ []) :
    breaks.lines (breaks.join (line :: texts)) =
      breaks.ended line :: breaks.lines (breaks.join texts) := by
  rw [breaks.join_cons more, lines, breaks.splitFrom_newline unbroken, List.nil_append]

theorem ended_subset (line : List Symbol) : breaks.ended line ⊆ line := by
  unfold ended
  split
  · exact List.dropLast_subset line
  · exact fun _ member => member

theorem splitFrom_lines_unbroken {line : List Symbol} (unbroken : breaks.newline ∉ line)
    (text : List Symbol) : ∀ found ∈ breaks.splitFrom line text, breaks.newline ∉ found := by
  induction text generalizing line with
  | nil =>
      intro found member
      unfold splitFrom at member
      split at member
      · cases member
      · rw [List.mem_singleton.mp member]
        exact unbroken
  | cons symbol rest ih =>
      intro found member
      unfold splitFrom at member
      split at member
      · rcases List.mem_cons.mp member with rfl | later
        · exact fun broken => unbroken (breaks.ended_subset line broken)
        · exact ih (List.not_mem_nil (a := breaks.newline)) found later
      · rename_i different
        refine ih ?_ found member
        rw [List.mem_append, List.mem_singleton, not_or]
        exact ⟨unbroken, Ne.symm different⟩

theorem lines_unbroken (text : List Symbol) :
    ∀ line ∈ breaks.lines text, breaks.newline ∉ line :=
  breaks.splitFrom_lines_unbroken List.not_mem_nil text

end Breaks

end Rtunnel.Data
