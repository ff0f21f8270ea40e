import Mathlib.Data.List.DropRight
import Mathlib.Order.Basic

namespace Rtunnel.Data.Words

/-! Texts cut into words at a mark.

Squeezing a text replaces each pair of marks by one, from left to right, and is
repeated until there is no pair.  What is left without its outer marks is the
words of the text with one mark between them, and it determines the words; it
has no pair.
-/

variable {α : Type}

/-- A word in front of others, unless it is empty. -/
def close (pieces : List α × List (List α)) : List (List α) :=
  if pieces.1 = [] then pieces.2 else pieces.1 :: pieces.2

def join (mark : α) (pieces : List (List α)) : List α := [mark].intercalate pieces

theorem join_eq_nil_iff {mark : α} {pieces : List (List α)}
    (filled : ∀ word ∈ pieces, word ≠ []) :
    join mark pieces = [] ↔ pieces = [] := by
  cases pieces with
  | nil => exact iff_of_true rfl rfl
  | cons first rest =>
      refine iff_of_false (fun empty => ?_) (by simp)
      cases rest with
      | nil => exact filled first List.mem_cons_self (by simpa [join] using empty)
      | cons second rest => simp [join, List.intercalate_cons_cons] at empty

theorem mem_join {mark item : α} {pieces : List (List α)} (member : item ∈ join mark pieces) :
    item = mark ∨ ∃ word ∈ pieces, item ∈ word := by
  induction pieces with
  | nil => cases member
  | cons first rest ih =>
      cases rest with
      | nil => exact .inr ⟨first, List.mem_cons_self, by simpa [join] using member⟩
      | cons second rest =>
          rw [join, List.intercalate_cons_cons, List.append_assoc, List.mem_append] at member
          rcases member with here | later
          · exact .inr ⟨first, List.mem_cons_self, here⟩
          · rcases List.mem_cons.mp later with same | later
            · exact .inl same
            · rcases ih later with same | ⟨word, listed, within⟩
              · exact .inl same
              · exact .inr ⟨word, List.mem_cons_of_mem _ listed, within⟩

theorem join_cons_item (mark item : α) (word : List α) (rest : List (List α)) :
    join mark ((item :: word) :: rest) = item :: join mark (word :: rest) := by
  cases rest with
  | nil => simp [join]
  | cons second rest => simp [join, List.intercalate_cons_cons]

variable [DecidableEq α] (mark : α)

/-- What stands before the first mark, and the words behind it. -/
def cut : List α → List α × List (List α)
  | [] => ([], [])
  | item :: rest =>
      if item = mark then ([], close (cut rest)) else (item :: (cut rest).1, (cut rest).2)

/-- The longest pieces of a text without a mark. -/
def words (text : List α) : List (List α) := close (cut mark text)

def hasPair : List α → Bool
  | first :: second :: rest => (first = mark ∧ second = mark) || hasPair (second :: rest)
  | _ => false

def squeeze : List α → List α
  | first :: second :: rest =>
      if first = mark ∧ second = mark then mark :: squeeze rest
      else first :: squeeze (second :: rest)
  | text => text

/-- At most so many rounds of squeezing, until there is no pair. -/
def squeezeAll : Nat → List α → List α
  | 0, text => text
  | rounds + 1, text =>
      if hasPair mark text then squeezeAll rounds (squeeze mark text) else text

/-- The loop that squeezes, as long as there is a pair; so many rounds are looked at. -/
def squeezeLoop : Nat → List α → Option (List α)
  | 0, _ => none
  | rounds + 1, text =>
      if hasPair mark text then squeezeLoop rounds (squeeze mark text) else some text

/-- The text without the marks at its ends. -/
def trimMarks (text : List α) : List α :=
  (text.dropWhile fun item => item = mark).rdropWhile fun item => item = mark

variable {mark}

theorem cut_mark (rest : List α) : cut mark (mark :: rest) = ([], words mark rest) := by
  rw [cut, if_pos rfl, words]

theorem words_mark (rest : List α) : words mark (mark :: rest) = words mark rest := by
  rw [words, cut_mark]
  rfl

theorem cut_squeeze (text : List α) : cut mark (squeeze mark text) = cut mark text := by
  fun_induction squeeze mark text with
  | case1 first second rest pair ih =>
      rw [pair.1, pair.2, cut_mark, cut_mark, words_mark, words, ih, words]
  | case2 first second rest unpaired ih => rw [cut, cut, ih]
  | case3 text _ => rfl

theorem length_squeeze_le (text : List α) : (squeeze mark text).length ≤ text.length := by
  fun_induction squeeze mark text with
  | case1 first second rest pair ih =>
      simp only [List.length_cons]
      omega
  | case2 first second rest unpaired ih =>
      simp only [List.length_cons] at ih ⊢
      omega
  | case3 text _ => exact Nat.le_refl _

theorem length_squeeze_lt {text : List α} (paired : hasPair mark text = true) :
    (squeeze mark text).length < text.length := by
  fun_induction squeeze mark text with
  | case1 first second rest pair ih =>
      have shorter : (squeeze mark rest).length ≤ rest.length := length_squeeze_le rest
      simp only [List.length_cons]
      omega
  | case2 first second rest unpaired ih =>
      have later : hasPair mark (second :: rest) = true := by
        simpa [hasPair, unpaired] using paired
      have shorter := ih later
      simp only [List.length_cons] at shorter ⊢
      omega
  | case3 text short =>
      unfold hasPair at paired
      split at paired
      · exact absurd rfl (short _ _ _)
      · cases paired

theorem words_squeezeAll (rounds : Nat) (text : List α) :
    words mark (squeezeAll mark rounds text) = words mark text := by
  induction rounds generalizing text with
  | zero => rfl
  | succ rounds ih =>
      rw [squeezeAll]
      split
      · rw [ih, words, cut_squeeze, words]
      · rfl

/-- As many rounds as the text is long leave no pair. -/
theorem hasPair_squeezeAll {rounds : Nat} {text : List α} (enough : text.length ≤ rounds) :
    hasPair mark (squeezeAll mark rounds text) = false := by
  induction rounds generalizing text with
  | zero =>
      have empty := List.length_eq_zero_iff.mp (Nat.le_zero.mp enough)
      subst empty
      rfl
  | succ rounds ih =>
      rw [squeezeAll]
      split
      · rename_i paired
        have shorter := length_squeeze_lt paired
        exact ih (by omega)
      · rename_i unpaired
        exact Bool.eq_false_iff.mpr unpaired

/-- The loop ends, after no more rounds than the text is long. -/
theorem squeezeLoop_ends {rounds bound : Nat} {text : List α} (enough : text.length < rounds)
    (bounded : text.length ≤ bound) :
    squeezeLoop mark rounds text = some (squeezeAll mark bound text) := by
  induction rounds generalizing bound text with
  | zero => omega
  | succ rounds ih =>
      rw [squeezeLoop]
      by_cases paired : hasPair mark text = true
      · have shorter := length_squeeze_lt paired
        cases bound with
        | zero => omega
        | succ bound =>
            have fewer : (squeeze mark text).length ≤ bound := by omega
            rw [if_pos paired, squeezeAll, if_pos paired, ih (by omega) fewer]
      · rw [if_neg paired]
        cases bound with
        | zero => rfl
        | succ bound => rw [squeezeAll, if_neg paired]

/-- What every word of a text is: not empty, without a mark, made of the text's items. -/
structure IsWord (mark : α) (text word : List α) : Prop where
  filled : word ≠ []
  unmarked : mark ∉ word
  within : ∀ item ∈ word, item ∈ text

omit [DecidableEq α] in
theorem isWord_of_close {text : List α} {pieces : List α × List (List α)}
    (unmarked : mark ∉ pieces.1) (within : ∀ item ∈ pieces.1, item ∈ text)
    (behind : ∀ word ∈ pieces.2, IsWord mark text word) :
    ∀ word ∈ close pieces, IsWord mark text word := by
  unfold close
  split
  · exact behind
  · rename_i filled
    exact List.forall_mem_cons.mpr ⟨⟨filled, unmarked, within⟩, behind⟩

theorem cut_pieces (text : List α) :
    mark ∉ (cut mark text).1 ∧ (∀ item ∈ (cut mark text).1, item ∈ text) ∧
      ∀ word ∈ (cut mark text).2, IsWord mark text word := by
  induction text with
  | nil => simp [cut]
  | cons first rest ih =>
      obtain ⟨unmarked, within, behind⟩ := ih
      have later : ∀ item ∈ (cut mark rest).1, item ∈ first :: rest :=
        fun item member => List.mem_cons_of_mem _ (within item member)
      have words : ∀ word ∈ (cut mark rest).2, IsWord mark (first :: rest) word :=
        fun word member => ⟨(behind word member).filled, (behind word member).unmarked,
          fun item inside => List.mem_cons_of_mem _ ((behind word member).within item inside)⟩
      rw [cut]
      split
      · exact ⟨List.not_mem_nil, by simp, isWord_of_close unmarked later words⟩
      · rename_i other
        refine ⟨fun member => ?_, List.forall_mem_cons.mpr ⟨List.mem_cons_self, later⟩, words⟩
        rcases List.mem_cons.mp member with same | inside
        · exact other same.symm
        · exact unmarked inside

theorem isWord_of_mem {text word : List α} (listed : word ∈ words mark text) :
    IsWord mark text word := by
  have pieces : mark ∉ (cut mark text).1 ∧ _ := cut_pieces text
  exact isWord_of_close pieces.1 pieces.2.1 pieces.2.2 word listed

/-- Words that are joined can be told apart again. -/
theorem join_injective {first second : List (List α)} (some : first ≠ []) (other : second ≠ [])
    (firstUnmarked : ∀ word ∈ first, mark ∉ word)
    (secondUnmarked : ∀ word ∈ second, mark ∉ word)
    (same : join mark first = join mark second) : first = second := by
  rw [← List.splitOn_intercalate mark firstUnmarked some,
    ← List.splitOn_intercalate mark secondUnmarked other]
  exact congrArg (List.splitOn mark) same

omit [DecidableEq α] in
theorem rdropWhile_cons (test : α → Bool) (item : α) (rest : List α) :
    (item :: rest).rdropWhile test =
      if rest.rdropWhile test = [] ∧ test item then [] else item :: rest.rdropWhile test := by
  unfold List.rdropWhile
  rw [List.reverse_cons, List.dropWhile_append]
  by_cases gone : rest.reverse.dropWhile test = []
  · by_cases dropped : test item = true <;> simp [gone, dropped]
  · simp [gone]

theorem words_cons {item : α} (other : item ≠ mark) (rest : List α) :
    words mark (item :: rest) = (item :: (cut mark rest).1) :: (cut mark rest).2 := by
  rw [words, cut, if_neg other]
  rfl

theorem words_cons_mark {item : α} (other : item ≠ mark) (rest : List α) :
    words mark (item :: mark :: rest) = [item] :: words mark rest := by
  rw [words_cons other, cut_mark]

theorem words_cons_other {item next : α} (other : item ≠ mark) (same : next ≠ mark)
    (rest : List α) : ∃ word later, words mark (next :: rest) = word :: later ∧
      words mark (item :: next :: rest) = (item :: word) :: later := by
  refine ⟨next :: (cut mark rest).1, (cut mark rest).2, words_cons same rest, ?_⟩
  rw [words_cons other, cut, if_neg same]

/-- A text that does not start with a mark starts with its first word. -/
theorem head?_join_words {item : α} (other : item ≠ mark) (rest : List α) :
    (join mark (words mark (item :: rest))).head? = some item := by
  rw [words_cons other, join_cons_item]
  rfl

theorem hasPair_tail {item : α} {rest : List α} (unpaired : hasPair mark (item :: rest) = false) :
    hasPair mark rest = false := by
  cases rest with
  | nil => rfl
  | cons second rest =>
      rw [hasPair, Bool.or_eq_false_iff] at unpaired
      exact unpaired.2

theorem head_of_unpaired {rest : List α} (unpaired : hasPair mark (mark :: rest) = false) :
    rest.head? ≠ some mark := by
  cases rest with
  | nil => simp
  | cons second rest =>
      intro same
      cases Option.some.inj same
      simp [hasPair] at unpaired

/-- A text without pairs is its words, up to one mark at each end. -/
theorem rdropWhile_of_unpaired {text : List α} (unpaired : hasPair mark text = false) :
    (text.rdropWhile fun item => item = mark) =
      (if text.head? = some mark ∧ words mark text ≠ [] then [mark] else []) ++
        join mark (words mark text) := by
  induction text with
  | nil => rfl
  | cons item rest ih =>
      have left := ih (hasPair_tail unpaired)
      by_cases marked : item = mark
      · subst marked
        have unmarked := head_of_unpaired unpaired
        rw [if_neg fun leading => unmarked leading.1, List.nil_append] at left
        have filled : join item (words item rest) = [] ↔ words item rest = [] :=
          join_eq_nil_iff fun word listed => (isWord_of_mem listed).filled
        rw [rdropWhile_cons, left, words_mark]
        by_cases empty : words item rest = []
        · simp [empty, join]
        · have kept := mt filled.mp empty
          simp [empty, kept]
      · have unmarked : ¬ ((item :: rest).head? = some mark ∧ words mark (item :: rest) ≠ []) :=
          fun leading => marked (by simpa using leading.1)
        rw [rdropWhile_cons, if_neg fun dropped => marked (by simpa using dropped.2), left,
          if_neg unmarked, List.nil_append]
        cases rest with
        | nil => simp [words, cut, close, marked, join]
        | cons next rest =>
            by_cases ended : next = mark
            · subst ended
              rw [words_cons_mark marked, words_mark]
              cases words next rest with
              | nil => simp [join]
              | cons second later => simp [join, List.intercalate_cons_cons]
            · obtain ⟨word, later, cutNext, cutItem⟩ := words_cons_other marked ended rest
              have inside : ¬ ((next :: rest).head? = some mark ∧ word :: later ≠ []) :=
                fun leading => ended (by simpa using leading.1)
              rw [cutNext, cutItem, join_cons_item, if_neg inside, List.nil_append]

/-- Squeezing and trimming a text leaves its words with one mark between them. -/
theorem trimMarks_squeezeAll (text : List α) :
    trimMarks mark (squeezeAll mark text.length text) = join mark (words mark text) := by
  have unpaired : hasPair mark (squeezeAll mark text.length text) = false :=
    hasPair_squeezeAll (Nat.le_refl text.length)
  rw [← words_squeezeAll text.length text]
  generalize squeezeAll mark text.length text = squeezed at unpaired
  unfold trimMarks
  cases squeezed with
  | nil => rfl
  | cons item rest =>
      by_cases marked : item = mark
      · subst marked
        have unmarked := head_of_unpaired unpaired
        have kept : rest.dropWhile (fun other => other = item) = rest := by
          cases rest with
          | nil => rfl
          | cons second rest =>
              exact List.dropWhile_cons_of_neg (by simpa using unmarked)
        rw [List.dropWhile_cons_of_pos (by simp), kept,
          rdropWhile_of_unpaired (hasPair_tail unpaired),
          if_neg fun leading => unmarked leading.1, words_mark, List.nil_append]
      · rw [List.dropWhile_cons_of_neg (by simpa using marked), rdropWhile_of_unpaired unpaired,
          if_neg fun leading => marked (by simpa using leading.1), List.nil_append]

theorem hasPair_iff_occurs {text : List α} :
    hasPair mark text = true ↔ [mark, mark] <:+: text := by
  fun_induction hasPair mark text with
  | case1 first second rest ih =>
      rw [Bool.or_eq_true, ih, decide_eq_true_iff,
        @List.infix_cons_iff _ [mark, mark] first (second :: rest)]
      refine or_congr ?_ Iff.rfl
      rw [List.cons_prefix_cons, List.cons_prefix_cons]
      simp [eq_comm]
  | case2 text short =>
      refine iff_of_false (by simp) fun occurs => ?_
      have long := occurs.length_le
      match text, short with
      | [], _ => simp at long
      | [_], _ => simp at long
      | first :: second :: rest, short => exact short first second rest rfl

omit [DecidableEq α] in
/-- What stands behind a text and has no mark in it makes no pair. -/
theorem pair_occurs_of_append {text more : List α} (unmarked : mark ∉ more)
    (paired : [mark, mark] <:+: text ++ more) : [mark, mark] <:+: text := by
  rcases List.infix_append_iff.mp paired with inside | behind | ⟨front, back, same, ends, starts⟩
  · exact inside
  · exact absurd (behind.subset List.mem_cons_self) unmarked
  · cases back with
    | nil =>
        rw [List.append_nil] at same
        rw [same]
        exact ends.isInfix
    | cons item back =>
        have pair : item ∈ [mark, mark] := by
          rw [same]
          simp
        have marked : item = mark := by simpa using pair
        exact absurd (marked ▸ starts.subset List.mem_cons_self) unmarked

/-- Squeezed and trimmed, a text has no pair. -/
theorem not_pair_occurs (text : List α) :
    ¬ [mark, mark] <:+: trimMarks mark (squeezeAll mark text.length text) := by
  have unpaired : hasPair mark (squeezeAll mark text.length text) = false :=
    hasPair_squeezeAll (Nat.le_refl text.length)
  rw [Bool.eq_false_iff, Ne, hasPair_iff_occurs] at unpaired
  intro occurs
  have trimmed : trimMarks mark (squeezeAll mark text.length text) <:+:
      squeezeAll mark text.length text :=
    (List.rdropWhile_prefix _ _).isInfix.trans (List.dropWhile_suffix _).isInfix
  exact unpaired (occurs.trans trimmed)

theorem words_eq_nil_iff {text : List α} : words mark text = [] ↔ ∀ item ∈ text, item = mark := by
  induction text with
  | nil => simp [words, cut, close]
  | cons item rest ih =>
      by_cases marked : item = mark
      · rw [marked, words_mark, ih, List.forall_mem_cons]
        simp
      · rw [words_cons marked]
        exact iff_of_false (by simp) fun all => marked (all item List.mem_cons_self)

theorem cut_eq_of_marks {word after : List α} (unmarked : mark ∉ word)
    (marks : ∀ item ∈ after, item = mark) : cut mark (word ++ after) = (word, []) := by
  induction word with
  | nil =>
      cases after with
      | nil => rfl
      | cons item rest =>
          obtain ⟨marked, later⟩ := List.forall_mem_cons.mp marks
          rw [List.nil_append, marked, cut_mark, words_eq_nil_iff.mpr later]
  | cons item word ih =>
      rw [List.mem_cons, not_or] at unmarked
      rw [List.cons_append, cut, if_neg fun same => unmarked.1 same.symm, ih unmarked.2]

theorem marks_of_cut_eq {text word : List α} (only : cut mark text = (word, [])) :
    ∃ after, text = word ++ after ∧ ∀ item ∈ after, item = mark := by
  induction text generalizing word with
  | nil =>
      cases only
      exact ⟨[], rfl, by simp⟩
  | cons item rest ih =>
      by_cases marked : item = mark
      · rw [marked, cut_mark, Prod.mk.injEq, words_eq_nil_iff] at only
        refine ⟨item :: rest, ?_, List.forall_mem_cons.mpr ⟨marked, only.2⟩⟩
        rw [← only.1, List.nil_append]
      · rw [cut, if_neg marked, Prod.mk.injEq] at only
        obtain ⟨after, same, marks⟩ := ih (Prod.ext rfl only.2)
        exact ⟨after, by rw [← only.1, List.cons_append, ← same], marks⟩

theorem words_between_marks {before word after : List α} (filled : word ≠ [])
    (unmarked : mark ∉ word) (marks : ∀ item ∈ before ++ after, item = mark) :
    words mark (before ++ word ++ after) = [word] := by
  induction before with
  | nil =>
      rw [List.nil_append] at marks ⊢
      rw [words, cut_eq_of_marks unmarked marks, close, if_neg filled]
  | cons item before ih =>
      rw [List.cons_append, List.forall_mem_cons] at marks
      rw [List.cons_append, List.cons_append, marks.1, words_mark, ih marks.2]

/-- A text with one word is that word between marks. -/
theorem words_eq_singleton {text word : List α} (only : words mark text = [word]) :
    ∃ before after, text = before ++ word ++ after ∧ ∀ item ∈ before ++ after, item = mark := by
  induction text with
  | nil => simp [words, cut, close] at only
  | cons item rest ih =>
      by_cases marked : item = mark
      · rw [marked, words_mark] at only
        obtain ⟨before, after, same, marks⟩ := ih only
        refine ⟨item :: before, after, by rw [same]; rfl, ?_⟩
        exact List.forall_mem_cons.mpr ⟨marked, marks⟩
      · rw [words_cons marked, List.cons.injEq] at only
        obtain ⟨after, same, marks⟩ := marks_of_cut_eq (Prod.ext rfl only.2)
        refine ⟨[], after, ?_, marks⟩
        rw [← only.1, List.nil_append, List.cons_append, ← same]

end Rtunnel.Data.Words
