import Mathlib.Data.String.Basic
import Rtunnel.Acme.Account
import Rtunnel.Acme.Targets
import Rtunnel.Data.Checked

namespace Rtunnel.Acme

open Rtunnel.Data Rtunnel.Data.Paths Rtunnel.Data.Words Rtunnel.Data.Validation
open Rtunnel.Anytls (Failure)

/-! Slugs are safe parts of paths, unless they are nothing but dots.

The loop over pairs of underscores ends, and the cut of a long slug stands
between two characters, since a slug has only ASCII characters.  What is left
unguarded are the names `.` and `..`, which are words like others.
-/

/-- The function with its loop and its slices, watched for so many rounds. -/
def runStableSlug (upstream : AcmeUpstream) (rounds : Nat) (input : String) :
    Option (Checked Failure String) :=
  (squeezeLoop '_' rounds (input.toList.map slugChar)).map fun slug => do
    let slug := trimMarks '_' slug
    let slug := if slug = [] then "default".toList else slug
    if (String.ofList slug).utf8ByteSize ≤ 120 then return String.ofList slug
    let digest := upstream.sha256 (utf8Bytes input)
    let front ← Checked.sliceText slug 96
    let piece ← Checked.sliceTo digest.bytes 8
    return String.ofList (front ++ '-' :: hexEncode piece)

theorem utf8Size_of_alphabet {ch : Char} (listed : slugAlphabet ch = true) : ch.utf8Size = 1 := by
  rw [Char.utf8Size_eq_one_iff, UInt32.le_iff_toNat_le]
  change ch.toNat ≤ 127
  simp [slugAlphabet, isLower_iff, Char.isDigit, UInt32.le_iff_toNat_le] at listed
  rcases listed with (((lower | digit) | rfl) | rfl) | rfl
  · omega
  · omega
  all_goals decide

theorem utf8Len_of_alphabet {text : List Char} (spelled : ∀ ch ∈ text, slugAlphabet ch = true) :
    String.utf8Len text = text.length := by
  induction text with
  | nil => rfl
  | cons ch rest ih =>
      obtain ⟨listed, later⟩ := List.forall_mem_cons.mp spelled
      rw [String.utf8Len_cons, ih later, utf8Size_of_alphabet listed, List.length_cons]

/-- The loop ends, and no slice panics. -/
theorem runStableSlug_returns (upstream : AcmeUpstream) {rounds : Nat} {input : String}
    (enough : input.toList.length < rounds) :
    runStableSlug upstream rounds input = some (.returns (stableSlug upstream input)) := by
  have ended : squeezeLoop '_' rounds (input.toList.map slugChar) =
      some (squeezeAll '_' (input.toList.map slugChar).length (input.toList.map slugChar)) :=
    squeezeLoop_ends (by rwa [List.length_map]) (Nat.le_refl _)
  have spelled : ∀ ch ∈ plainSlug input, slugAlphabet ch = true := by
    rw [plainSlug_eq]
    exact slugWords_alphabet input
  have size : (String.ofList (plainSlug input)).utf8ByteSize = (plainSlug input).length := by
    rw [String.utf8ByteSize_ofList, utf8Len_of_alphabet spelled]
  unfold runStableSlug
  rw [ended, Option.map_some]
  change some (if (String.ofList (plainSlug input)).utf8ByteSize ≤ 120 then _ else _) = _
  rw [size]
  unfold stableSlug
  dsimp only
  by_cases short : (plainSlug input).length ≤ 120
  · rw [if_pos short, if_pos short]
    rfl
  · have front : (Checked.sliceText (plainSlug input) 96 : Checked Failure (List Char)) =
        .returns ((plainSlug input).take 96) :=
      Checked.sliceText_of_le (fun ch member => utf8Size_of_alphabet (spelled ch member)) (by omega)
    have piece : (Checked.sliceTo (upstream.sha256 (utf8Bytes input)).bytes 8 :
        Checked Failure (List UInt8)) =
        .returns ((upstream.sha256 (utf8Bytes input)).bytes.take 8) :=
      Checked.sliceTo_of_le (by rw [Octets.length_eq]; omega)
    rw [if_neg short, if_neg short]
    change some (Checked.sliceText (plainSlug input) 96 >>= _) = _
    rw [front, Checked.returns_bind, piece, Checked.returns_bind]
    rfl

theorem hexEncode_length (bytes : List UInt8) : (hexEncode bytes).length = 2 * bytes.length := by
  simp [hexEncode, Nat.mul_comm]

theorem hashedName_length (upstream : AcmeUpstream) {input : String} (long : ¬ Short input) :
    (hashedName upstream input).length = 113 := by
  have size := Nat.lt_of_not_le long
  rw [hashedName, List.length_append, List.length_cons, hexEncode_length, List.length_take,
    List.length_take, Octets.length_eq]
  omega

theorem stableSlug_bounded (upstream : AcmeUpstream) (input : String) :
    (stableSlug upstream input).utf8ByteSize ≤ 120 := by
  rw [← String.ofList_toList (s := stableSlug upstream input), String.utf8ByteSize_ofList,
    utf8Len_of_alphabet (stableSlug_alphabet upstream input)]
  by_cases short : Short input
  · rw [stableSlug_of_short upstream short]
    exact short
  · rw [stableSlug_of_long upstream short, hashedName_length upstream short]
    decide

theorem slugWords_unpaired (input : String) : ¬ ['_', '_'] <:+: join '_' (slugWords input) := by
  unfold slugWords
  split
  · decide
  · rw [← trimMarks_squeezeAll]
    exact not_pair_occurs _

theorem stableSlug_unpaired (upstream : AcmeUpstream) (input : String) :
    ¬ ['_', '_'] <:+: (stableSlug upstream input).toList := by
  by_cases short : Short input
  · rw [stableSlug_of_short upstream short]
    exact slugWords_unpaired input
  · rw [stableSlug_of_long upstream short, hashedName]
    intro occurs
    have unmarked : '_' ∉ '-' :: hexEncode ((upstream.sha256 (utf8Bytes input)).bytes.take 8) := by
      rw [List.mem_cons, not_or]
      exact ⟨by decide, fun member => (hexEncode_alphabet _ _ member).2 rfl⟩
    have front := pair_occurs_of_append unmarked occurs
    exact slugWords_unpaired input (front.trans (List.take_prefix _ _).isInfix)

/-- Nothing but one dot, or two next to each other, between characters that
count as underscores. -/
def OnlyDots (input : String) : Prop :=
  ∃ before dots after, input.toList = before ++ dots ++ after ∧
    (∀ ch ∈ before ++ after, slugChar ch = '_') ∧ (dots = ['.'] ∨ dots = ['.', '.'])

theorem slugChar_eq_dot {ch : Char} (dotted : slugChar ch = '.') : ch = '.' := by
  unfold slugChar at dotted
  split at dotted
  · cases upper : ch.isUpper with
    | true =>
        have lower := isLower_toLower_of_isUpper upper
        rw [dotted] at lower
        cases lower
    | false => rwa [toLower_of_not_isUpper upper] at dotted
  · cases dotted

theorem map_slugChar_dots {dots : List Char} (dotted : ∀ ch ∈ dots, ch = '.') :
    dots.map slugChar = dots := by
  have each : ∀ ch ∈ dots, slugChar ch = id ch := by
    intro ch member
    rw [dotted ch member]
    rfl
  rw [List.map_congr_left each, List.map_id]

theorem eq_dots_of_map {text dots : List Char} (dotted : ∀ ch ∈ dots, ch = '.')
    (same : text.map slugChar = dots) : text = dots := by
  rw [← same]
  refine (map_slugChar_dots fun ch member => ?_).symm
  exact slugChar_eq_dot (dotted _ (same ▸ List.mem_map_of_mem member))

theorem words_eq_dots_iff {input : String} {dots : List Char} (filled : dots ≠ [])
    (dotted : ∀ ch ∈ dots, ch = '.') :
    words '_' (input.toList.map slugChar) = [dots] ↔ ∃ before after,
      input.toList = before ++ dots ++ after ∧ ∀ ch ∈ before ++ after, slugChar ch = '_' := by
  constructor
  · intro only
    obtain ⟨front, back, same, marks⟩ := words_eq_singleton only
    obtain ⟨first, after, whole, firstSame, afterSame⟩ := List.map_eq_append_iff.mp same
    obtain ⟨before, middle, split, beforeSame, middleSame⟩ := List.map_eq_append_iff.mp firstSame
    refine ⟨before, after, ?_, fun ch member => ?_⟩
    · rw [whole, split, eq_dots_of_map dotted middleSame]
    · refine marks (slugChar ch) ?_
      rw [← beforeSame, ← afterSame, ← List.map_append]
      exact List.mem_map_of_mem member
  · intro found
    obtain ⟨before, after, same, marks⟩ := found
    have unmarked : '_' ∉ dots := fun member => absurd (dotted _ member) (by decide)
    rw [same, List.map_append, List.map_append, map_slugChar_dots dotted]
    refine words_between_marks filled unmarked fun ch member => ?_
    rw [← List.map_append] at member
    obtain ⟨source, listed, mapped⟩ := List.mem_map.mp member
    rw [← mapped]
    exact marks source listed

theorem slugWords_eq_dots_iff {input : String} {dots : List Char}
    (dotted : ∀ ch ∈ dots, ch = '.') :
    slugWords input = [dots] ↔ words '_' (input.toList.map slugChar) = [dots] := by
  unfold slugWords
  split
  · rename_i wordless
    rw [wordless]
    refine iff_of_false (fun same => ?_) (by simp)
    have letter : 'd' ∈ dots := by
      rw [← (List.cons.inj same).1]
      decide
    exact absurd (dotted _ letter) (by decide)
  · exact Iff.rfl

theorem stableSlug_eq_dots_iff (upstream : AcmeUpstream) {input : String} {dots : List Char}
    (filled : dots ≠ []) (dotted : ∀ ch ∈ dots, ch = '.') (few : dots.length ≤ 2) :
    (stableSlug upstream input).toList = dots ↔ ∃ before after,
      input.toList = before ++ dots ++ after ∧ ∀ ch ∈ before ++ after, slugChar ch = '_' := by
  rw [← words_eq_dots_iff filled dotted, ← slugWords_eq_dots_iff dotted]
  have single : join '_' [dots] = dots := by simp [join]
  have unmarked : '_' ∉ dots := fun member => absurd (dotted _ member) (by decide)
  by_cases short : Short input
  · rw [stableSlug_of_short upstream short]
    constructor
    · intro same
      exact join_injective (slugWords_ne_nil input) (by simp) (slugWords_unmarked input)
        (by simpa using unmarked) (same.trans single.symm)
    · intro same
      rw [same, single]
  · refine iff_of_false (fun same => ?_) fun same => ?_
    · have size := hashedName_length upstream short
      rw [← stableSlug_of_long upstream short, same] at size
      omega
    · refine short ?_
      rw [Short, same, single]
      omega

/-- The two names that every directory has are the slugs of exactly these texts. -/
theorem onlyDots_iff (upstream : AcmeUpstream) (input : String) :
    OnlyDots input ↔ stableSlug upstream input = "." ∨ stableSlug upstream input = ".." := by
  have one : (stableSlug upstream input).toList = ['.'] ↔ _ :=
    stableSlug_eq_dots_iff upstream (by simp) (by simp) (by simp)
  have two : (stableSlug upstream input).toList = ['.', '.'] ↔ _ :=
    stableSlug_eq_dots_iff upstream (by simp) (by simp) (by simp)
  rw [← String.toList_inj, ← String.toList_inj, show ".".toList = ['.'] from rfl,
    show "..".toList = ['.', '.'] from rfl, one, two]
  constructor
  · intro found
    obtain ⟨before, dots, after, same, marks, single | double⟩ := found
    · exact .inl ⟨before, after, by rw [same, single], marks⟩
    · exact .inr ⟨before, after, by rw [same, double], marks⟩
  · intro found
    rcases found with ⟨before, after, same, marks⟩ | ⟨before, after, same, marks⟩
    · exact ⟨before, ['.'], after, same, marks, .inl rfl⟩
    · exact ⟨before, ['.', '.'], after, same, marks, .inr rfl⟩

theorem name_stableSlug_iff (upstream : AcmeUpstream) (input : String) :
    Name (stableSlug upstream input) ↔ ¬ OnlyDots input := by
  rw [onlyDots_iff upstream, not_or]
  constructor
  · intro name
    exact ⟨name.other, name.below⟩
  · intro others
    exact ⟨component_stableSlug upstream input, others.1, others.2⟩

theorem name_accountFile (upstream : AcmeUpstream) (directory : String) :
    Name (directorySlug upstream directory ++ ".json") := by
  have long : 2 < (directorySlug upstream directory ++ ".json").toList.length := by
    rw [String.toList_append, List.length_append, show ".json".toList.length = 5 from rfl]
    omega
  refine ⟨component_accountFile upstream directory, fun here => ?_, fun above => ?_⟩
  · rw [here] at long
    exact absurd long (by decide)
  · rw [above] at long
    exact absurd long (by decide)

theorem name_certFile : Name certFile := ⟨by decide, by decide, by decide⟩

theorem name_keyFile : Name keyFile := ⟨by decide, by decide, by decide⟩

/-- A safe part of a path: the call returns, its result is a short text of
harmless characters, and what is stored under it stays below its directory. -/
structure SafeSlug (upstream : AcmeUpstream) (input : String) : Prop where
  returns : ∃ rounds, ∀ more, rounds ≤ more →
    runStableSlug upstream more input = some (.returns (stableSlug upstream input))
  filled : stableSlug upstream input ≠ ""
  bounded : (stableSlug upstream input).utf8ByteSize ≤ 120
  spelled : ∀ ch ∈ (stableSlug upstream input).toList, slugAlphabet ch = true
  unpaired : ¬ ['_', '_'] <:+: (stableSlug upstream input).toList
  other : stableSlug upstream input ≠ "."
  below : stableSlug upstream input ≠ ".."
  cached : ∀ (acmeCfg : AcmeConfig) (domains : List String) (directory : String)
    (target : AcmeTarget), "_".intercalate domains = input →
    directoryUrl upstream acmeCfg.directory = .ok directory →
    targetForDomains upstream acmeCfg domains = .ok target →
    ∀ path ∈ [target.dir, target.certPath, target.keyPath],
      Inside (certificatesDir upstream acmeCfg directory) path
  account : ∀ cfg : AcmeConfig, cfg.directory = input →
    Inside (accountsDir cfg) (accountPath upstream cfg)

theorem target_inside {upstream : AcmeUpstream} {acmeCfg : AcmeConfig} {domains : List String}
    {directory : String} {target : AcmeTarget}
    (name : Name (stableSlug upstream ("_".intercalate domains)))
    (accepted : directoryUrl upstream acmeCfg.directory = .ok directory)
    (made : targetForDomains upstream acmeCfg domains = .ok target) :
    ∀ path ∈ [target.dir, target.certPath, target.keyPath],
      Inside (certificatesDir upstream acmeCfg directory) path := by
  unfold targetForDomains at made
  rw [accepted] at made
  obtain rfl := Except.ok.inj made
  simp only [List.forall_mem_cons, targetIn]
  exact ⟨inside_push _ name, inside_push_push _ name name_certFile,
    inside_push_push _ name name_keyFile, by simp⟩

/-- A slug is a safe part of a path exactly if the text is not dots alone. -/
theorem slug_is_safe_iff (upstream : AcmeUpstream) (input : String) :
    SafeSlug upstream input ↔ ¬ OnlyDots input := by
  constructor
  · intro safe
    rw [onlyDots_iff upstream, not_or]
    exact ⟨safe.other, safe.below⟩
  · intro others
    have name := (name_stableSlug_iff upstream input).mpr others
    exact {
      returns := ⟨input.toList.length + 1, fun more enough => runStableSlug_returns upstream enough⟩
      filled := name.filled
      bounded := stableSlug_bounded upstream input
      spelled := stableSlug_alphabet upstream input
      unpaired := stableSlug_unpaired upstream input
      other := name.other
      below := name.below
      cached := fun acmeCfg domains directory target same accepted made =>
        target_inside (same ▸ name) accepted made
      account := fun cfg _ => inside_push _ (name_accountFile upstream cfg.directory) }

/-- A domain that passes the checks at startup; its certificate is stored in the
directory that all ACME directories share. -/
theorem dotted_domain_leaves_cache :
    TlsServerConfig.validate ⟨none, none, some ⟨[".."]⟩⟩ "in" = .ok () ∧
      stableSlug sampleUpstream ".." = ".." ∧
      (∃ target, targetForDomains sampleUpstream .default [".."] = .ok target ∧
        ¬ Inside (certificatesDir sampleUpstream .default stagingDirectory) target.dir) ∧
      ¬ SafeSlug sampleUpstream ".." := by
  have dotted : stableSlug sampleUpstream ".." = ".." := by decide +kernel
  have joined : domainSlug sampleUpstream [".."] = ".." := dotted
  have made : targetForDomains sampleUpstream .default [".."] =
      .ok (targetIn sampleUpstream (certificatesDir sampleUpstream .default stagingDirectory)
        [".."]) := by
    unfold targetForDomains
    rw [accepted_default]
    rfl
  refine ⟨by decide +kernel, dotted, ⟨_, made, ?_⟩, fun safe => safe.below dotted⟩
  rw [targetIn_dir]
  exact not_inside_push _ (component_stableSlug _ _) fun name => name.below joined

end Rtunnel.Acme
