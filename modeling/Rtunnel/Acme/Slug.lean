import Mathlib.Tactic.Common
import Rtunnel.Config.Validate
import Rtunnel.Data.Paths
import Rtunnel.Data.Words

namespace Rtunnel.Acme

open Rtunnel.Data Rtunnel.Data.Paths Rtunnel.Data.Words
open Rtunnel.Anytls (Failure trim)

/-! Names of cache files.

A directory or a list of domains becomes a file name by a slug: its words in
lower case, with an underscore between them.  Only a slug of more than 120
characters is cut and gets a digest of the whole text.  Different texts can have
the same words, and different long texts the same pieces; `SharesSlug` says which
texts end up under one name.
-/

/-- SHA-256, and the directories that the ACME client knows by name. -/
structure AcmeUpstream where
  sha256 : List UInt8 → Octets 32
  letsEncryptStaging : String
  letsEncryptProduction : String

def hexEncode (bytes : List UInt8) : List Char :=
  bytes.flatMap fun byte => [Nat.digitChar (byte.toNat / 16), Nat.digitChar (byte.toNat % 16)]

def slugChar (ch : Char) : Char :=
  if ch.isAlphanum || ch == '.' || ch == '-' || ch == '_' then ch.toLower else '_'

/-- The slug before its length is looked at.  The loop that replaces two
underscores by one is given as many rounds as there are characters. -/
def plainSlug (input : String) : List Char :=
  let slug := input.toList.map slugChar
  let slug := trimMarks '_' (squeezeAll '_' slug.length slug)
  if slug = [] then "default".toList else slug

/-- All characters of a slug are ASCII, so that characters count as bytes do. -/
def stableSlug (upstream : AcmeUpstream) (input : String) : String :=
  let slug := plainSlug input
  if slug.length ≤ 120 then String.ofList slug
  else
    let digest := upstream.sha256 (utf8Bytes input)
    String.ofList (slug.take 96 ++ '-' :: hexEncode (digest.bytes.take 8))

def domainSlug (upstream : AcmeUpstream) (domains : List String) : String :=
  stableSlug upstream ("_".intercalate domains)

def stagingNames : List String := ["letsencrypt-staging", "letsencrypt_staging", "staging"]

def productionNames : List String :=
  ["letsencrypt-production", "letsencrypt_production", "production"]

/-- `raw.trim().to_ascii_lowercase()` -/
def directoryName (raw : String) : String := String.ofList ((trim raw.toList).map Char.toLower)

def isUrl (raw : String) : Bool :=
  "https://".toList.isPrefixOf raw.toList || "http://".toList.isPrefixOf raw.toList

def directoryUrl (upstream : AcmeUpstream) (raw : String) : Except Failure String :=
  if directoryName raw ∈ stagingNames then .ok upstream.letsEncryptStaging
  else if directoryName raw ∈ productionNames then .ok upstream.letsEncryptProduction
  else if isUrl raw then .ok raw
  else .error ("unsupported ACME directory " ++ debugText raw ++
    "; use letsencrypt-staging, letsencrypt-production, or a full URL")

def directorySlug (upstream : AcmeUpstream) (directory : String) : String :=
  if directoryName directory ∈ stagingNames then "letsencrypt-staging"
  else if directoryName directory ∈ productionNames then "letsencrypt-production"
  else stableSlug upstream directory

/-- The longest pieces of a text that consist of ASCII letters, digits, dots and
hyphens, in lower case.  A text without one counts as the word `default`. -/
def slugWords (input : String) : List (List Char) :=
  if words '_' (input.toList.map slugChar) = [] then ["default".toList]
  else words '_' (input.toList.map slugChar)

theorem slugWords_ne_nil (input : String) : slugWords input ≠ [] := by
  unfold slugWords
  split
  · simp
  · assumption

theorem slugWords_unmarked (input : String) : ∀ word ∈ slugWords input, '_' ∉ word := by
  unfold slugWords
  split
  · decide
  · exact fun word listed => (isWord_of_mem listed).unmarked

theorem plainSlug_eq (input : String) : plainSlug input = join '_' (slugWords input) := by
  unfold plainSlug slugWords
  dsimp only
  rw [trimMarks_squeezeAll]
  have empty : join '_' (words '_' (input.toList.map slugChar)) = [] ↔
      words '_' (input.toList.map slugChar) = [] := 
    join_eq_nil_iff fun word listed => (isWord_of_mem listed).filled
  by_cases wordless : words '_' (input.toList.map slugChar) = []
  · rw [if_pos (empty.mpr wordless), if_pos wordless]
    rfl
  · rw [if_neg (mt empty.mp wordless), if_neg wordless]

theorem plainSlug_eq_iff {first second : String} :
    plainSlug first = plainSlug second ↔ slugWords first = slugWords second := by
  rw [plainSlug_eq, plainSlug_eq]
  constructor
  · exact join_injective (slugWords_ne_nil _) (slugWords_ne_nil _) (slugWords_unmarked _)
      (slugWords_unmarked _)
  · exact congrArg (join '_')

/-- The words of a text fill at most 120 characters. -/
def Short (input : String) : Prop := (join '_' (slugWords input)).length ≤ 120

instance (input : String) : Decidable (Short input) :=
  inferInstanceAs (Decidable (_ ≤ _))

/-- A long text's name: the start of its words, and a piece of its digest. -/
def hashedName (upstream : AcmeUpstream) (input : String) : List Char :=
  (join '_' (slugWords input)).take 96 ++
    '-' :: hexEncode ((upstream.sha256 (utf8Bytes input)).bytes.take 8)

theorem stableSlug_of_short (upstream : AcmeUpstream) {input : String} (short : Short input) :
    (stableSlug upstream input).toList = join '_' (slugWords input) := by
  unfold Short at short
  unfold stableSlug
  dsimp only
  rw [plainSlug_eq, if_pos short, String.toList_ofList]

theorem stableSlug_of_long (upstream : AcmeUpstream) {input : String} (long : ¬ Short input) :
    (stableSlug upstream input).toList = hashedName upstream input := by
  unfold Short at long
  unfold stableSlug hashedName
  dsimp only
  rw [plainSlug_eq, if_neg long, String.toList_ofList]

theorem slugWords_filled (input : String) : ∀ word ∈ slugWords input, word ≠ [] := by
  unfold slugWords
  split
  · decide
  · exact fun word listed => (isWord_of_mem listed).filled

/-- The characters that can be in a slug. -/
def slugAlphabet (ch : Char) : Bool :=
  ch.isLower || ch.isDigit || ch == '.' || ch == '-' || ch == '_'

theorem isUpper_iff {ch : Char} : ch.isUpper = true ↔ 65 ≤ ch.toNat ∧ ch.toNat ≤ 90 :=
  decide_eq_true_iff

theorem isLower_iff {ch : Char} : ch.isLower = true ↔ 97 ≤ ch.toNat ∧ ch.toNat ≤ 122 := by
  change (decide ('a'.val ≤ ch.val) && decide (ch.val ≤ 'z'.val)) = true ↔ _
  rw [Bool.and_eq_true_iff, decide_eq_true_iff, decide_eq_true_iff]
  exact Iff.rfl

theorem isLower_toLower_of_isUpper {ch : Char} (upper : ch.isUpper = true) :
    ch.toLower.isLower = true := by
  have range := isUpper_iff.mp upper
  have lowered : ch.toLower.toNat = ch.toNat + 32 := by
    have capital : ch.val ≥ 'A'.val ∧ ch.val ≤ 'Z'.val := range
    unfold Char.toLower
    rw [dif_pos capital]
    simp [UInt32.toNat_add]
    omega
  exact isLower_iff.mpr (by omega)

theorem toLower_of_not_isUpper {ch : Char} (other : ch.isUpper = false) : ch.toLower = ch := by
  unfold Char.toLower
  rw [dif_neg]
  intro capital
  have upper : ch.isUpper = true := isUpper_iff.mpr capital
  rw [other] at upper
  cases upper

theorem slugChar_alphabet (ch : Char) : slugAlphabet (slugChar ch) = true := by
  unfold slugChar
  split
  · rename_i kept
    cases upper : ch.isUpper with
    | true => simp [slugAlphabet, isLower_toLower_of_isUpper upper]
    | false =>
        rw [toLower_of_not_isUpper upper]
        change (ch.isUpper || ch.isLower || ch.isDigit || _ || _ || _) = true at kept
        rwa [upper] at kept
  · decide

theorem hexEncode_alphabet (bytes : List UInt8) :
    ∀ ch ∈ hexEncode bytes, slugAlphabet ch = true ∧ ch ≠ '_' := by
  have digits : ∀ digit : Fin 16, slugAlphabet (Nat.digitChar digit) = true ∧
      Nat.digitChar digit ≠ '_' := by decide
  intro ch member
  obtain ⟨byte, _, within⟩ := List.mem_flatMap.mp member
  have bound := byte.toNat_lt
  rcases List.mem_cons.mp within with same | later
  · rw [same]
    exact digits ⟨byte.toNat / 16, by omega⟩
  · rw [List.mem_singleton.mp later]
    exact digits ⟨byte.toNat % 16, by omega⟩

theorem slugWords_alphabet (input : String) :
    ∀ ch ∈ join '_' (slugWords input), slugAlphabet ch = true := by
  intro ch member
  rcases mem_join member with same | ⟨word, listed, within⟩
  · rw [same]
    rfl
  · unfold slugWords at listed
    split at listed
    · rw [List.mem_singleton.mp listed] at within
      exact List.all_eq_true.mp (show "default".toList.all slugAlphabet = true by decide) ch within
    · obtain ⟨source, _, same⟩ := List.mem_map.mp ((isWord_of_mem listed).within ch within)
      rw [← same]
      exact slugChar_alphabet source

theorem stableSlug_alphabet (upstream : AcmeUpstream) (input : String) :
    ∀ ch ∈ (stableSlug upstream input).toList, slugAlphabet ch = true := by
  intro ch member
  by_cases short : Short input
  · rw [stableSlug_of_short upstream short] at member
    exact slugWords_alphabet input ch member
  · rw [stableSlug_of_long upstream short, hashedName, List.mem_append, List.mem_cons] at member
    rcases member with start | dash | digest
    · exact slugWords_alphabet input ch (List.mem_of_mem_take start)
    · rw [dash]
      rfl
    · exact (hexEncode_alphabet _ ch digest).1

theorem stableSlug_filled (upstream : AcmeUpstream) (input : String) :
    (stableSlug upstream input).toList ≠ [] := by
  by_cases short : Short input
  · rw [stableSlug_of_short upstream short, Ne, join_eq_nil_iff (slugWords_filled input)]
    exact slugWords_ne_nil input
  · rw [stableSlug_of_long upstream short]
    simp [hashedName]

theorem component_stableSlug (upstream : AcmeUpstream) (input : String) :
    Component (stableSlug upstream input) where
  filled empty := stableSlug_filled upstream input (congrArg String.toList empty)
  unparted member := absurd (stableSlug_alphabet upstream input _ member) (by decide)

theorem digitChar_injective : ∀ first second : Fin 16,
    Nat.digitChar first = Nat.digitChar second → first = second := by decide

theorem hexEncode_injective {first second : List UInt8}
    (same : hexEncode first = hexEncode second) : first = second := by
  induction first generalizing second with
  | nil =>
      cases second with
      | nil => rfl
      | cons byte rest => cases same
  | cons byte bytes ih =>
      cases second with
      | nil => cases same
      | cons other others =>
          have digits : Nat.digitChar (byte.toNat / 16) = Nat.digitChar (other.toNat / 16) ∧
              Nat.digitChar (byte.toNat % 16) = Nat.digitChar (other.toNat % 16) ∧
              hexEncode bytes = hexEncode others := by
            simpa [hexEncode] using same
          have byteBound := byte.toNat_lt
          have otherBound := other.toNat_lt
          have high := digitChar_injective ⟨byte.toNat / 16, by omega⟩
            ⟨other.toNat / 16, by omega⟩ digits.1
          have low := digitChar_injective ⟨byte.toNat % 16, by omega⟩
            ⟨other.toNat % 16, by omega⟩ digits.2.1
          have value : byte.toNat = other.toNat := by
            rw [Fin.mk.injEq] at high low
            omega
          rw [UInt8.toNat_inj.mp value, ih digits.2.2]

/-- Two texts end up under one name: both are short and have the same words, both
are long and agree in the piece of the words and of the digest that is kept, or
one spells out the name that the other gets for its length. -/
inductive SharesSlug (upstream : AcmeUpstream) : String → String → Prop where
  | words {first second : String} (firstShort : Short first) (secondShort : Short second)
      (same : slugWords first = slugWords second) : SharesSlug upstream first second
  | pieces {first second : String} (firstLong : ¬ Short first) (secondLong : ¬ Short second)
      (starts : (join '_' (slugWords first)).take 96 = (join '_' (slugWords second)).take 96)
      (digests : (upstream.sha256 (utf8Bytes first)).bytes.take 8 =
        (upstream.sha256 (utf8Bytes second)).bytes.take 8) : SharesSlug upstream first second
  | spells {first second : String} (short : Short first) (long : ¬ Short second)
      (spelled : join '_' (slugWords first) = hashedName upstream second) :
      SharesSlug upstream first second
  | spelled {first second : String} (long : ¬ Short first) (short : Short second)
      (spells : join '_' (slugWords second) = hashedName upstream first) :
      SharesSlug upstream first second

theorem hashedName_eq_iff {upstream : AcmeUpstream} {first second : String}
    (firstLong : ¬ Short first) (secondLong : ¬ Short second) :
    hashedName upstream first = hashedName upstream second ↔
      (join '_' (slugWords first)).take 96 = (join '_' (slugWords second)).take 96 ∧
      (upstream.sha256 (utf8Bytes first)).bytes.take 8 =
        (upstream.sha256 (utf8Bytes second)).bytes.take 8 := by
  have cut : ∀ input : String, ¬ Short input →
      ((join '_' (slugWords input)).take 96).length = 96 := by
    intro input long
    have size := Nat.lt_of_not_le long
    rw [List.length_take]
    omega
  constructor
  · intro same
    obtain ⟨starts, digests⟩ :=
      List.append_inj same ((cut first firstLong).trans (cut second secondLong).symm)
    exact ⟨starts, hexEncode_injective (List.cons.inj digests).2⟩
  · rintro ⟨starts, digests⟩
    rw [hashedName, hashedName, starts, digests]

theorem stableSlug_eq_iff {upstream : AcmeUpstream} {first second : String} :
    stableSlug upstream first = stableSlug upstream second ↔
      SharesSlug upstream first second := by
  rw [← String.toList_inj]
  constructor
  · intro same
    by_cases firstShort : Short first
    · rw [stableSlug_of_short upstream firstShort] at same
      by_cases secondShort : Short second
      · rw [stableSlug_of_short upstream secondShort, ← plainSlug_eq, ← plainSlug_eq] at same
        exact .words firstShort secondShort (plainSlug_eq_iff.mp same)
      · rw [stableSlug_of_long upstream secondShort] at same
        exact .spells firstShort secondShort same
    · rw [stableSlug_of_long upstream firstShort] at same
      by_cases secondShort : Short second
      · rw [stableSlug_of_short upstream secondShort] at same
        exact .spelled firstShort secondShort same.symm
      · rw [stableSlug_of_long upstream secondShort] at same
        obtain ⟨starts, digests⟩ := (hashedName_eq_iff firstShort secondShort).mp same
        exact .pieces firstShort secondShort starts digests
  · intro shares
    cases shares with
    | words firstShort secondShort same =>
        rw [stableSlug_of_short upstream firstShort, stableSlug_of_short upstream secondShort,
          same]
    | pieces firstLong secondLong starts digests =>
        rw [stableSlug_of_long upstream firstLong, stableSlug_of_long upstream secondLong]
        exact (hashedName_eq_iff firstLong secondLong).mpr ⟨starts, digests⟩
    | spells short long spelled =>
        rw [stableSlug_of_short upstream short, stableSlug_of_long upstream long, spelled]
    | spelled long short spells =>
        rw [stableSlug_of_long upstream long, stableSlug_of_short upstream short, spells]

def stagingDirectory : String := "https://acme-staging-v02.api.letsencrypt.org/directory"

/-- The directories of Let's Encrypt, and the digest of the one that samples use. -/
def sampleUpstream : AcmeUpstream where
  sha256 bytes :=
    if bytes = utf8Bytes stagingDirectory then
      ⟨[0x67, 0xf2, 0x75, 0x06, 0x52, 0x31, 0x42, 0x51, 0xda, 0xad, 0x76, 0xf0, 0x12, 0x14, 0x1d,
        0x33, 0xc9, 0xf7, 0x29, 0x0f, 0x4f, 0x8e, 0xbb, 0x0a, 0x00, 0x6a, 0x7f, 0x02, 0xd3, 0x94,
        0xa9, 0x04], rfl⟩
    else Octets.ofNat 32 0
  letsEncryptStaging := stagingDirectory
  letsEncryptProduction := "https://acme-v02.api.letsencrypt.org/directory"

theorem accepted_default :
    directoryUrl sampleUpstream AcmeConfig.default.directory = .ok stagingDirectory := by
  decide +kernel

end Rtunnel.Acme
