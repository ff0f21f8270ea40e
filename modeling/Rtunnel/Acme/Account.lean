import Rtunnel.Acme.AtomicWrite
import Rtunnel.Acme.Slug

namespace Rtunnel.Acme

open Rtunnel.Data Rtunnel.Data.Paths Rtunnel.Data.Words
open Rtunnel.Anytls (Failure)

/-! The ACME account and where it is stored.

Credentials are created at the URL that the directory setting stands for, and
stored under a slug of the setting itself.
-/

/-- The ACME client: it creates an account at a directory, with the credentials
to store, and restores one from stored credentials. -/
structure AccountService (Account : Type) where
  create : List String → String → Except Failure (Account × List UInt8)
  restore : List UInt8 → Except Failure Account

structure AccountAnswers where
  created : Bool
  read : Bool
  stored : WriteAnswers

def accountsDir (cfg : AcmeConfig) : String := push cfg.cacheDir "accounts"

def accountPath (upstream : AcmeUpstream) (cfg : AcmeConfig) : String :=
  push (accountsDir cfg) (directorySlug upstream cfg.directory ++ ".json")

/-- A new account, stored at the account path. -/
def createAccount {Account : Type} (upstream : AcmeUpstream) (service : AccountService Account)
    (answers : WriteAnswers) (cfg : AcmeConfig) : List CacheChange × Except Failure Account :=
  match directoryUrl upstream cfg.directory with
  | .error reason => ([], .error reason)
  | .ok url =>
      match service.create cfg.contact url with
      | .error _ => ([], .error "failed to create ACME account")
      | .ok (account, raw) =>
          let stored := atomicWrite answers (accountPath upstream cfg) raw
          (stored.1, stored.2.map fun _ => account)

def loadAccount {Account : Type} (upstream : AcmeUpstream) (service : AccountService Account)
    (answers : AccountAnswers) (cfg : AcmeConfig) (files : CacheFiles) :
    List CacheChange × Except Failure Account :=
  if !answers.created then
    ([], .error ("failed to create ACME account cache directory " ++ accountsDir cfg))
  else
    match files.lookup (accountPath upstream cfg) with
    | some raw =>
        if !answers.read then
          ([], .error ("failed to read ACME account " ++ accountPath upstream cfg))
        else ([], service.restore raw)
    | none =>
        if !cfg.acceptTerms then
          ([], .error "ACME account creation requires acme.accept_terms = true")
        else createAccount upstream service answers.stored cfg

theorem component_directorySlug (upstream : AcmeUpstream) (directory : String) :
    Component (directorySlug upstream directory) := by
  unfold directorySlug
  split
  · decide
  · split
    · decide
    · exact component_stableSlug upstream directory

theorem component_accountFile (upstream : AcmeUpstream) (directory : String) :
    Component (directorySlug upstream directory ++ ".json") := by
  have slug := component_directorySlug upstream directory
  refine ⟨fun empty => ?_, ?_⟩
  · have text := congrArg String.toList empty
    rw [String.toList_append] at text
    exact slug.toList_ne_nil (List.append_eq_nil_iff.mp text).1
  · rw [String.toList_append, List.mem_append, not_or]
    exact ⟨slug.unparted, by decide⟩

variable {upstream : AcmeUpstream}

theorem accountPath_eq_iff {first second : AcmeConfig}
    (cacheDir : first.cacheDir = second.cacheDir) :
    accountPath upstream first = accountPath upstream second ↔
      directorySlug upstream first.directory = directorySlug upstream second.directory := by
  unfold accountPath accountsDir
  rw [cacheDir]
  constructor
  · intro same
    have files := congrArg String.toList (push_injective (component_accountFile upstream _)
      (component_accountFile upstream _) same)
    rw [String.toList_append, String.toList_append] at files
    exact String.toList_inj.mp (List.append_cancel_right files)
  · intro same
    rw [same]

theorem getLast?_accountPath (upstream : AcmeUpstream) (cfg : AcmeConfig) :
    (accountPath upstream cfg).toList.getLast? = some 'n' := by
  rw [accountPath, getLast?_push _ (component_accountFile upstream cfg.directory),
    String.toList_append, List.getLast?_append]
  rfl

theorem tmpPath_accountPath (upstream : AcmeUpstream) (cfg : AcmeConfig) :
    tmpPath (accountPath upstream cfg) = accountPath upstream cfg ++ ".tmp" := by
  have slug := component_directorySlug upstream cfg.directory
  obtain ⟨last, found⟩ := Option.isSome_iff_exists.mp
    (List.getLast?_isSome.mpr slug.toList_ne_nil)
  have spelled : (accountPath upstream cfg).toList = (lead (accountsDir cfg)).toList ++
      (directorySlug upstream cfg.directory).toList ++ '.' :: "json".toList := by
    rw [accountPath, push_component _ (component_accountFile upstream cfg.directory),
      String.toList_append, String.toList_append, List.append_assoc]
    rfl
  have named : ((lead (accountsDir cfg)).toList ++
      (directorySlug upstream cfg.directory).toList).getLast? = some last := by
    rw [List.getLast?_append, found]
    rfl
  have inside : last ≠ '/' := by
    rintro rfl
    exact slug.unparted (List.mem_of_getLast? found)
  exact tmpPath_named spelled named inside (by decide)

/-- Loading one account touches the account file of another setting only if both
settings have one account file. -/
theorem untouched_by_loadAccount {Account : Type} {service : AccountService Account}
    {answers : AccountAnswers} {first second : AcmeConfig} {files state : CacheFiles}
    (different : accountPath upstream first ≠ accountPath upstream second)
    (reached : Change.Reaches files (loadAccount upstream service answers first files).1 state) :
    state.lookup (accountPath upstream second) = files.lookup (accountPath upstream second) := by
  refine Change.lookup_of_reaches (fun change member touched => ?_) reached
  have stored : ∃ raw,
      change ∈ (atomicWrite answers.stored (accountPath upstream first) raw).1 := by
    unfold loadAccount createAccount at member
    split at member
    · cases member
    · split at member
      · split at member <;> cases member
      · split at member
        · cases member
        · split at member
          · cases member
          · split at member
            · cases member
            · rename_i raw _
              exact ⟨raw, member⟩
  obtain ⟨raw, member⟩ := stored
  rcases touches_atomicWrite member touched with temporary | same
  · have last := getLast?_accountPath upstream second
    rw [temporary, tmpPath_accountPath, getLast?_tmp] at last
    revert last
    decide
  · exact different same.symm

/-- A setting that is not one of the names for Let's Encrypt. -/
def Custom (directory : String) : Prop :=
  directoryName directory ∉ stagingNames ∧ directoryName directory ∉ productionNames

theorem head?_slugWords {input : String} (url : isUrl input = true) :
    (join '_' (slugWords input)).head? = some 'h' := by
  have start : ∃ rest, input.toList = 'h' :: rest := by
    rcases Bool.or_eq_true_iff.mp url with secure | plain
    · obtain ⟨rest, spelled⟩ := List.isPrefixOf_iff_prefix.mp secure
      exact ⟨_, spelled.symm⟩
    · obtain ⟨rest, spelled⟩ := List.isPrefixOf_iff_prefix.mp plain
      exact ⟨_, spelled.symm⟩
  obtain ⟨rest, spelled⟩ := start
  have head : (join '_' (words '_' ('h' :: rest.map slugChar))).head? = some 'h' :=
    head?_join_words (by decide) _
  have mapped : input.toList.map slugChar = 'h' :: rest.map slugChar := by
    rw [spelled]
    rfl
  unfold slugWords
  rw [mapped]
  split
  · rename_i empty
    rw [empty] at head
    cases head
  · exact head

theorem head?_stableSlug (upstream : AcmeUpstream) {input : String} (url : isUrl input = true) :
    (stableSlug upstream input).toList.head? = some 'h' := by
  have head := head?_slugWords url
  by_cases short : Short input
  · rw [stableSlug_of_short upstream short, head]
  · rw [stableSlug_of_long upstream short, hashedName, List.head?_append, List.head?_take, head]
    rfl

/-- The slugs of the directories known by name, and their URLs. -/
def knownDirectories (upstream : AcmeUpstream) : List (String × String) :=
  [("letsencrypt-staging", upstream.letsEncryptStaging),
    ("letsencrypt-production", upstream.letsEncryptProduction)]

/-- An accepted setting is a name for a known directory or a URL of its own. -/
theorem directoryUrl_cases {directory url : String}
    (accepted : directoryUrl upstream directory = .ok url) :
    ((directorySlug upstream directory, url) ∈ knownDirectories upstream ∧ ¬ Custom directory) ∨
      (url = directory ∧ directorySlug upstream directory = stableSlug upstream directory ∧
        Custom directory ∧ isUrl directory = true) := by
  unfold directoryUrl at accepted
  unfold directorySlug
  split at accepted
  · rename_i staging
    cases accepted
    rw [if_pos staging]
    exact .inl ⟨List.mem_cons_self, fun custom => custom.1 staging⟩
  · rename_i notStaging
    rw [if_neg notStaging]
    split at accepted
    · rename_i production
      cases accepted
      rw [if_pos production]
      exact .inl ⟨List.mem_cons_of_mem _ List.mem_cons_self, fun custom => custom.2 production⟩
    · rename_i notProduction
      rw [if_neg notProduction]
      split at accepted
      · rename_i web
        cases accepted
        exact .inr ⟨rfl, rfl, ⟨notStaging, notProduction⟩, web⟩
      · cases accepted

theorem known_url_unique {slug first second : String}
    (firstKnown : (slug, first) ∈ knownDirectories upstream)
    (secondKnown : (slug, second) ∈ knownDirectories upstream) : first = second := by
  have names : "letsencrypt-staging" ≠ "letsencrypt-production" := by decide
  simp only [knownDirectories, List.mem_cons, Prod.mk.injEq, List.not_mem_nil, or_false]
    at firstKnown secondKnown
  rcases firstKnown with ⟨slugEq, firstEq⟩ | ⟨slugEq, firstEq⟩
  · rcases secondKnown with ⟨_, secondEq⟩ | ⟨other, _⟩
    · rw [firstEq, secondEq]
    · exact absurd (slugEq.symm.trans other) names
  · rcases secondKnown with ⟨other, _⟩ | ⟨_, secondEq⟩
    · exact absurd (other.symm.trans slugEq) names
    · rw [firstEq, secondEq]

/-- A URL's slug is not one of the names of known directories. -/
theorem stableSlug_not_known {input slug url : String} (web : isUrl input = true)
    (known : (slug, url) ∈ knownDirectories upstream) :
    stableSlug upstream input ≠ slug := by
  intro same
  have head := head?_stableSlug upstream web
  have named : slug.toList.head? = some 'l' := by
    simp only [knownDirectories, List.mem_cons, Prod.mk.injEq, List.not_mem_nil, or_false]
      at known
    rcases known with ⟨slugEq, _⟩ | ⟨slugEq, _⟩
    · rw [slugEq]
      rfl
    · rw [slugEq]
      rfl
  rw [same, named] at head
  revert head
  decide

/-- Two accepted settings with one slug stand for one URL, or are both URLs. -/
theorem url_eq_or_custom {first second firstUrl secondUrl : String}
    (firstAccepted : directoryUrl upstream first = .ok firstUrl)
    (secondAccepted : directoryUrl upstream second = .ok secondUrl)
    (slugs : directorySlug upstream first = directorySlug upstream second) :
    firstUrl = secondUrl ∨ Custom first ∧ Custom second := by
  rcases directoryUrl_cases firstAccepted with
    ⟨firstKnown, _⟩ | ⟨_, firstSlug, firstCustom, firstWeb⟩
  · rcases directoryUrl_cases secondAccepted with ⟨secondKnown, _⟩ | ⟨_, secondSlug, _, web⟩
    · rw [slugs] at firstKnown
      exact .inl (known_url_unique firstKnown secondKnown)
    · rw [secondSlug] at slugs
      exact absurd slugs.symm (stableSlug_not_known web firstKnown)
  · rcases directoryUrl_cases secondAccepted with ⟨secondKnown, _⟩ | ⟨_, _, secondCustom, _⟩
    · rw [firstSlug] at slugs
      exact absurd slugs (stableSlug_not_known firstWeb secondKnown)
    · exact .inr ⟨firstCustom, secondCustom⟩

theorem url_of_custom {directory url : String}
    (accepted : directoryUrl upstream directory = .ok url) (custom : Custom directory) :
    url = directory := by
  rcases directoryUrl_cases accepted with ⟨_, named⟩ | ⟨same, _⟩
  · exact absurd custom named
  · exact same

/-- What the stored accounts promise about two settings: they have one account
file only if they stand for one URL, and if they stand for two, loading the
account of one never touches what is restored for the other. -/
structure AccountsSeparated (upstream : AcmeUpstream) (first second : AcmeConfig)
    (firstUrl secondUrl : String) : Prop where
  one_directory : accountPath upstream first = accountPath upstream second → firstUrl = secondUrl
  undisturbed : firstUrl ≠ secondUrl → ∀ (Account : Type) (service : AccountService Account)
    (answers : AccountAnswers) (files state : CacheFiles),
    Change.Reaches files (loadAccount upstream service answers first files).1 state →
    state.lookup (accountPath upstream second) = files.lookup (accountPath upstream second)

/-- URLs of two settings share a slug only if they are the same. -/
def UrlsApart (upstream : AcmeUpstream) (first second : AcmeConfig) : Prop :=
  Custom first.directory → Custom second.directory →
    SharesSlug upstream first.directory second.directory → first.directory = second.directory

theorem directorySlug_eq_iff {first second : String} (firstCustom : Custom first)
    (secondCustom : Custom second) :
    directorySlug upstream first = directorySlug upstream second ↔
      SharesSlug upstream first second := by
  unfold directorySlug
  rw [if_neg firstCustom.1, if_neg firstCustom.2, if_neg secondCustom.1, if_neg secondCustom.2]
  exact stableSlug_eq_iff

/-- Two accepted settings have separate accounts, unless they are different URLs
that share a slug. -/
theorem accounts_are_separated_iff {upstream : AcmeUpstream} {first second : AcmeConfig}
    {firstUrl secondUrl : String} (cacheDir : first.cacheDir = second.cacheDir)
    (firstAccepted : directoryUrl upstream first.directory = .ok firstUrl)
    (secondAccepted : directoryUrl upstream second.directory = .ok secondUrl) :
    AccountsSeparated upstream first second firstUrl secondUrl ↔
      UrlsApart upstream first second := by
  constructor
  · intro separated firstCustom secondCustom shared
    have paths := (accountPath_eq_iff cacheDir).mpr
      ((directorySlug_eq_iff firstCustom secondCustom).mpr shared)
    have urls := separated.one_directory paths
    rw [url_of_custom firstAccepted firstCustom, url_of_custom secondAccepted secondCustom] at urls
    exact urls
  · intro apart
    have oneDirectory : accountPath upstream first = accountPath upstream second →
        firstUrl = secondUrl := by
      intro paths
      have slugs := (accountPath_eq_iff cacheDir).mp paths
      rcases url_eq_or_custom firstAccepted secondAccepted slugs with
        same | ⟨firstCustom, secondCustom⟩
      · exact same
      · rw [url_of_custom firstAccepted firstCustom, url_of_custom secondAccepted secondCustom]
        exact apart firstCustom secondCustom
          ((directorySlug_eq_iff firstCustom secondCustom).mp slugs)
    exact ⟨oneDirectory, fun urls _ _ _ _ _ reached =>
      untouched_by_loadAccount (mt oneDirectory urls) reached⟩

/-- An account is the directory it was created at, and so are its credentials. -/
def sampleService : AccountService (List UInt8) where
  create _ url := .ok (utf8Bytes url, utf8Bytes url)
  restore raw := .ok raw

def fineAnswers : AccountAnswers := ⟨true, true, ⟨true, [], true, true⟩⟩

def sampleAcme (directory : String) : AcmeConfig :=
  { AcmeConfig.default with directory, acceptTerms := true }

theorem sampleAcme_cacheDir (directory : String) :
    (sampleAcme directory).cacheDir = defaultAcmeCacheDir := rfl

theorem sample_accounts_are_separated :
    directoryUrl sampleUpstream "https://ca.example/a/b" = .ok "https://ca.example/a/b" ∧
      directoryUrl sampleUpstream "https://ca.example/c" = .ok "https://ca.example/c" ∧
      AccountsSeparated sampleUpstream (sampleAcme "https://ca.example/a/b")
        (sampleAcme "https://ca.example/c") "https://ca.example/a/b" "https://ca.example/c" := by
  have first : directoryUrl sampleUpstream "https://ca.example/a/b" =
      .ok "https://ca.example/a/b" := by decide +kernel
  have second : directoryUrl sampleUpstream "https://ca.example/c" =
      .ok "https://ca.example/c" := by decide +kernel
  have slugs : stableSlug sampleUpstream "https://ca.example/a/b" ≠
      stableSlug sampleUpstream "https://ca.example/c" := by decide +kernel
  refine ⟨first, second, ?_⟩
  have cacheDir := (sampleAcme_cacheDir "https://ca.example/a/b").trans
    (sampleAcme_cacheDir "https://ca.example/c").symm
  exact (accounts_are_separated_iff cacheDir first second).mpr
    fun _ _ shared => absurd (stableSlug_eq_iff.mpr shared) slugs

/-- Two URLs that differ in a slash and an underscore: the credentials created at
the first are restored when the second is configured. -/
theorem slashed_url_shares_account :
    directoryUrl sampleUpstream "https://ca.example/a/b" = .ok "https://ca.example/a/b" ∧
      directoryUrl sampleUpstream "https://ca.example/a_b" = .ok "https://ca.example/a_b" ∧
      accountPath sampleUpstream (sampleAcme "https://ca.example/a/b") =
        accountPath sampleUpstream (sampleAcme "https://ca.example/a_b") ∧
      (loadAccount sampleUpstream sampleService fineAnswers (sampleAcme "https://ca.example/a_b")
        (Change.after ∅ (loadAccount sampleUpstream sampleService fineAnswers
          (sampleAcme "https://ca.example/a/b") ∅).1)).2 =
        .ok (utf8Bytes "https://ca.example/a/b") := by
  refine ⟨?_, ?_, ?_, ?_⟩ <;> decide +kernel

end Rtunnel.Acme
