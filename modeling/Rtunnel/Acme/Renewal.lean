import Rtunnel.Acme.AtomicWrite
import Rtunnel.Acme.Targets

namespace Rtunnel.Acme

open Rtunnel.Data Rtunnel.Data.Paths Rtunnel.Data.Validation
open Rtunnel.Anytls (Failure)

/-! Renewing a certificate.

A key and a certificate that belong together are two files, and each of them is
replaced on its own: first the key, then the certificate.
-/

/-- How a run of the ACME protocol and the two replacements end.  The challenges
are served and removed again before the order's outcome is looked at. -/
structure IssueAnswers where
  listener : Except Failure Unit
  order : Except Failure Unit
  finalized : Except Failure (List UInt8)
  polled : Except Failure (List UInt8)
  keyWrite : WriteAnswers
  certWrite : WriteAnswers

structure Issued where
  privateKeyPem : List UInt8
  certChainPem : List UInt8

/-- The pair to store; `usable` is the TLS library's check of a pair. -/
def issue (usable : List UInt8 → List UInt8 → Bool) (answers : IssueAnswers) :
    Except Failure Issued := do
  answers.listener
  answers.order
  let privateKeyPem ← answers.finalized
  let certChainPem ← answers.polled
  ensure (usable certChainPem privateKeyPem) "ACME CA returned an unusable certificate or key"
  return { privateKeyPem, certChainPem }

/-- The changes that are made to the files, and the outcome. -/
def issueCertificate (usable : List UInt8 → List UInt8 → Bool) (answers : IssueAnswers)
    (target : AcmeTarget) : List CacheChange × Except Failure Unit :=
  match issue usable answers with
  | .error reason => ([], .error reason)
  | .ok issued =>
      let keyStored := atomicWrite answers.keyWrite target.keyPath issued.privateKeyPem
      match keyStored.2 with
      | .error reason => (keyStored.1, .error reason)
      | .ok () =>
          let certStored := atomicWrite answers.certWrite target.certPath issued.certChainPem
          (keyStored.1 ++ certStored.1, certStored.2)

/-- A target's files and their temporary files are four different ones. -/
structure Apart (target : AcmeTarget) : Prop where
  files : target.certPath ≠ target.keyPath
  temporary : ∀ path ∈ [target.certPath, target.keyPath],
    tmpPath path ≠ target.certPath ∧ tmpPath path ≠ target.keyPath

theorem tmpPath_pem {dir name : String} (stem : List Char) (last : Char)
    (component : Component name) (spelled : name.toList = stem ++ '.' :: "pem".toList)
    (named : stem.getLast? = some last) (inside : last ≠ '/') :
    tmpPath (push dir name) = push dir name ++ ".tmp" := by
  have path : (push dir name).toList = (lead dir).toList ++ stem ++ '.' :: "pem".toList := by
    rw [push_component dir component, String.toList_append, spelled, List.append_assoc]
  have ends : ((lead dir).toList ++ stem).getLast? = some last := by
    rw [List.getLast?_append, named]
    rfl
  exact tmpPath_named path ends inside (by decide)

theorem targetIn_apart (upstream : AcmeUpstream) (certificates : String) (domains : List String) :
    Apart (targetIn upstream certificates domains) := by
  have cert : Component certFile := by decide
  have key : Component keyFile := by decide
  generalize made : targetIn upstream certificates domains = target
  have certPath : target.certPath = push target.dir certFile := by
    rw [← made]
    simp only [targetIn]
  have keyPath : target.keyPath = push target.dir keyFile := by
    rw [← made]
    simp only [targetIn]
  have certLast : target.certPath.toList.getLast? = some 'm' := by
    rw [certPath, getLast?_push _ cert]
    rfl
  have keyLast : target.keyPath.toList.getLast? = some 'm' := by
    rw [keyPath, getLast?_push _ key]
    rfl
  have temporary : ∀ path ∈ [target.certPath, target.keyPath],
      (tmpPath path).toList.getLast? = some 'p' := by
    intro path member
    rcases List.mem_cons.mp member with rfl | other
    · rw [certPath, tmpPath_pem "cert".toList 't' cert rfl rfl (by decide),
        getLast?_tmp]
    · cases List.mem_singleton.mp other
      rw [keyPath, tmpPath_pem "key".toList 'y' key rfl rfl (by decide),
        getLast?_tmp]
  refine ⟨fun same => ?_, fun path member => ⟨fun same => ?_, fun same => ?_⟩⟩
  · rw [certPath, keyPath] at same
    exact absurd (push_injective cert key same) (by decide)
  · have last := temporary path member
    rw [same, certLast] at last
    exact absurd last (by decide)
  · have last := temporary path member
    rw [same, keyLast] at last
    exact absurd last (by decide)

/-- The files hold a pair that belongs together: the cached one or the issued one. -/
def PairKept (usable : List UInt8 → List UInt8 → Bool) (answers : IssueAnswers)
    (target : AcmeTarget) (oldCert oldKey : List UInt8) (state : CacheFiles) : Prop :=
  ∃ cert key, state.lookup target.certPath = some cert ∧ state.lookup target.keyPath = some key ∧
    usable cert key = true ∧
    ((cert = oldCert ∧ key = oldKey) ∨ (answers.polled = .ok cert ∧ answers.finalized = .ok key))

/-- The key is not replaced, or one of the two files is replaced by itself. -/
def RenewalSafe (usable : List UInt8 → List UInt8 → Bool) (answers : IssueAnswers)
    (oldCert oldKey : List UInt8) : Prop :=
  ∀ cert key, answers.listener = .ok () → answers.order = .ok () →
    answers.finalized = .ok key → answers.polled = .ok cert → usable cert key = true →
    answers.keyWrite.Succeed → key = oldKey ∨ cert = oldCert

theorem issue_eq_ok_iff {usable : List UInt8 → List UInt8 → Bool} {answers : IssueAnswers}
    {cert key : List UInt8} :
    issue usable answers = .ok ⟨key, cert⟩ ↔ answers.listener = .ok () ∧
      answers.order = .ok () ∧ answers.finalized = .ok key ∧ answers.polled = .ok cert ∧
      usable cert key = true := by
  unfold issue
  rw [seq_eq_ok_iff, seq_eq_ok_iff]
  constructor
  · rintro ⟨listener, order, rest⟩
    obtain ⟨foundKey, finalized, rest⟩ := bind_eq_ok_iff.mp rest
    obtain ⟨foundCert, polled, rest⟩ := bind_eq_ok_iff.mp rest
    obtain ⟨checked, returned⟩ := seq_eq_ok_iff.mp rest
    cases returned
    exact ⟨listener, order, finalized, polled, ensure_eq_ok_iff.mp checked⟩
  · rintro ⟨listener, order, finalized, polled, checked⟩
    refine ⟨listener, order, bind_eq_ok_iff.mpr ⟨key, finalized, bind_eq_ok_iff.mpr ⟨cert, polled,
      seq_eq_ok_iff.mpr ⟨ensure_eq_ok_iff.mpr checked, rfl⟩⟩⟩⟩

section Moments

variable {answers : WriteAnswers} {path other : String} {bytes : List UInt8}
  {files state : CacheFiles}

/-- Replacing a file leaves every other file alone, its temporary file apart. -/
theorem lookup_other_of_reaches (different : other ≠ path) (temporary : tmpPath path ≠ other)
    (reached : Change.Reaches files (atomicWrite answers path bytes).1 state) :
    state.lookup other = files.lookup other := by
  refine Change.lookup_of_reaches (fun change member touched => ?_) reached
  rcases touches_atomicWrite member touched with same | same
  · exact temporary same.symm
  · exact different same

/-- While a file is replaced it is the old one or, at last, the new one. -/
theorem lookup_of_reaches_atomicWrite (temporary : tmpPath path ≠ path)
    (reached : Change.Reaches files (atomicWrite answers path bytes).1 state) :
    state.lookup path = files.lookup path ∨ state.lookup path = some bytes ∧ answers.Succeed := by
  by_cases succeed : answers.Succeed
  · rw [atomicWrite_of_succeed succeed] at reached
    rcases Change.lookup_of_reaches_replace temporary reached with old | rfl
    · exact .inl old
    · exact .inr ⟨Change.lookup_after_replace, succeed⟩
  · refine .inl (Change.lookup_of_reaches (fun change member => ?_) reached)
    obtain ⟨text, rfl⟩ := (atomicWrite_of_fail succeed path bytes).2 change member
    exact temporary

/-- Once the key is replaced, the old certificate stands beside the new key. -/
theorem lookup_after_key_replaced {target : AcmeTarget} (apart : Apart target)
    {oldCert key : List UInt8} (succeed : answers.Succeed)
    (certCached : files.lookup target.certPath = some oldCert) :
    (Change.after files (atomicWrite answers target.keyPath key).1).lookup target.certPath =
        some oldCert ∧
      (Change.after files (atomicWrite answers target.keyPath key).1).lookup target.keyPath =
        some key := by
  have temporary := apart.temporary target.keyPath (by simp)
  constructor
  · rw [lookup_other_of_reaches apart.files temporary.1 (Change.reaches_after _ _)]
    exact certCached
  · rw [atomicWrite_of_succeed succeed]
    exact Change.lookup_after_replace

end Moments

section Renewal

variable {usable : List UInt8 → List UInt8 → Bool} {answers : IssueAnswers} {target : AcmeTarget}

theorem issueCertificate_of_error {reason : Failure}
    (failed : issue usable answers = .error reason) :
    (issueCertificate usable answers target).1 = [] := by
  simp only [issueCertificate, failed]

theorem issueCertificate_of_key_fail {issued : Issued} (issues : issue usable answers = .ok issued)
    (fail : ¬ answers.keyWrite.Succeed) :
    (issueCertificate usable answers target).1 =
      (atomicWrite answers.keyWrite target.keyPath issued.privateKeyPem).1 := by
  obtain ⟨reason, failed⟩ := (atomicWrite_of_fail fail target.keyPath issued.privateKeyPem).1
  simp only [issueCertificate, issues, failed]

theorem issueCertificate_of_key_stored {issued : Issued}
    (issues : issue usable answers = .ok issued) (succeed : answers.keyWrite.Succeed) :
    (issueCertificate usable answers target).1 =
      (atomicWrite answers.keyWrite target.keyPath issued.privateKeyPem).1 ++
        (atomicWrite answers.certWrite target.certPath issued.certChainPem).1 := by
  have stored : (atomicWrite answers.keyWrite target.keyPath issued.privateKeyPem).2 = .ok () := by
    rw [atomicWrite_of_succeed succeed]
  simp only [issueCertificate, issues, stored]

variable {files state : CacheFiles} {oldCert oldKey cert key : List UInt8}
  (cached : usable oldCert oldKey = true)
include cached

/-- With the old certificate in place, the old key and a safely replaced one do. -/
theorem pairKept_of_old_certificate (safe : RenewalSafe usable answers oldCert oldKey)
    (issues : issue usable answers = .ok ⟨key, cert⟩)
    (certCached : state.lookup target.certPath = some oldCert)
    (keyStored : state.lookup target.keyPath = some oldKey ∨
      state.lookup target.keyPath = some key ∧ answers.keyWrite.Succeed) :
    PairKept usable answers target oldCert oldKey state := by
  obtain ⟨listener, order, finalized, polled, checked⟩ := issue_eq_ok_iff.mp issues
  rcases keyStored with old | ⟨new, succeed⟩
  · exact ⟨oldCert, oldKey, certCached, old, cached, .inl ⟨rfl, rfl⟩⟩
  · rcases safe cert key listener order finalized polled checked succeed with rfl | rfl
    · exact ⟨oldCert, key, certCached, new, cached, .inl ⟨rfl, rfl⟩⟩
    · exact ⟨cert, key, certCached, new, checked, .inr ⟨polled, finalized⟩⟩

theorem pairKept_while_key_is_replaced (apart : Apart target)
    (safe : RenewalSafe usable answers oldCert oldKey)
    (issues : issue usable answers = .ok ⟨key, cert⟩)
    (certCached : files.lookup target.certPath = some oldCert)
    (keyCached : files.lookup target.keyPath = some oldKey)
    (reached : Change.Reaches files (atomicWrite answers.keyWrite target.keyPath key).1 state) :
    PairKept usable answers target oldCert oldKey state := by
  have temporary := apart.temporary target.keyPath (by simp)
  have certSame := lookup_other_of_reaches apart.files temporary.1 reached
  refine pairKept_of_old_certificate cached safe issues (certSame.trans certCached) ?_
  exact (lookup_of_reaches_atomicWrite temporary.2 reached).imp_left (·.trans keyCached)

theorem pairKept_while_certificate_is_replaced (apart : Apart target)
    (safe : RenewalSafe usable answers oldCert oldKey)
    (issues : issue usable answers = .ok ⟨key, cert⟩) (succeed : answers.keyWrite.Succeed)
    (certCached : files.lookup target.certPath = some oldCert)
    (keyStored : files.lookup target.keyPath = some key)
    (reached : Change.Reaches files (atomicWrite answers.certWrite target.certPath cert).1 state) :
    PairKept usable answers target oldCert oldKey state := by
  have temporary := apart.temporary target.certPath (by simp)
  have keySame := (lookup_other_of_reaches apart.files.symm temporary.2 reached).trans keyStored
  rcases lookup_of_reaches_atomicWrite temporary.1 reached with old | ⟨new, _⟩
  · exact pairKept_of_old_certificate cached safe issues (old.trans certCached)
      (.inr ⟨keySame, succeed⟩)
  · obtain ⟨_, _, finalized, polled, checked⟩ := issue_eq_ok_iff.mp issues
    exact ⟨cert, key, new, keySame, checked, .inr ⟨polled, finalized⟩⟩

end Renewal

/-- A renewal that fails with the certificate leaves the new key beside the old one. -/
theorem mismatch_of_certificate_failure {usable : List UInt8 → List UInt8 → Bool}
    {answers : IssueAnswers} {target : AcmeTarget} {files : CacheFiles}
    {oldCert cert key : List UInt8} (apart : Apart target)
    (issues : issue usable answers = .ok ⟨key, cert⟩) (keySucceed : answers.keyWrite.Succeed)
    (certFail : ¬ answers.certWrite.Succeed)
    (certCached : files.lookup target.certPath = some oldCert) :
    (∃ reason, (issueCertificate usable answers target).2 = .error reason) ∧
      (Change.after files (issueCertificate usable answers target).1).lookup target.certPath =
        some oldCert ∧
      (Change.after files (issueCertificate usable answers target).1).lookup target.keyPath =
        some key := by
  have temporary := apart.temporary target.certPath (by simp)
  have stored := atomicWrite_of_succeed keySucceed target.keyPath key
  obtain ⟨reason, failed⟩ := (atomicWrite_of_fail certFail target.certPath cert).1
  let keyStored := Change.after files (atomicWrite answers.keyWrite target.keyPath key).1
  obtain ⟨certOld, keyNew⟩ : keyStored.lookup target.certPath = some oldCert ∧
      keyStored.lookup target.keyPath = some key :=
    lookup_after_key_replaced apart keySucceed certCached
  have reached := Change.reaches_after keyStored
    (atomicWrite answers.certWrite target.certPath cert).1
  rw [issueCertificate_of_key_stored issues keySucceed, Change.after_append]
  refine ⟨⟨reason, ?_⟩, ?_, ?_⟩
  · simp only [issueCertificate, issues, stored, failed]
  · rcases lookup_of_reaches_atomicWrite temporary.1 reached with old | ⟨_, succeed⟩
    · exact old.trans certOld
    · exact absurd succeed certFail
  · exact (lookup_other_of_reaches apart.files.symm temporary.2 reached).trans keyNew

/-- A run that keeps the pair at every moment was a safe one. -/
theorem renewalSafe_of_kept {usable : List UInt8 → List UInt8 → Bool} {answers : IssueAnswers}
    {target : AcmeTarget} {files : CacheFiles} {oldCert oldKey : List UInt8} (apart : Apart target)
    (certCached : files.lookup target.certPath = some oldCert)
    (kept : ∀ state, Change.Reaches files (issueCertificate usable answers target).1 state →
      PairKept usable answers target oldCert oldKey state) :
    RenewalSafe usable answers oldCert oldKey := by
  intro cert key listener order finalized polled checked succeed
  have issues := issue_eq_ok_iff.mpr ⟨listener, order, finalized, polled, checked⟩
  have reached : Change.Reaches files (issueCertificate usable answers target).1
      (Change.after files (atomicWrite answers.keyWrite target.keyPath key).1) := by
    rw [issueCertificate_of_key_stored issues succeed]
    exact Change.reaches_append.mpr (.inl (Change.reaches_after _ _))
  obtain ⟨certOld, keyNew⟩ := lookup_after_key_replaced apart succeed certCached
  obtain ⟨foundCert, foundKey, certFound, keyFound, _, pair⟩ := kept _ reached
  have sameCert := Option.some.inj (certOld.symm.trans certFound)
  have sameKey := Option.some.inj (keyNew.symm.trans keyFound)
  rcases pair with ⟨_, old⟩ | ⟨new, _⟩
  · exact .inl (sameKey.trans old)
  · exact .inr ((Except.ok.inj (polled.symm.trans new)).trans sameCert.symm)

/-- At every moment of a renewal the two files are a pair, the cached one or the
issued one, exactly if the key is not replaced or a file is replaced by itself:
between the two replacements the old certificate stands beside the new key. -/
theorem renewal_keeps_pair_iff {upstream : AcmeUpstream} {acmeCfg : AcmeConfig}
    {domains : List String} {target : AcmeTarget}
    (made : targetForDomains upstream acmeCfg domains = .ok target)
    {usable : List UInt8 → List UInt8 → Bool} {files : CacheFiles} {oldCert oldKey : List UInt8}
    (certCached : files.lookup target.certPath = some oldCert)
    (keyCached : files.lookup target.keyPath = some oldKey)
    (cached : usable oldCert oldKey = true) (answers : IssueAnswers) :
    (∀ state, Change.Reaches files (issueCertificate usable answers target).1 state →
        PairKept usable answers target oldCert oldKey state) ↔
      RenewalSafe usable answers oldCert oldKey := by
  obtain ⟨certificates, fixed⟩ := targetForDomains_fixed upstream acmeCfg
  have apart : Apart target := by
    rw [fixed domains target made]
    exact targetIn_apart upstream certificates domains
  constructor
  · exact renewalSafe_of_kept apart certCached
  · intro safe state reached
    cases issues : issue usable answers with
    | error reason =>
        rw [issueCertificate_of_error issues] at reached
        obtain ⟨done, none, rfl⟩ := reached
        rw [List.prefix_nil.mp none]
        exact ⟨oldCert, oldKey, certCached, keyCached, cached, .inl ⟨rfl, rfl⟩⟩
    | ok issued =>
        obtain ⟨key, cert⟩ := issued
        by_cases succeed : answers.keyWrite.Succeed
        · rw [issueCertificate_of_key_stored issues succeed] at reached
          rcases Change.reaches_append.mp reached with first | second
          · exact pairKept_while_key_is_replaced cached apart safe issues certCached keyCached first
          · obtain ⟨certOld, keyNew⟩ := lookup_after_key_replaced apart succeed certCached
            exact pairKept_while_certificate_is_replaced cached apart safe issues succeed
              certOld keyNew second
        · rw [issueCertificate_of_key_fail issues succeed] at reached
          exact pairKept_while_key_is_replaced cached apart safe issues certCached keyCached reached

def sampleTarget : AcmeTarget :=
  targetIn sampleUpstream (certificatesDir sampleUpstream .default stagingDirectory)
    ["a.example"]

theorem made_sampleTarget :
    targetForDomains sampleUpstream .default ["a.example"] = .ok sampleTarget := by
  rw [targetForDomains, accepted_default]
  rfl

/-- A certificate belongs to the key with the same number. -/
def sampleUsable (cert key : List UInt8) : Bool := cert == key

def sampleFiles : CacheFiles :=
  AList.insert sampleTarget.certPath [1] (AList.insert sampleTarget.keyPath [1] ∅)

/-- The second pair is issued, and the file system answers as told. -/
def sampleAnswers (keyWrite certWrite : WriteAnswers) : IssueAnswers where
  listener := .ok ()
  order := .ok ()
  finalized := .ok [2]
  polled := .ok [2]
  keyWrite := keyWrite
  certWrite := certWrite

def fineWrite : WriteAnswers := ⟨true, [[]], true, true⟩

def failedRename : WriteAnswers := ⟨true, [[]], true, false⟩

theorem sampleTarget_apart : Apart sampleTarget := targetIn_apart _ _ _

theorem sampleFiles_cert : sampleFiles.lookup sampleTarget.certPath = some [1] :=
  AList.lookup_insert _

theorem sampleFiles_key : sampleFiles.lookup sampleTarget.keyPath = some [1] := by
  rw [sampleFiles, AList.lookup_insert_ne sampleTarget_apart.files.symm, AList.lookup_insert]

theorem sample_renewal_keeps_pair :
    sampleUsable [1] [1] = true ∧
      ∀ state, Change.Reaches sampleFiles (issueCertificate sampleUsable
          (sampleAnswers failedRename fineWrite) sampleTarget).1 state →
        PairKept sampleUsable (sampleAnswers failedRename fineWrite) sampleTarget [1] [1]
          state := by
  have fails : ¬ (sampleAnswers failedRename fineWrite).keyWrite.Succeed := by decide
  refine ⟨rfl, (renewal_keeps_pair_iff made_sampleTarget sampleFiles_cert sampleFiles_key rfl
    _).mpr ?_⟩
  exact fun _ _ _ _ _ _ _ succeed => absurd succeed fails

/-- The certificate cannot be renamed after the key was: the renewal fails, and the
old certificate is left beside a key that it does not belong to. -/
theorem failed_renewal_leaves_mismatch :
    sampleFiles.lookup sampleTarget.certPath = some [1] ∧
      sampleFiles.lookup sampleTarget.keyPath = some [1] ∧ sampleUsable [1] [1] = true ∧
      (∃ reason, (issueCertificate sampleUsable (sampleAnswers fineWrite failedRename)
        sampleTarget).2 = .error reason) ∧
      (Change.after sampleFiles (issueCertificate sampleUsable
        (sampleAnswers fineWrite failedRename) sampleTarget).1).lookup sampleTarget.certPath =
          some [1] ∧
      (Change.after sampleFiles (issueCertificate sampleUsable
        (sampleAnswers fineWrite failedRename) sampleTarget).1).lookup sampleTarget.keyPath =
          some [2] ∧
      sampleUsable [1] [2] = false := by
  have issues : issue sampleUsable (sampleAnswers fineWrite failedRename) = .ok ⟨[2], [2]⟩ := rfl
  have keySucceed : (sampleAnswers fineWrite failedRename).keyWrite.Succeed := by decide
  have certFail : ¬ (sampleAnswers fineWrite failedRename).certWrite.Succeed := by decide
  obtain ⟨fails, cert, key⟩ := mismatch_of_certificate_failure sampleTarget_apart issues keySucceed
    certFail sampleFiles_cert
  exact ⟨sampleFiles_cert, sampleFiles_key, rfl, fails, cert, key, rfl⟩

end Rtunnel.Acme
