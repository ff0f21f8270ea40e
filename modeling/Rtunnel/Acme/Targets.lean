import Mathlib.Data.List.Destutter
import Mathlib.Data.List.Sort
import Mathlib.Data.String.Basic
import Rtunnel.Acme.Slug

namespace Rtunnel.Acme

open Rtunnel.Data Rtunnel.Data.Paths Rtunnel.Data.Validation
open Rtunnel.Anytls (Failure)

/-! Where certificates are cached.

Every inbound with ACME domains is given the files of a target.  Inbounds with
the same domains, in whatever order, share one target.
-/

structure AcmeTarget where
  domains : List String
  dir : String
  certPath : String
  keyPath : String
deriving DecidableEq

def certFile : String := "cert.pem"

def keyFile : String := "key.pem"

/-- Where the certificates of one ACME directory are. -/
def certificatesDir (upstream : AcmeUpstream) (acmeCfg : AcmeConfig) (directory : String) :
    String :=
  let digest := hexEncode (upstream.sha256 (utf8Bytes directory)).bytes
  push (push acmeCfg.cacheDir "certificates") (String.ofList digest)

def targetIn (upstream : AcmeUpstream) (certificates : String) (domains : List String) :
    AcmeTarget :=
  let dir := push certificates (domainSlug upstream domains)
  { domains, dir, certPath := push dir certFile, keyPath := push dir keyFile }

theorem targetIn_dir (upstream : AcmeUpstream) (certificates : String) (domains : List String) :
    (targetIn upstream certificates domains).dir =
      push certificates (domainSlug upstream domains) := by
  simp only [targetIn]

theorem targetIn_certPath (upstream : AcmeUpstream) (certificates : String)
    (domains : List String) : (targetIn upstream certificates domains).certPath =
      push (push certificates (domainSlug upstream domains)) certFile := by
  simp only [targetIn]

def targetForDomains (upstream : AcmeUpstream) (acmeCfg : AcmeConfig) (domains : List String) :
    Except Failure AcmeTarget := do
  let directory ← directoryUrl upstream acmeCfg.directory
  return targetIn upstream (certificatesDir upstream acmeCfg directory) domains

/-- `domains.sort(); domains.dedup();` -/
def sortDedup (domains : List String) : List String :=
  (domains.insertionSort (· ≤ ·)).destutter (· ≠ ·)

abbrev Targets := KeyedMap (List String) AcmeTarget

/-- A target is made for every inbound, and dropped if there is one already. -/
def orInsert (targets : Targets) (domains : List String) (made : AcmeTarget) :
    Targets × AcmeTarget :=
  match targets.lookup domains with
  | some target => (targets, target)
  | none => (targets.insert domains made, made)

def configureTls (upstream : AcmeUpstream) (acmeCfg : AcmeConfig) (targets : Targets)
    (acme : TlsAcmeConfig) : Except Failure (Targets × TlsServerConfig) := do
  let domains := sortDedup acme.domains
  let made ← targetForDomains upstream acmeCfg domains
  let entry := orInsert targets domains made
  return (entry.1, ⟨some entry.2.certPath, some entry.2.keyPath, some ⟨domains⟩⟩)

def acmeOf (inbound : InboundConfig) : Option TlsAcmeConfig :=
  inbound.tls.bind fun tls => tls.acme

def configureInbound (upstream : AcmeUpstream) (acmeCfg : AcmeConfig) (targets : Targets)
    (inbound : InboundConfig) : Except Failure (Targets × InboundConfig) :=
  match acmeOf inbound with
  | none => .ok (targets, inbound)
  | some acme => do
      let (targets, tls) ← configureTls upstream acmeCfg targets acme
      return (targets, { inbound with tls := some tls })

def configureInbounds (upstream : AcmeUpstream) (acmeCfg : AcmeConfig) :
    Targets → List InboundConfig → Except Failure (Targets × List InboundConfig)
  | targets, [] => .ok (targets, [])
  | targets, inbound :: rest => do
      let (targets, inbound) ← configureInbound upstream acmeCfg targets inbound
      let (targets, rest) ← configureInbounds upstream acmeCfg targets rest
      return (targets, inbound :: rest)

/-- The configuration with the paths filled in, and the targets in the map's
order.  A call that fails ends the program, and what it changed is not seen. -/
def configureTargets (upstream : AcmeUpstream) (config : Config) (acmeCfg : AcmeConfig) :
    Except Failure (Config × List AcmeTarget) := do
  let (targets, inbounds) ← configureInbounds upstream acmeCfg ∅ config.inbounds
  return ({ config with inbounds }, targets.entries.map fun entry => entry.2)

def SameSet (first second : List String) : Prop := ∀ domain, domain ∈ first ↔ domain ∈ second

theorem sortDedup_eq_dedup (domains : List String) :
    sortDedup domains = (domains.insertionSort (· ≤ ·)).dedup :=
  (List.pairwise_insertionSort (· ≤ ·) domains).destutter_eq_dedup

theorem mem_sortDedup {domains : List String} {domain : String} :
    domain ∈ sortDedup domains ↔ domain ∈ domains := by
  rw [sortDedup_eq_dedup, List.mem_dedup]
  exact (List.perm_insertionSort (· ≤ ·) domains).mem_iff

theorem sortDedup_eq_iff {first second : List String} :
    sortDedup first = sortDedup second ↔ SameSet first second := by
  constructor
  · intro same domain
    rw [← mem_sortDedup, same, mem_sortDedup]
  · intro same
    have sorted : ∀ domains : List String, (sortDedup domains).Pairwise (· ≤ ·) :=
      fun domains => (List.pairwise_insertionSort (· ≤ ·) domains).sublist
        (List.destutter_sublist _ _)
    have distinct : ∀ domains : List String, (sortDedup domains).Nodup := fun domains => by
      rw [sortDedup_eq_dedup]
      exact List.nodup_dedup _
    have perm : (sortDedup first).Perm (sortDedup second) :=
      (List.perm_ext_iff_of_nodup (distinct first) (distinct second)).mpr fun domain => by
        rw [mem_sortDedup, mem_sortDedup]
        exact same domain
    exact perm.eq_of_pairwise (fun _ _ _ _ => le_antisymm) (sorted first) (sorted second)

theorem sameSet_sortDedup (domains : List String) : SameSet (sortDedup domains) domains :=
  fun _ => mem_sortDedup

theorem targetForDomains_fixed (upstream : AcmeUpstream) (acmeCfg : AcmeConfig) :
    ∃ certificates, ∀ domains target, targetForDomains upstream acmeCfg domains = .ok target →
      target = targetIn upstream certificates domains := by
  cases resolved : directoryUrl upstream acmeCfg.directory with
  | error reason =>
      refine ⟨"", fun domains target made => ?_⟩
      rw [targetForDomains, resolved] at made
      cases made
  | ok directory =>
      refine ⟨certificatesDir upstream acmeCfg directory, fun domains target made => ?_⟩
      rw [targetForDomains, resolved] at made
      cases made
      rfl

/-- The domain lists of the inbounds that use ACME. -/
def domainLists (inbounds : List InboundConfig) : List (List String) :=
  (inbounds.filterMap acmeOf).map fun acme => acme.domains

/-- An inbound with the paths of the target of its domains. -/
def assign (upstream : AcmeUpstream) (certificates : String) (inbound : InboundConfig) :
    InboundConfig :=
  match acmeOf inbound with
  | none => inbound
  | some acme =>
      let target := targetIn upstream certificates (sortDedup acme.domains)
      { inbound with
        tls := some ⟨some target.certPath, some target.keyPath, some ⟨sortDedup acme.domains⟩⟩ }

/-- Every list of domains is filed with its own target. -/
def Filed (upstream : AcmeUpstream) (certificates : String) (targets : Targets) : Prop :=
  ∀ domains target, targets.lookup domains = some target →
    target = targetIn upstream certificates domains

/-- Targets were added for some lists of domains and for no others. -/
structure Adds (upstream : AcmeUpstream) (certificates : String) (before after : Targets)
    (lists : List (List String)) : Prop where
  filed : Filed upstream certificates after
  found_iff : ∀ domains, (after.lookup domains).isSome ↔
    (before.lookup domains).isSome ∨ ∃ list ∈ lists, sortDedup list = domains

section Run

variable {upstream : AcmeUpstream} {acmeCfg : AcmeConfig} {certificates : String}

theorem orInsert_filed {targets : Targets} (filed : Filed upstream certificates targets)
    {list : List String} {made : AcmeTarget}
    (made_eq : made = targetIn upstream certificates (sortDedup list)) :
    (orInsert targets (sortDedup list) made).2 = made ∧
      Adds upstream certificates targets (orInsert targets (sortDedup list) made).1 [list] := by
  unfold orInsert
  cases found : targets.lookup (sortDedup list) with
  | some target =>
      refine ⟨(filed _ _ found).trans made_eq.symm, filed, fun domains => ?_⟩
      constructor
      · exact .inl
      · rintro (before | ⟨other, member, same⟩)
        · exact before
        · cases List.mem_singleton.mp member
          rw [← same, found]
          rfl
  | none =>
      refine ⟨rfl, fun domains target stored => ?_, fun domains => ?_⟩
      · by_cases same : domains = sortDedup list
        · rw [same, AList.lookup_insert] at stored
          rw [same, ← Option.some.inj stored]
          exact made_eq
        · rw [AList.lookup_insert_ne same] at stored
          exact filed domains target stored
      · by_cases same : domains = sortDedup list
        · rw [same, AList.lookup_insert]
          exact iff_of_true rfl (.inr ⟨list, List.mem_singleton_self _, rfl⟩)
        · rw [AList.lookup_insert_ne same]
          constructor
          · exact .inl
          · rintro (before | ⟨other, member, equal⟩)
            · exact before
            · cases List.mem_singleton.mp member
              exact absurd equal.symm same

variable (fixed : ∀ domains target, targetForDomains upstream acmeCfg domains = .ok target →
  target = targetIn upstream certificates domains)
include fixed

theorem configureInbound_adds {before after : Targets} {inbound configured : InboundConfig}
    (filed : Filed upstream certificates before)
    (succeeds : configureInbound upstream acmeCfg before inbound = .ok (after, configured)) :
    configured = assign upstream certificates inbound ∧
      Adds upstream certificates before after (domainLists [inbound]) := by
  unfold configureInbound at succeeds
  unfold assign
  cases uses : acmeOf inbound with
  | none =>
      rw [uses] at succeeds
      cases succeeds
      refine ⟨rfl, filed, fun domains => ?_⟩
      simp [domainLists, uses]
  | some acme =>
      rw [uses] at succeeds
      obtain ⟨result, written, returned⟩ := bind_eq_ok_iff.mp succeeds
      obtain ⟨made, makes, written⟩ := bind_eq_ok_iff.mp written
      have made_eq := fixed _ _ makes
      obtain ⟨same, adds⟩ := orInsert_filed filed made_eq
      obtain rfl := Except.ok.inj written
      obtain ⟨rfl, rfl⟩ := Prod.mk.inj (Except.ok.inj returned)
      have lists : domainLists [inbound] = [acme.domains] := by simp [domainLists, uses]
      rw [lists]
      refine ⟨?_, adds⟩
      dsimp only
      rw [same, made_eq]

theorem configureInbounds_adds {before after : Targets} {inbounds configured : List InboundConfig}
    (filed : Filed upstream certificates before)
    (succeeds : configureInbounds upstream acmeCfg before inbounds = .ok (after, configured)) :
    configured = inbounds.map (assign upstream certificates) ∧
      Adds upstream certificates before after (domainLists inbounds) := by
  induction inbounds generalizing before configured with
  | nil =>
      cases succeeds
      exact ⟨rfl, filed, fun domains => by simp [domainLists]⟩
  | cons inbound rest ih =>
      obtain ⟨⟨middle, head⟩, first, succeeds⟩ := bind_eq_ok_iff.mp succeeds
      obtain ⟨⟨last, tail⟩, later, returned⟩ := bind_eq_ok_iff.mp succeeds
      cases returned
      obtain ⟨headEq, headAdds⟩ := configureInbound_adds fixed filed first
      obtain ⟨tailEq, tailAdds⟩ := ih headAdds.filed later
      refine ⟨by rw [headEq, tailEq, List.map_cons], tailAdds.filed, fun domains => ?_⟩
      have lists : domainLists (inbound :: rest) =
          domainLists [inbound] ++ domainLists rest := by
        rw [domainLists, List.filterMap_cons]
        cases uses : acmeOf inbound <;> simp [domainLists, uses]
      rw [tailAdds.found_iff, headAdds.found_iff, lists, or_assoc]
      simp only [List.mem_append, or_and_right, exists_or]

end Run

/-- A directory that is accepted is the only thing the call asks for. -/
theorem configureTargets_succeeds {upstream : AcmeUpstream} (config : Config)
    {acmeCfg : AcmeConfig} {directory : String}
    (accepted : directoryUrl upstream acmeCfg.directory = .ok directory) :
    ∃ after targets, configureTargets upstream config acmeCfg = .ok (after, targets) := by
  have inbound : ∀ (targets : Targets) (inbound : InboundConfig),
      ∃ result, configureInbound upstream acmeCfg targets inbound = .ok result := by
    intro targets inbound
    unfold configureInbound configureTls targetForDomains
    rw [accepted]
    cases acmeOf inbound with
    | none => exact ⟨_, rfl⟩
    | some acme => exact ⟨_, rfl⟩
  have run : ∀ (inbounds : List InboundConfig) (targets : Targets),
      ∃ result, configureInbounds upstream acmeCfg targets inbounds = .ok result := by
    intro inbounds
    induction inbounds with
    | nil => exact fun targets => ⟨_, rfl⟩
    | cons first rest ih =>
        intro targets
        obtain ⟨⟨middle, head⟩, succeeds⟩ := inbound targets first
        obtain ⟨⟨last, tail⟩, later⟩ := ih middle
        refine ⟨(last, head :: tail), ?_⟩
        exact bind_eq_ok_iff.mpr ⟨_, succeeds, bind_eq_ok_iff.mpr ⟨_, later, rfl⟩⟩
  obtain ⟨⟨filled, inbounds⟩, succeeds⟩ := run config.inbounds ∅
  exact ⟨_, _, bind_eq_ok_iff.mpr ⟨_, succeeds, rfl⟩⟩

/-- The inbounds have the paths of their targets, and the targets are those of
the inbounds' domains, each once. -/
theorem configureTargets_spec {upstream : AcmeUpstream} {config after : Config}
    {acmeCfg : AcmeConfig} {targets : List AcmeTarget}
    (succeeds : configureTargets upstream config acmeCfg = .ok (after, targets)) :
    ∃ certificates, after.inbounds = config.inbounds.map (assign upstream certificates) ∧
      (targets.map fun target => target.domains).Nodup ∧
      ∀ target, target ∈ targets ↔ ∃ list ∈ domainLists config.inbounds,
        target = targetIn upstream certificates (sortDedup list) := by
  obtain ⟨certificates, fixed⟩ := targetForDomains_fixed upstream acmeCfg
  obtain ⟨⟨filled, inbounds⟩, configured, returned⟩ := bind_eq_ok_iff.mp succeeds
  cases returned
  have empty : Filed upstream certificates ∅ := by
    intro domains target found
    cases found
  obtain ⟨assigned, adds⟩ := configureInbounds_adds fixed empty configured
  have stored : ∀ entry ∈ filled.entries, entry.2 = targetIn upstream certificates entry.1 :=
    fun entry member => adds.filed entry.1 entry.2 (List.mem_dlookup filled.nodupKeys member)
  refine ⟨certificates, assigned, ?_, fun target => ?_⟩
  · have keys : (filled.entries.map fun entry => entry.2).map (fun target => target.domains) =
        filled.keys := by
      rw [List.map_map]
      refine List.map_congr_left fun entry member => ?_
      exact congrArg AcmeTarget.domains (stored entry member)
    rw [keys]
    exact filled.keys_nodup
  · rw [List.mem_map]
    constructor
    · rintro ⟨entry, member, rfl⟩
      have found : filled.lookup entry.1 = some entry.2 :=
        List.mem_dlookup filled.nodupKeys member
      rcases (adds.found_iff entry.1).mp (by rw [found]; rfl) with before | ⟨list, listed, same⟩
      · cases before
      · exact ⟨list, listed, by rw [stored entry member, same]⟩
    · rintro ⟨list, listed, rfl⟩
      have found := (adds.found_iff (sortDedup list)).mpr (.inr ⟨list, listed, rfl⟩)
      obtain ⟨target, looked⟩ := Option.isSome_iff_exists.mp found
      have member := List.of_mem_dlookup looked
      exact ⟨⟨sortDedup list, target⟩, member, adds.filed _ _ looked⟩

end Rtunnel.Acme
