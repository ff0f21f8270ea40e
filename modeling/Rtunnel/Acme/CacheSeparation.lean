import Rtunnel.Acme.Targets

namespace Rtunnel.Acme

open Rtunnel.Data Rtunnel.Data.Paths
open Rtunnel.Anytls (Failure)

/-! Which inbounds share a certificate.

Targets are kept apart by the domains themselves, directories only by a slug of
them.  Inbounds with different domains therefore share certificate files exactly
if their domains share a slug.
-/

/-- The text that the directory of a list of domains is named after. -/
def cacheText (domains : List String) : String := "_".intercalate (sortDedup domains)

/-- The ACME inbound at a position lists these domains and is given these files. -/
structure Given (before after : Config) (index : Nat) (domains : List String)
    (cert key : String) : Prop where
  lists : ∃ inbound acme, before.inbounds[index]? = some inbound ∧
    acmeOf inbound = some acme ∧ acme.domains = domains
  given : ∃ inbound tls, after.inbounds[index]? = some inbound ∧ inbound.tls = some tls ∧
    tls.certificate = some cert ∧ tls.privateKey = some key

/-- What the certificate cache promises: every ACME inbound is given files, two of
them the same certificate exactly for the same set of domains.  There is one
target for each of these sets and no other, targets are in different
directories, and every inbound is given the files of its own target. -/
structure CacheSeparated (before after : Config) (targets : List AcmeTarget) : Prop where
  all_given : ∀ index inbound acme, before.inbounds[index]? = some inbound →
    acmeOf inbound = some acme → ∃ cert key, Given before after index acme.domains cert key
  same_certificate_iff : ∀ {firstIndex secondIndex firstDomains secondDomains firstCert firstKey
      secondCert secondKey},
    Given before after firstIndex firstDomains firstCert firstKey →
    Given before after secondIndex secondDomains secondCert secondKey →
    (firstCert = secondCert ↔ SameSet firstDomains secondDomains)
  own_files : ∀ {index domains cert key}, Given before after index domains cert key →
    ∃ target ∈ targets, SameSet target.domains domains ∧
      cert = target.certPath ∧ key = target.keyPath
  all_used : ∀ target ∈ targets, ∃ index domains cert key,
    Given before after index domains cert key ∧ SameSet target.domains domains
  listed_once : targets.Nodup
  one_target : ∀ first ∈ targets, ∀ second ∈ targets,
    SameSet first.domains second.domains → first = second
  dirs_distinct : (targets.map fun target => target.dir).Nodup

/-- Domain lists of two ACME inbounds share a slug only if they are the same set. -/
def SlugsApart (upstream : AcmeUpstream) (config : Config) : Prop :=
  ∀ first ∈ domainLists config.inbounds, ∀ second ∈ domainLists config.inbounds,
    SharesSlug upstream (cacheText first) (cacheText second) → SameSet first second

section Files

variable {upstream : AcmeUpstream} {certificates : String} {first second : List String}

theorem component_domainSlug (upstream : AcmeUpstream) (domains : List String) :
    Component (domainSlug upstream domains) := component_stableSlug upstream _

theorem dir_eq_iff : (targetIn upstream certificates first).dir =
      (targetIn upstream certificates second).dir ↔
    domainSlug upstream first = domainSlug upstream second := by
  rw [targetIn_dir, targetIn_dir]
  constructor
  · exact push_injective (component_domainSlug _ _) (component_domainSlug _ _)
  · exact congrArg (push certificates)

theorem certPath_eq_iff : (targetIn upstream certificates first).certPath =
      (targetIn upstream certificates second).certPath ↔
    domainSlug upstream first = domainSlug upstream second := by
  have name : Component certFile := by decide
  rw [targetIn_certPath, targetIn_certPath]
  constructor
  · exact push_push_injective (component_domainSlug _ _) (component_domainSlug _ _) name
  · intro same
    rw [same]

theorem mem_domainLists {inbounds : List InboundConfig} {domains : List String} :
    domains ∈ domainLists inbounds ↔ ∃ (index : Nat) (inbound : InboundConfig)
      (acme : TlsAcmeConfig), inbounds[index]? = some inbound ∧ acmeOf inbound = some acme ∧
        acme.domains = domains := by
  rw [domainLists, List.mem_map]
  constructor
  · rintro ⟨acme, listed, same⟩
    obtain ⟨inbound, member, uses⟩ := List.mem_filterMap.mp listed
    obtain ⟨index, found⟩ := List.mem_iff_getElem?.mp member
    exact ⟨index, inbound, acme, found, uses, same⟩
  · rintro ⟨index, inbound, acme, found, uses, same⟩
    exact ⟨acme, List.mem_filterMap.mpr ⟨inbound, List.mem_of_getElem? found, uses⟩, same⟩

variable {before after : Config}

theorem mem_of_given {index : Nat} {domains : List String} {cert key : String}
    (given : Given before after index domains cert key) :
    domains ∈ domainLists before.inbounds := by
  obtain ⟨inbound, acme, found, uses, same⟩ := given.lists
  exact mem_domainLists.mpr ⟨index, inbound, acme, found, uses, same⟩

variable
  (assigned : after.inbounds = before.inbounds.map (assign upstream certificates))
include assigned

theorem given_iff {index : Nat} {domains : List String} {cert key : String} :
    Given before after index domains cert key ↔
      (∃ inbound acme, before.inbounds[index]? = some inbound ∧
        acmeOf inbound = some acme ∧ acme.domains = domains) ∧
      cert = (targetIn upstream certificates (sortDedup domains)).certPath ∧
      key = (targetIn upstream certificates (sortDedup domains)).keyPath := by
  have later : ∀ inbound acme, before.inbounds[index]? = some inbound →
      acmeOf inbound = some acme → after.inbounds[index]? =
        some { inbound with
          tls := some ⟨some (targetIn upstream certificates (sortDedup acme.domains)).certPath,
            some (targetIn upstream certificates (sortDedup acme.domains)).keyPath,
            some ⟨sortDedup acme.domains⟩⟩ } := by
    intro inbound acme found uses
    rw [assigned, List.getElem?_map, found, Option.map_some, assign, uses]
  constructor
  · rintro ⟨⟨inbound, acme, found, uses, rfl⟩, configured, tls, foundAfter, encrypted, certEq,
      keyEq⟩
    refine ⟨⟨inbound, acme, found, uses, rfl⟩, ?_⟩
    have same := Option.some.inj ((later inbound acme found uses).symm.trans foundAfter)
    subst same
    have filled := Option.some.inj encrypted
    subst filled
    exact ⟨(Option.some.inj certEq).symm, (Option.some.inj keyEq).symm⟩
  · rintro ⟨⟨inbound, acme, found, uses, rfl⟩, certEq, keyEq⟩
    rw [certEq, keyEq]
    exact ⟨⟨inbound, acme, found, uses, rfl⟩, _, _, later inbound acme found uses, rfl, rfl, rfl⟩

theorem given_of_mem {domains : List String} (listed : domains ∈ domainLists before.inbounds) :
    ∃ index, Given before after index domains
      (targetIn upstream certificates (sortDedup domains)).certPath
      (targetIn upstream certificates (sortDedup domains)).keyPath := by
  obtain ⟨index, inbound, acme, found, uses, same⟩ := mem_domainLists.mp listed
  exact ⟨index, (given_iff assigned).mpr ⟨⟨inbound, acme, found, uses, same⟩, rfl, rfl⟩⟩

end Files

section Separation

variable {upstream : AcmeUpstream} {config after : Config} {targets : List AcmeTarget}
  {certificates : String}
  (assigned : after.inbounds = config.inbounds.map (assign upstream certificates))
include assigned

/-- Inbounds whose slugs are the same are given the same certificate. -/
theorem sameSet_of_separated (separated : CacheSeparated config after targets)
    {first second : List String} (firstListed : first ∈ domainLists config.inbounds)
    (secondListed : second ∈ domainLists config.inbounds)
    (slugs : domainSlug upstream (sortDedup first) = domainSlug upstream (sortDedup second)) :
    SameSet first second := by
  obtain ⟨firstIndex, firstGiven⟩ := given_of_mem assigned firstListed
  obtain ⟨secondIndex, secondGiven⟩ := given_of_mem assigned secondListed
  exact (separated.same_certificate_iff firstGiven secondGiven).mp (certPath_eq_iff.mpr slugs)

/-- The cache keeps its promise if slugs tell sets of domains apart. -/
theorem cacheSeparated_of_slugs
    (distinct : (targets.map fun target => target.domains).Nodup)
    (members : ∀ target, target ∈ targets ↔ ∃ list ∈ domainLists config.inbounds,
      target = targetIn upstream certificates (sortDedup list))
    (slugs : ∀ first ∈ domainLists config.inbounds, ∀ second ∈ domainLists config.inbounds,
      (domainSlug upstream (sortDedup first) = domainSlug upstream (sortDedup second) ↔
        SameSet first second)) : CacheSeparated config after targets where
  all_given := by
    intro index inbound acme found uses
    exact ⟨_, _, (given_iff assigned).mpr ⟨⟨inbound, acme, found, uses, rfl⟩, rfl, rfl⟩⟩
  same_certificate_iff := by
    intro firstIndex secondIndex firstDomains secondDomains firstCert firstKey secondCert
      secondKey firstGiven secondGiven
    rw [((given_iff assigned).mp firstGiven).2.1, ((given_iff assigned).mp secondGiven).2.1,
      certPath_eq_iff]
    exact slugs _ (mem_of_given firstGiven) _ (mem_of_given secondGiven)
  own_files := by
    intro index domains cert key given
    exact ⟨_, (members _).mpr ⟨domains, mem_of_given given, rfl⟩, sameSet_sortDedup domains,
      ((given_iff assigned).mp given).2⟩
  all_used := by
    intro target member
    obtain ⟨domains, listed, rfl⟩ := (members target).mp member
    obtain ⟨index, given⟩ := given_of_mem assigned listed
    exact ⟨index, domains, _, _, given, sameSet_sortDedup domains⟩
  listed_once := distinct.of_map
  one_target := by
    intro first firstMember second secondMember same
    obtain ⟨firstDomains, _, rfl⟩ := (members first).mp firstMember
    obtain ⟨secondDomains, _, rfl⟩ := (members second).mp secondMember
    have equal : SameSet firstDomains secondDomains := fun domain =>
      mem_sortDedup.symm.trans ((same domain).trans mem_sortDedup)
    rw [sortDedup_eq_iff.mpr equal]
  dirs_distinct := by
    refine List.Nodup.map_on ?_ distinct.of_map
    intro first firstMember second secondMember same
    obtain ⟨firstDomains, firstListed, rfl⟩ := (members first).mp firstMember
    obtain ⟨secondDomains, secondListed, rfl⟩ := (members second).mp secondMember
    have equal := (slugs _ firstListed _ secondListed).mp (dir_eq_iff.mp same)
    rw [sortDedup_eq_iff.mpr equal]

end Separation

/-- The certificate cache keeps its promise exactly if no two different sets of
domains share a slug. -/
theorem cache_is_separated_iff {upstream : AcmeUpstream} {config after : Config}
    {acmeCfg : AcmeConfig} {targets : List AcmeTarget}
    (configured : configureTargets upstream config acmeCfg = .ok (after, targets)) :
    CacheSeparated config after targets ↔ SlugsApart upstream config := by
  obtain ⟨certificates, assigned, distinct, members⟩ := configureTargets_spec configured
  constructor
  · intro separated first firstListed second secondListed shared
    exact sameSet_of_separated assigned separated firstListed secondListed
      (stableSlug_eq_iff.mpr shared)
  · intro apart
    refine cacheSeparated_of_slugs assigned distinct members ?_
    intro first firstListed second secondListed
    constructor
    · intro slugs
      have shared : SharesSlug upstream (cacheText first) (cacheText second) :=
        stableSlug_eq_iff.mp slugs
      exact apart first firstListed second secondListed shared
    · intro same
      rw [sortDedup_eq_iff.mpr same]

/-- Different slugs are enough. -/
theorem slugsApart_of_slugs {upstream : AcmeUpstream} {config : Config}
    (different : ∀ first ∈ domainLists config.inbounds, ∀ second ∈ domainLists config.inbounds,
      domainSlug upstream (sortDedup first) = domainSlug upstream (sortDedup second) →
        sortDedup first = sortDedup second) : SlugsApart upstream config := by
  intro first firstListed second secondListed shared
  exact sortDedup_eq_iff.mp
    (different first firstListed second secondListed (stableSlug_eq_iff.mpr shared))

/-- One inbound for each list of domains. -/
def acmeInbounds (lists : List (List String)) : Config where
  acme := none
  inbounds := lists.map fun domains => ⟨"anytls-in", some ⟨none, none, some ⟨domains⟩⟩⟩
  outbounds := [directOutbound "direct"]
  routing := ⟨none, []⟩

def sampleLists : List (List String) :=
  [["b.example", "a.example"], ["a.example", "b.example", "a.example"], ["c.example"]]

theorem sample_cache_is_separated :
    (acmeInbounds sampleLists).validate = .ok () ∧
      ∃ after targets, configureTargets sampleUpstream (acmeInbounds sampleLists)
          (acmeInbounds sampleLists).acmeConfig = .ok (after, targets) ∧
        CacheSeparated (acmeInbounds sampleLists) after targets := by
  have lists : domainLists (acmeInbounds sampleLists).inbounds = sampleLists := rfl
  obtain ⟨after, targets, configured⟩ :=
    configureTargets_succeeds (acmeInbounds sampleLists) accepted_default
  refine ⟨by decide +kernel, after, targets, configured, ?_⟩
  refine (cache_is_separated_iff configured).mpr (slugsApart_of_slugs ?_)
  rw [lists]
  decide +kernel

def clashingLists : List (List String) := [["a.example", "b.example"], ["a.example_b.example"]]

/-- A list of two domains and one domain with an underscore: both inbounds pass
validation, are given one certificate, and have two targets in one directory. -/
theorem clashing_domains_share_certificate :
    (acmeInbounds clashingLists).validate = .ok () ∧
      ∃ after targets, configureTargets sampleUpstream (acmeInbounds clashingLists)
          (acmeInbounds clashingLists).acmeConfig = .ok (after, targets) ∧
        (∃ cert firstKey secondKey,
          Given (acmeInbounds clashingLists) after 0 ["a.example", "b.example"] cert firstKey ∧
          Given (acmeInbounds clashingLists) after 1 ["a.example_b.example"] cert secondKey) ∧
        ¬ SameSet ["a.example", "b.example"] ["a.example_b.example"] ∧
        ∃ first ∈ targets, ∃ second ∈ targets, first ≠ second ∧ first.dir = second.dir := by
  obtain ⟨after, targets, configured⟩ :=
    configureTargets_succeeds (acmeInbounds clashingLists) accepted_default
  obtain ⟨certificates, assigned, _, members⟩ := configureTargets_spec configured
  have slugs : domainSlug sampleUpstream (sortDedup ["a.example", "b.example"]) =
      domainSlug sampleUpstream (sortDedup ["a.example_b.example"]) := by decide +kernel
  let pair := targetIn sampleUpstream certificates (sortDedup ["a.example", "b.example"])
  let single := targetIn sampleUpstream certificates (sortDedup ["a.example_b.example"])
  have certs : pair.certPath = single.certPath := certPath_eq_iff.mpr slugs
  have dirs : pair.dir = single.dir := dir_eq_iff.mpr slugs
  have first : Given (acmeInbounds clashingLists) after 0 ["a.example", "b.example"]
      pair.certPath pair.keyPath := (given_iff assigned).mpr ⟨⟨_, _, rfl, rfl, rfl⟩, rfl, rfl⟩
  have second : Given (acmeInbounds clashingLists) after 1 ["a.example_b.example"]
      single.certPath single.keyPath :=
    (given_iff assigned).mpr ⟨⟨_, _, rfl, rfl, rfl⟩, rfl, rfl⟩
  rw [← certs] at second
  refine ⟨by decide +kernel, after, targets, configured, ⟨_, _, _, first, second⟩, ?_, ?_⟩
  · intro same
    have listed := (same "a.example").mp (by simp)
    simp at listed
  · have listed : domainLists (acmeInbounds clashingLists).inbounds = clashingLists := rfl
    refine ⟨pair, (members _).mpr ⟨_, ?_, rfl⟩, single, (members _).mpr ⟨_, ?_, rfl⟩, ?_, dirs⟩
    · rw [listed]
      exact List.mem_cons_self
    · rw [listed]
      exact List.mem_cons_of_mem _ List.mem_cons_self
    · intro same
      have domains : sortDedup ["a.example", "b.example"] = sortDedup ["a.example_b.example"] :=
        congrArg AcmeTarget.domains same
      revert domains
      decide +kernel

end Rtunnel.Acme
