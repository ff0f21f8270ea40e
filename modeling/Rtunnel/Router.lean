import Rtunnel.Anytls.PaddingScheme
import Rtunnel.Config.Validate
import Rtunnel.Socks5.Handshake

namespace Rtunnel

open Rtunnel.Data Rtunnel.Data.Validation
open Rtunnel.Anytls (Failure PaddingUpstream ClientState)
open Rtunnel.Socks5 (Socks5Outbound)

/-! The router: which outbound a session leaves through.

Outbounds are built from the configuration once and filed under their tags.  A
session is matched against the rules by the tag of its inbound.
-/

/-- The settings an outbound keeps.  An AnyTLS outbound starts with no session. -/
inductive Outbound (Uuid : Type) where
  | direct
  | socks5 (server : ServerAddr) (outbound : Socks5Outbound)
  | anytls (cfg : OutboundEntry) (state : ClientState)
  | tuic (cfg : OutboundEntry) (uuid : Uuid) (password : String)

def OutboundEntry.requireServer (entry : OutboundEntry) : Except Failure ServerAddr :=
  match entry.server with
  | some server => .ok server
  | none => .error ("outbound " ++ entry.tag ++ " requires server")

section Build

variable (padding : PaddingUpstream) {Uuid : Type} (parseUuid : String → Except Failure Uuid)

def newSocks5Outbound (cfg : OutboundEntry) : Except Failure (Outbound Uuid) := do
  let server ← cfg.requireServer
  return .socks5 server ⟨cfg.username, cfg.password⟩

def newAnytlsOutbound (cfg : OutboundEntry) : Except Failure (Outbound Uuid) := do
  cfg.toOutboundConfig.validate
  let _ ← cfg.requireServer
  let state ← ClientState.fromPaddingScheme padding []
  return .anytls cfg state

def newTuicOutbound (cfg : OutboundEntry) : Except Failure (Outbound Uuid) := do
  let _ ← cfg.requireServer
  let text ← match cfg.uuid with
    | some text => .ok text
    | none => .error "tuic outbound requires uuid"
  let uuid ← parseUuid text
  let password ← match cfg.password with
    | some password =>
        if password = "" then .error "tuic outbound requires password" else .ok password
    | none => .error "tuic outbound requires password"
  return .tuic cfg uuid password

/-- The server is asked for a second time, after the outbound is built. -/
def buildOutbound (cfg : OutboundEntry) : Except Failure (Outbound Uuid) := do
  let outbound ← match cfg.protocol with
    | .direct => .ok .direct
    | .socks5 => newSocks5Outbound cfg
    | .anytls => newAnytlsOutbound padding cfg
    | .tuic => newTuicOutbound parseUuid cfg
  ensure (cfg.protocol == .direct || cfg.server.isSome)
    ("outbound " ++ cfg.tag ++ " requires server")
  return outbound

end Build

structure Router (Uuid : Type) where
  cfg : Config
  outbounds : KeyedMap String (Outbound Uuid)

namespace Router

variable (padding : PaddingUpstream) {Uuid Stream : Type}
  (parseUuid : String → Except Failure Uuid)

def new (cfg : Config) : Except Failure (Router Uuid) := do
  let outbounds ← tabulate (fun outbound : OutboundEntry => outbound.tag)
    (buildOutbound padding parseUuid) cfg.outbounds
  return { cfg, outbounds }

def pickOutbound (router : Router Uuid) (session : Session) : Except Failure String :=
  match router.cfg.routing.rules.find? fun rule => rule.inbound == some session.inbound with
  | some rule => .ok rule.outbound
  | none =>
      match router.cfg.routing.default with
      | some default => .ok default
      | none =>
          match router.cfg.outbounds.head? with
          | some out => .ok out.tag
          | none => .error "no outbound available"

/-- Find the session's outbound and leave the rest to it. -/
def forward (attempt : Outbound Uuid → Session → Except Failure Stream) (router : Router Uuid)
    (session : Session) : Except Failure Stream := do
  let tag ← router.pickOutbound session
  match router.outbounds.lookup tag with
  | some outbound => attempt outbound session
  | none => .error ("unknown outbound " ++ tag)

/-- `connect` is what the outbounds do to reach a stream target. -/
def dial (connect : Outbound Uuid → Session → Except Failure Stream) (router : Router Uuid)
    (session : Session) : Except Failure Stream := router.forward connect session

/-- `associate` is what the outbounds do to relay datagrams. -/
def dialUdp (associate : Outbound Uuid → Session → Except Failure Stream)
    (router : Router Uuid) (session : Session) : Except Failure Stream :=
  router.forward associate session

end Router

/-- Every rule that some session can match names a configured outbound.  A rule
without inbound, or behind another one for the same inbound, is never matched. -/
def Config.RulesKnown (config : Config) : Prop :=
  ∀ earlier rule later inbound, config.routing.rules = earlier ++ rule :: later →
    rule.inbound = some inbound → (∀ other ∈ earlier, other.inbound ≠ some inbound) →
    ∃ outbound ∈ config.outbounds, outbound.tag = rule.outbound

theorem Config.rulesKnown_of_forall {config : Config}
    (known : ∀ rule ∈ config.routing.rules, ∃ outbound ∈ config.outbounds,
      outbound.tag = rule.outbound) : config.RulesKnown := by
  intro earlier rule later inbound split _ _
  exact known rule (by simp [split])

namespace Router

variable {padding : PaddingUpstream} {Uuid Stream : Type}
  {parseUuid : String → Except Failure Uuid} {config : Config} {router : Router Uuid}

theorem new_eq_ok (built : new padding parseUuid config = .ok router) :
    router.cfg = config ∧ tabulate (fun outbound : OutboundEntry => outbound.tag)
      (buildOutbound padding parseUuid) config.outbounds = .ok router.outbounds := by
  obtain ⟨outbounds, filed, returned⟩ := bind_eq_ok_iff.mp built
  cases returned
  exact ⟨rfl, filed⟩

theorem pickOutbound_of_rule {rule : RouteRule} {session : Session}
    {earlier later : List RouteRule}
    (split : router.cfg.routing.rules = earlier ++ rule :: later)
    (matched : rule.inbound = some session.inbound)
    (passed : ∀ other ∈ earlier, other.inbound ≠ some session.inbound) :
    router.pickOutbound session = .ok rule.outbound := by
  have found : router.cfg.routing.rules.find?
      (fun rule => rule.inbound == some session.inbound) = some rule := by
    rw [List.find?_eq_some_iff_append]
    exact ⟨by simp [matched], earlier, later, split, fun other member => by
      simpa using passed other member⟩
  rw [pickOutbound, found]

/-- A rule, the default or the first outbound decides. -/
theorem pickOutbound_cases (leaves : router.cfg.outbounds ≠ []) (session : Session) :
    (∃ earlier rule later, router.cfg.routing.rules = earlier ++ rule :: later ∧
        rule.inbound = some session.inbound ∧
        (∀ other ∈ earlier, other.inbound ≠ some session.inbound) ∧
        router.pickOutbound session = .ok rule.outbound) ∨
      (∃ default, router.cfg.routing.default = some default ∧
        router.pickOutbound session = .ok default) ∨
      ∃ out ∈ router.cfg.outbounds, router.pickOutbound session = .ok out.tag := by
  cases found : router.cfg.routing.rules.find?
      (fun rule => rule.inbound == some session.inbound) with
  | some rule =>
      obtain ⟨matched, earlier, later, split, passed⟩ :=
        List.find?_eq_some_iff_append.mp found
      refine .inl ⟨earlier, rule, later, split, by simpa using matched, fun other member => ?_,
        by rw [pickOutbound, found]⟩
      simpa using passed other member
  | none =>
      refine .inr ?_
      cases default : router.cfg.routing.default with
      | some tag => exact .inl ⟨tag, rfl, by simp only [pickOutbound, found, default]⟩
      | none =>
          obtain ⟨out, rest, listed⟩ := List.exists_cons_of_ne_nil leaves
          refine .inr ⟨out, by simp [listed], ?_⟩
          simp only [pickOutbound, found, default, listed, List.head?_cons]

theorem lookup_isSome_iff (built : new padding parseUuid config = .ok router) (tag : String) :
    (router.outbounds.lookup tag).isSome ↔ ∃ outbound ∈ config.outbounds, outbound.tag = tag :=
  lookup_tabulate_isSome_iff (new_eq_ok built).2 tag

/-- The picked tag of every session is configured when the reachable rules are. -/
theorem pickOutbound_known (checked : config.Checked) (known : config.RulesKnown)
    (built : new padding parseUuid config = .ok router) (session : Session) :
    ∃ tag, router.pickOutbound session = .ok tag ∧
      ∃ outbound ∈ config.outbounds, outbound.tag = tag := by
  obtain ⟨same, _⟩ := new_eq_ok built
  subst same
  rcases pickOutbound_cases checked.leaves session with
    ⟨earlier, rule, later, split, matched, passed, picked⟩ | ⟨default, set, picked⟩ |
      ⟨out, member, picked⟩
  · exact ⟨_, picked, known earlier rule later _ split matched passed⟩
  · exact ⟨_, picked, checked.default_known default set⟩
  · exact ⟨_, picked, out, member, rfl⟩

theorem forward_of_lookup {session : Session} {tag : String} {outbound : Outbound Uuid}
    (picked : router.pickOutbound session = .ok tag)
    (found : router.outbounds.lookup tag = some outbound)
    (attempt : Outbound Uuid → Session → Except Failure Stream) :
    router.forward attempt session = attempt outbound session := by
  unfold forward
  rw [picked]
  change (match router.outbounds.lookup tag with
    | some outbound => attempt outbound session
    | none => .error ("unknown outbound " ++ tag)) = _
  rw [found]

/-- A session is routed: its tag is filed, and both kinds of dialling are what
the outbound of that tag makes of the session. -/
structure Routes (router : Router Uuid) (session : Session) (tag : String)
    (outbound : Outbound Uuid) : Prop where
  picked : router.pickOutbound session = .ok tag
  filed : router.outbounds.lookup tag = some outbound
  dials : ∀ (Stream : Type) (connect : Outbound Uuid → Session → Except Failure Stream),
    router.dial connect session = connect outbound session
  dials_udp : ∀ (Stream : Type) (associate : Outbound Uuid → Session → Except Failure Stream),
    router.dialUdp associate session = associate outbound session

/-- A validated configuration routes every session exactly if every rule that a
session can match names a configured outbound; validation does not ask for that. -/
theorem every_session_is_routed_iff (valid : config.validate = .ok ())
    (built : new padding parseUuid config = .ok router) :
    (∀ session, ∃ tag outbound, router.Routes session tag outbound) ↔ config.RulesKnown := by
  have checked := Config.validate_eq_ok_iff.mp valid
  constructor
  · intro routed earlier rule later inbound split matched passed
    have same := (new_eq_ok built).1
    let session : Session := ⟨inbound, .connect, .ip (.v4 loopback 0)⟩
    have picked : router.pickOutbound session = .ok rule.outbound :=
      pickOutbound_of_rule (same ▸ split) matched passed
    obtain ⟨tag, outbound, routes⟩ := routed session
    cases picked.symm.trans routes.picked
    exact (lookup_isSome_iff built _).mp (by rw [routes.filed]; rfl)
  · intro known session
    obtain ⟨tag, picked, configured⟩ := pickOutbound_known checked known built session
    obtain ⟨outbound, filed⟩ :=
      Option.isSome_iff_exists.mp ((lookup_isSome_iff built tag).mpr configured)
    exact ⟨tag, outbound, picked, filed, fun _ => forward_of_lookup picked filed,
      fun _ => forward_of_lookup picked filed⟩

/-- An upstream that is never asked, since no outbound below needs it. -/
def absentPadding : PaddingUpstream where
  Factory := Unit
  new _ := none
  md5 _ := ""
  stop _ := 0
  recordPayloadSizes _ _ := []
  checkMark := -1
  compute _ := ""

def absentUuid (_ : String) : Except Failure Unit := .error "invalid uuid"

/-- One inbound without TLS, one direct outbound, and one rule for the inbound. -/
def sampleConfig (outbound : String) : Config where
  acme := none
  inbounds := [⟨"socks-in", none⟩]
  outbounds := [directOutbound "direct"]
  routing := ⟨none, [⟨some "socks-in", outbound⟩]⟩

def sampleRouter (outbound : String) : Router Unit where
  cfg := sampleConfig outbound
  outbounds := AList.insert "direct" .direct ∅

def sampleSession : Session where
  inbound := "socks-in"
  command := .connect
  target := .domain "example.com" 443

theorem new_sampleConfig (outbound : String) :
    new absentPadding absentUuid (sampleConfig outbound) = .ok (sampleRouter outbound) := rfl

theorem sample_session_is_routed :
    (sampleConfig "direct").validate = .ok () ∧
      ∃ tag outbound, (sampleRouter "direct").Routes sampleSession tag outbound := by
  have valid : (sampleConfig "direct").validate = .ok () := rfl
  have known : (sampleConfig "direct").RulesKnown :=
    Config.rulesKnown_of_forall (by simp [sampleConfig, directOutbound])
  exact ⟨valid, (every_session_is_routed_iff valid (new_sampleConfig "direct")).mpr known _⟩

/-- The rule names an outbound that does not exist: the configuration is valid,
the router is built, and the session that the rule matches cannot be dialled. -/
theorem misspelt_rule_is_not_routed :
    (sampleConfig "dircet").validate = .ok () ∧
      new absentPadding absentUuid (sampleConfig "dircet") = .ok (sampleRouter "dircet") ∧
      (sampleRouter "dircet").pickOutbound sampleSession = .ok "dircet" ∧
      (sampleRouter "dircet").outbounds.lookup "dircet" = none ∧
      (sampleRouter "dircet").dial (fun _ _ => .ok ()) sampleSession =
        .error "unknown outbound dircet" ∧
      (sampleRouter "dircet").dialUdp (fun _ _ => .ok ()) sampleSession =
        .error "unknown outbound dircet" :=
  ⟨rfl, new_sampleConfig "dircet", rfl, by decide, rfl, rfl⟩

end Router

end Rtunnel
