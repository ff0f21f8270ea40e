import Rtunnel.Anytls.PaddingScheme
import Rtunnel.Config
import Rtunnel.Data.Validation

namespace Rtunnel

open Rtunnel.Data.Validation
open Rtunnel.Anytls (Failure isWhitespace trim)

/-! The configuration and what is checked before the program starts.

Listening addresses, users, padding schemes and fallbacks of inbounds are not
here, and neither are the log level and the TLS settings of outbounds: nothing
below reads them.
-/

structure TlsAcmeConfig where
  domains : List String
deriving DecidableEq

structure TlsServerConfig where
  certificate : Option String
  privateKey : Option String
  acme : Option TlsAcmeConfig
deriving DecidableEq

structure InboundConfig where
  tag : String
  tls : Option TlsServerConfig
deriving DecidableEq

inductive ServerHost where
  | ip (addr : IpAddr)
  | domain (name : String)
deriving DecidableEq

structure ServerAddr where
  host : ServerHost
  port : UInt16
deriving DecidableEq

/-- An outbound as it is listed: the settings of its pool, its server and its user. -/
structure OutboundEntry extends OutboundConfig where
  server : Option ServerAddr
  username : Option String
  password : Option String
  uuid : Option String
deriving DecidableEq

/-- An outbound without any setting, which connects to the targets itself. -/
def directOutbound (tag : String) : OutboundEntry where
  tag := tag
  protocol := .direct
  maxStreams := none
  maxConnections := none
  connectionIdleTimeout := none
  server := none
  username := none
  password := none
  uuid := none

structure RouteRule where
  inbound : Option String
  outbound : String
deriving DecidableEq

structure RoutingConfig where
  default : Option String
  rules : List RouteRule
deriving DecidableEq

structure AcmeConfig where
  directory : String
  cacheDir : String
  acceptTerms : Bool
  contact : List String
deriving DecidableEq

structure Config where
  acme : Option AcmeConfig
  inbounds : List InboundConfig
  outbounds : List OutboundEntry
  routing : RoutingConfig
deriving DecidableEq

def defaultAcmeDirectory : String := "letsencrypt-staging"

def defaultAcmeCacheDir : String := ".rtunnel/acme"

def AcmeConfig.default : AcmeConfig where
  directory := defaultAcmeDirectory
  cacheDir := defaultAcmeCacheDir
  acceptTerms := false
  contact := []

def Config.acmeConfig (config : Config) : AcmeConfig := config.acme.getD .default

/-- A character inside of a quoted text.  Characters past ASCII that are neither
white space nor printable are escaped as well; they stand for themselves here. -/
def debugChar (character : Char) : String :=
  if character = '\x00' then "\\0"
  else if character = '\t' then "\\t"
  else if character = '\n' then "\\n"
  else if character = '\r' then "\\r"
  else if character = '"' then "\\\""
  else if character = '\\' then "\\\\"
  else if character.toNat < 32 || character.toNat = 127 ||
      (isWhitespace character && character != ' ') then
    "\\u\x7b" ++ String.ofList (Nat.toDigits 16 character.toNat) ++ "\x7d"
  else String.singleton character

/-- A text as `{:?}` prints it. -/
def debugText (text : String) : String :=
  "\"" ++ String.join (text.toList.map debugChar) ++ "\""

namespace TlsServerConfig

/-- The check of one domain that HTTP-01 shall validate. -/
def validateDomain (inboundTag domain : String) : Except Failure Unit := do
  ensure (!"*.".toList.isPrefixOf domain.toList)
    ("inbound " ++ inboundTag ++ " tls.acme.domains contains wildcard " ++ domain ++
      "; HTTP-01 does not support wildcard certificates")
  ensure (!(trim domain.toList).isEmpty && !domain.toList.any isWhitespace)
    ("inbound " ++ inboundTag ++ " tls.acme.domains contains invalid domain " ++ debugText domain)

def validateAcme (inboundTag : String) : Option TlsAcmeConfig → Except Failure Unit
  | none => .ok ()
  | some acme => do
      ensure (!acme.domains.isEmpty)
        ("inbound " ++ inboundTag ++ " tls.acme.domains must not be empty")
      acme.domains.forM (validateDomain inboundTag)

def validate (tls : TlsServerConfig) (inboundTag : String) : Except Failure Unit := do
  let hasCertificate := tls.certificate.isSome
  let hasPrivateKey := tls.privateKey.isSome
  let hasStatic := hasCertificate || hasPrivateKey
  let hasAcme := tls.acme.isSome
  ensure (!hasStatic || (hasCertificate && hasPrivateKey))
    ("inbound " ++ inboundTag ++ " tls requires both certificate and private_key")
  ensure (hasStatic ^^ hasAcme)
    ("inbound " ++ inboundTag ++
      " tls must configure exactly one of certificate/private_key or acme")
  validateAcme inboundTag tls.acme

end TlsServerConfig

def InboundConfig.validateTls (inbound : InboundConfig) : Except Failure Unit :=
  match inbound.tls with
  | none => .ok ()
  | some tls => tls.validate inbound.tag

/-- `routing.default` has to name an outbound. -/
def Config.validateDefault (config : Config) : Except Failure Unit :=
  match config.routing.default with
  | none => .ok ()
  | some default =>
      ensure (config.outbounds.any fun out => out.tag == default)
        ("routing.default references unknown outbound tag " ++ default)

def Config.validate (config : Config) : Except Failure Unit := do
  ensure (!config.inbounds.isEmpty) "at least one inbound is required"
  ensure (!config.outbounds.isEmpty) "at least one outbound is required"
  config.validateDefault
  config.inbounds.forM InboundConfig.validateTls
  config.outbounds.forM fun outbound => outbound.toOutboundConfig.validate

/-- Everything that the checks at startup establish. -/
structure Config.Checked (config : Config) : Prop where
  listens : config.inbounds ≠ []
  leaves : config.outbounds ≠ []
  default_known : ∀ default, config.routing.default = some default →
    ∃ outbound ∈ config.outbounds, outbound.tag = default
  tls_valid : ∀ inbound ∈ config.inbounds, ∀ tls, inbound.tls = some tls →
    tls.validate inbound.tag = .ok ()
  outbounds_valid : ∀ outbound ∈ config.outbounds, outbound.toOutboundConfig.validate = .ok ()

theorem Config.validateDefault_eq_ok_iff {config : Config} :
    config.validateDefault = .ok () ↔ ∀ default, config.routing.default = some default →
      ∃ outbound ∈ config.outbounds, outbound.tag = default := by
  unfold Config.validateDefault
  cases config.routing.default with
  | none => exact iff_of_true rfl (by rintro default ⟨⟩)
  | some default =>
      rw [ensure_eq_ok_iff, List.any_eq_true]
      simp

theorem InboundConfig.validateTls_eq_ok_iff {inbound : InboundConfig} :
    inbound.validateTls = .ok () ↔ ∀ tls, inbound.tls = some tls →
      tls.validate inbound.tag = .ok () := by
  unfold InboundConfig.validateTls
  cases inbound.tls with
  | none => exact iff_of_true rfl (by rintro tls ⟨⟩)
  | some tls => simp

theorem Config.validate_eq_ok_iff {config : Config} :
    config.validate = .ok () ↔ config.Checked := by
  unfold Config.validate
  rw [seq_eq_ok_iff, seq_eq_ok_iff, seq_eq_ok_iff, seq_eq_ok_iff, ensure_eq_ok_iff,
    ensure_eq_ok_iff, Config.validateDefault_eq_ok_iff, forM_eq_ok_iff, forM_eq_ok_iff]
  constructor
  · rintro ⟨listens, leaves, known, tls, outbounds⟩
    refine ⟨by simpa using listens, by simpa using leaves, known, fun inbound member => ?_,
      outbounds⟩
    exact InboundConfig.validateTls_eq_ok_iff.mp (tls inbound member)
  · intro checked
    refine ⟨by simpa using checked.listens, by simpa using checked.leaves,
      checked.default_known, fun inbound member => ?_, checked.outbounds_valid⟩
    exact InboundConfig.validateTls_eq_ok_iff.mpr (checked.tls_valid inbound member)

end Rtunnel
