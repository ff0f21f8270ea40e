namespace Rtunnel

/-! The outbound settings that bound a client's connection pool.

Settings that only name servers, users or certificates are not here.  A
duration counts nanoseconds.
-/

inductive Protocol where
  | direct
  | socks5
  | anytls
  | tuic
deriving DecidableEq

structure OutboundConfig where
  tag : String
  protocol : Protocol
  maxStreams : Option Nat
  maxConnections : Option Nat
  connectionIdleTimeout : Option Nat
deriving DecidableEq

def defaultAnytlsMaxStreams : Nat := 1

def defaultAnytlsConnectionIdleTimeout : Nat := 2 * 60 * 1000000000

namespace OutboundConfig

/-- One `ensure!` of the validation; its message names the outbound. -/
def require (config : OutboundConfig) (condition : Bool) (message : String) :
    Except String Unit :=
  if condition then .ok () else .error ("anytls outbound " ++ config.tag ++ " " ++ message)

def validate (config : OutboundConfig) : Except String Unit :=
  if config.protocol ≠ .anytls then .ok ()
  else do
    config.require (!(config.maxStreams.isSome && config.maxConnections.isSome))
      "cannot configure both max_streams and max_connections"
    config.require (config.maxStreams != some 0) "max_streams must be greater than zero"
    config.require (config.maxConnections != some 0) "max_connections must be greater than zero"
    config.require (config.connectionIdleTimeout != some 0)
      "connection_idle_timeout must be greater than zero"

def anytlsConnectionIdleTimeout (config : OutboundConfig) : Nat :=
  config.connectionIdleTimeout.getD defaultAnytlsConnectionIdleTimeout

def anytlsMaxStreams (config : OutboundConfig) : Option Nat :=
  if config.maxConnections.isSome then none
  else some (config.maxStreams.getD defaultAnytlsMaxStreams)

theorem require_bind {config : OutboundConfig} {condition : Bool} {message : String}
    {rest : Unit → Except String Unit}
    (accepted : (config.require condition message >>= rest) = .ok ()) :
    condition = true ∧ rest () = .ok () := by
  cases condition with
  | true => exact ⟨rfl, accepted⟩
  | false => cases accepted

/-- A validated limit on connections is positive and excludes one on streams. -/
theorem maxConnections_of_validate {config : OutboundConfig}
    (anytls : config.protocol = .anytls) (valid : config.validate = .ok ()) {limit : Nat}
    (limited : config.maxConnections = some limit) :
    0 < limit ∧ config.anytlsMaxStreams = none := by
  rw [validate, if_neg (not_not_intro anytls)] at valid
  obtain ⟨_, valid⟩ := require_bind valid
  obtain ⟨_, valid⟩ := require_bind valid
  obtain ⟨positive, _⟩ := require_bind valid
  refine ⟨?_, by simp [anytlsMaxStreams, limited]⟩
  cases limit with
  | zero => simp [limited] at positive
  | succ limit => exact limit.succ_pos

/-- The limit on streams, configured or defaulted, admits at least one. -/
theorem anytlsMaxStreams_pos {config : OutboundConfig} (anytls : config.protocol = .anytls)
    (valid : config.validate = .ok ()) {limit : Nat}
    (limited : config.anytlsMaxStreams = some limit) : 0 < limit := by
  rw [validate, if_neg (not_not_intro anytls)] at valid
  obtain ⟨_, valid⟩ := require_bind valid
  obtain ⟨positive, _⟩ := require_bind valid
  unfold anytlsMaxStreams at limited
  split at limited
  · cases limited
  · cases configured : config.maxStreams with
    | none =>
        simp only [configured, Option.getD_none, Option.some.injEq] at limited
        exact limited ▸ Nat.one_pos
    | some streams =>
        simp only [configured, Option.getD_some, Option.some.injEq] at limited
        cases streams with
        | zero => simp [configured] at positive
        | succ streams => exact limited ▸ streams.succ_pos

end OutboundConfig

end Rtunnel
