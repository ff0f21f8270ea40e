import Rtunnel.Data.Bytes

namespace Rtunnel

open Rtunnel.Data

/-! Requests as every protocol hands them to the router. -/

/-- A socket address.  The extra IPv6 words exist in memory only: no wire
format of this program carries them. -/
inductive SocketAddr where
  | v4 (ip : Octets 4) (port : UInt16)
  | v6 (ip : Octets 16) (port : UInt16) (flowinfo scopeId : UInt32)
deriving DecidableEq

inductive IpAddr where
  | v4 (octets : Octets 4)
  | v6 (octets : Octets 16)
deriving DecidableEq

namespace SocketAddr

/-- A new socket address carries no extra IPv6 words. -/
def new : IpAddr → UInt16 → SocketAddr
  | .v4 octets, port => .v4 octets port
  | .v6 octets, port => .v6 octets port 0 0

def ip : SocketAddr → IpAddr
  | .v4 octets _ => .v4 octets
  | .v6 octets _ _ _ => .v6 octets

def port : SocketAddr → UInt16
  | .v4 _ port => port
  | .v6 _ port _ _ => port

end SocketAddr

/-- An IPv4 address that is written as an IPv6 address is the IPv4 address. -/
def IpAddr.toCanonical : IpAddr → IpAddr
  | .v4 octets => .v4 octets
  | .v6 octets =>
      let split : Octets (12 + 4) := octets
      if split.front.bytes = List.replicate 10 0 ++ [0xff, 0xff] then .v4 split.back
      else .v6 octets

def IpAddr.isUnspecified : IpAddr → Bool
  | .v4 octets => decide (octets.bytes = List.replicate 4 0)
  | .v6 octets => decide (octets.bytes = List.replicate 16 0)

/-- 127.0.0.1 -/
def loopback : Octets 4 := ⟨[127, 0, 0, 1], rfl⟩

inductive TargetAddr where
  | ip (addr : SocketAddr)
  | domain (host : String) (port : UInt16)
deriving DecidableEq

def TargetAddr.port : TargetAddr → UInt16
  | .ip addr => addr.port
  | .domain _ port => port

inductive Command where
  | connect
  | udpAssociate
deriving DecidableEq

structure Session where
  inbound : String
  command : Command
  target : TargetAddr
deriving DecidableEq

/-- A target that survives a trip over the wire: IPv6 flow information and
scope id are zero. -/
def TargetAddr.Portable : TargetAddr → Prop
  | .ip (.v6 _ _ flowinfo scopeId) => flowinfo = 0 ∧ scopeId = 0
  | _ => True

instance : (target : TargetAddr) → Decidable target.Portable
  | .ip (.v6 _ _ flowinfo scopeId) =>
      inferInstanceAs (Decidable (flowinfo = 0 ∧ scopeId = 0))
  | .ip (.v4 _ _) => .isTrue trivial
  | .domain _ _ => .isTrue trivial

/-- The target as it arrives on the other side of a wire. -/
def TargetAddr.onWire : TargetAddr → TargetAddr
  | .ip (.v6 address port _ _) => .ip (.v6 address port 0 0)
  | target => target

theorem TargetAddr.onWire_v4 (address : Octets 4) (port : UInt16) :
    (TargetAddr.ip (.v4 address port)).onWire = .ip (.v4 address port) := rfl

theorem TargetAddr.onWire_eq_iff (target : TargetAddr) :
    target.onWire = target ↔ target.Portable := by
  cases target with
  | domain host port => exact iff_of_true rfl trivial
  | ip addr =>
      cases addr with
      | v4 ip port => exact iff_of_true rfl trivial
      | v6 ip port flowinfo scopeId => simp [onWire, Portable, eq_comm]

end Rtunnel
