import Rtunnel.Anytls.Socksaddr
import Rtunnel.Data.Checked

namespace Rtunnel.Socks5

open Rtunnel.Data Rtunnel.Anytls

/-! The SOCKS5 codec: target addresses and UDP packets.

The address format is the one of AnyTLS, written and read by functions of its
own; only the texts of the errors differ.  A UDP packet is an address behind
three zero bytes, and the payload is what follows.
-/

def version : UInt8 := 0x05

def cmdConnect : UInt8 := 0x01

def cmdUdpAssociate : UInt8 := 0x03

def atypIpv4 : UInt8 := 0x01

def atypDomain : UInt8 := 0x03

def atypIpv6 : UInt8 := 0x04

def encodeAddr : TargetAddr → Except Failure (List UInt8)
  | .ip (.v4 ip port) => .ok (atypIpv4 :: (ip.bytes ++ toBe 2 port.toNat))
  | .ip (.v6 ip port _ _) => .ok (atypIpv6 :: (ip.bytes ++ toBe 2 port.toNat))
  | .domain host port =>
      if host.utf8ByteSize ≤ 255 then
        .ok (atypDomain :: UInt8.ofNat host.utf8ByteSize :: (utf8Bytes host ++ toBe 2 port.toNat))
      else .error "domain is too long for socks5"

def readAddr (input : List UInt8) : Except Failure (TargetAddr × List UInt8) := do
  let (atyp, rest) ← readU8 input
  if atyp = atypIpv4 then
    let (ip, rest) ← readOctets 4 rest
    let (port, rest) ← readU16 rest
    return (.ip (.v4 ip port), rest)
  else if atyp = atypDomain then
    let (length, rest) ← readU8 rest
    let (host, rest) ← readOctets length.toNat rest
    let (port, rest) ← readU16 rest
    match ofUtf8 host.bytes with
    | some host => return (.domain host port, rest)
    | none => .error (utf8Failure host.bytes)
  else if atyp = atypIpv6 then
    let (ip, rest) ← readOctets 16 rest
    let (port, rest) ← readU16 rest
    return (.ip (.v6 ip port 0 0), rest)
  else .error s!"unsupported socks5 address type {atyp}"

/-- The address at the front of the data and the length of its encoding. -/
def decodeAddr (data : List UInt8) : Except Failure (TargetAddr × Nat) :=
  match readAddr data with
  | .ok (target, rest) => .ok (target, data.length - rest.length)
  | .error reason => .error reason

def encodeUdpPacket (target : TargetAddr) (payload : List UInt8) :
    Except Failure (List UInt8) := do
  let address ← encodeAddr target
  return 0 :: 0 :: 0 :: (address ++ payload)

/-- Both reserved bytes are looked at; the source leaves the second one out when
the first is not zero. -/
def decodeUdpPacket (data : List UInt8) : Checked Failure (TargetAddr × List UInt8) := do
  Checked.ensure (4 ≤ data.length) "short socks5 udp packet"
  let first ← Checked.index data 0
  let second ← Checked.index data 1
  Checked.ensure (first = 0 ∧ second = 0) "invalid socks5 udp reserved bytes"
  let frag ← Checked.index data 2
  Checked.ensure (frag = 0) "fragmented socks5 udp packets are not supported"
  let (target, consumed) ← Checked.ofExcept (decodeAddr (← Checked.sliceFrom data 3))
  return (target, ← Checked.sliceFrom data (3 + consumed))

theorem both_fail {Value : Type} {first second : Failure} {value : Value} :
    (Except.error first = Except.ok value) ↔ (Except.error second = Except.ok value) := by
  simp

theorem encodeAddr_eq_ok_iff {target : TargetAddr} {encoded : List UInt8} :
    encodeAddr target = .ok encoded ↔ encodeSocksaddr target = .ok encoded := by
  cases target with
  | ip addr => cases addr <;> exact Iff.rfl
  | domain host port =>
      by_cases short : host.utf8ByteSize ≤ 255
      · simp only [encodeAddr, encodeSocksaddr, if_pos short, atypDomain]
      · simp only [encodeAddr, encodeSocksaddr, if_neg short]
        exact both_fail

theorem readAddr_eq_ok_iff {input : List UInt8} {found : TargetAddr × List UInt8} :
    readAddr input = .ok found ↔ readSocksaddr input = .ok found := by
  cases input with
  | nil => exact both_fail
  | cons atyp rest =>
      by_cases ipv4 : atyp = atypIpv4
      · subst ipv4
        exact Iff.rfl
      by_cases domain : atyp = atypDomain
      · subst domain
        exact Iff.rfl
      by_cases ipv6 : atyp = atypIpv6
      · subst ipv6
        exact Iff.rfl
      have unsupported : readAddr (atyp :: rest) =
          .error s!"unsupported socks5 address type {atyp}" := by
        simp only [readAddr, readU8, bind, Except.bind, if_neg ipv4, if_neg domain, if_neg ipv6]
      have unknown : readSocksaddr (atyp :: rest) =
          .error s!"unknown anytls address family {atyp}" := by
        rw [atypIpv4] at ipv4
        rw [atypDomain] at domain
        rw [atypIpv6] at ipv6
        simp only [readSocksaddr, readU8, bind, Except.bind, if_neg ipv4, if_neg domain,
          if_neg ipv6]
      rw [unsupported, unknown]
      exact both_fail

theorem decodeAddr_eq_ok_iff {data : List UInt8} {found : TargetAddr × Nat} :
    decodeAddr data = .ok found ↔ decodeSocksaddr data = .ok found := by
  unfold decodeAddr decodeSocksaddr
  cases read : readAddr data with
  | ok result => rw [readAddr_eq_ok_iff.mp read]
  | error reason =>
      cases other : readSocksaddr data with
      | ok result => cases read.symm.trans (readAddr_eq_ok_iff.mpr other)
      | error _ => exact both_fail

theorem portable_of_decodeAddr {data : List UInt8} {target : TargetAddr} {consumed : Nat}
    (decoded : decodeAddr data = .ok (target, consumed)) : target.Portable := by
  obtain ⟨encoded, accepted, -, whole⟩ :=
    decodeSocksaddr_eq_ok (decodeAddr_eq_ok_iff.mp decoded)
  have again := decodeSocksaddr_encode accepted (data.drop consumed)
  rw [← whole, decodeAddr_eq_ok_iff.mp decoded] at again
  exact target.onWire_eq_iff.mp (congrArg Prod.fst (Except.ok.inj again)).symm

/-- An address is decoded from exactly the data that begin with its encoding. -/
theorem decodeAddr_iff_encodeAddr {data : List UInt8} {target : TargetAddr} {consumed : Nat}
    (portable : target.Portable) :
    decodeAddr data = .ok (target, consumed) ↔
      consumed ≤ data.length ∧ encodeAddr target = .ok (data.take consumed) := by
  constructor
  · intro decoded
    obtain ⟨encoded, accepted, rfl, whole⟩ :=
      decodeSocksaddr_eq_ok (decodeAddr_eq_ok_iff.mp decoded)
    have start : data.take encoded.length = encoded := by
      rw [whole, List.take_left]
    refine ⟨?_, by rw [start]; exact encodeAddr_eq_ok_iff.mpr accepted⟩
    rw [whole, List.length_append]
    exact Nat.le_add_right _ _
  · rintro ⟨within, accepted⟩
    have decoded := decodeSocksaddr_encode (encodeAddr_eq_ok_iff.mp accepted) (data.drop consumed)
    rw [List.take_append_drop, target.onWire_eq_iff.mpr portable, List.length_take,
      Nat.min_eq_left within] at decoded
    exact decodeAddr_eq_ok_iff.mpr decoded

/-- No encoding is a proper start of another one. -/
theorem encodeAddr_prefix_free {first second : TargetAddr} {short long : List UInt8}
    (firstAccepted : encodeAddr first = .ok short) (secondAccepted : encodeAddr second = .ok long)
    (start : short <+: long) : short = long ∧ first.onWire = second.onWire := by
  obtain ⟨rest, rfl⟩ := start
  have byFirst := decodeSocksaddr_encode (encodeAddr_eq_ok_iff.mp firstAccepted) rest
  have bySecond := decodeSocksaddr_encode (encodeAddr_eq_ok_iff.mp secondAccepted) []
  rw [List.append_nil, byFirst, Except.ok.injEq, Prod.mk.injEq] at bySecond
  obtain ⟨sameTarget, sameLength⟩ := bySecond
  have empty : rest = [] := List.length_eq_zero_iff.mp (by simpa using sameLength)
  exact ⟨by rw [empty, List.append_nil], sameTarget⟩

theorem encodeUdpPacket_eq_ok_iff {target : TargetAddr} {payload data : List UInt8} :
    encodeUdpPacket target payload = .ok data ↔
      ∃ address, encodeAddr target = .ok address ∧ data = 0 :: 0 :: 0 :: (address ++ payload) := by
  unfold encodeUdpPacket
  cases encodeAddr target with
  | error reason => simp [bind, Except.bind]
  | ok address => simp [bind, Except.bind, pure, Except.pure, eq_comm]

/-- Behind the checks of the header stands the address. -/
theorem decodeUdpPacket_cons (first second frag atyp : UInt8) (rest : List UInt8) :
    decodeUdpPacket (first :: second :: frag :: atyp :: rest) =
      if first = 0 ∧ second = 0 then
        if frag = 0 then
          match decodeAddr (atyp :: rest) with
          | .ok (target, consumed) => .returns (target, (atyp :: rest).drop consumed)
          | .error reason => .fails reason
        else .fails "fragmented socks5 udp packets are not supported"
      else .fails "invalid socks5 udp reserved bytes" := by
  have long : 4 ≤ (first :: second :: frag :: atyp :: rest).length := by simp
  unfold decodeUdpPacket
  rw [Checked.ensure_of_true long]
  simp only [Checked.returns_bind, Checked.index, List.getElem?_cons_zero,
    List.getElem?_cons_succ]
  by_cases reserved : first = 0 ∧ second = 0
  · rw [Checked.ensure_of_true reserved, if_pos reserved, Checked.returns_bind]
    by_cases whole : frag = 0
    · rw [Checked.ensure_of_true whole, if_pos whole, Checked.returns_bind,
        Checked.sliceFrom_of_le (by omega), Checked.returns_bind]
      cases decoded : decodeAddr (atyp :: rest) with
      | error reason =>
          simp only [List.drop_succ_cons, List.drop_zero, decoded]
          rfl
      | ok found =>
          obtain ⟨target, consumed⟩ := found
          have within : consumed ≤ (atyp :: rest).length :=
            ((decodeAddr_iff_encodeAddr (portable_of_decodeAddr decoded)).mp decoded).1
          have inside : 3 + consumed ≤ (first :: second :: frag :: atyp :: rest).length := by
            simp only [List.length_cons] at within ⊢
            omega
          simp only [List.drop_succ_cons, List.drop_zero, decoded, Checked.ofExcept,
            Checked.returns_bind, Checked.sliceFrom_of_le inside]
          rw [← List.drop_drop]
          rfl
    · rw [Checked.ensure_of_false whole, if_neg whole, Checked.fails_bind]
  · rw [Checked.ensure_of_false reserved, if_neg reserved, Checked.fails_bind]

theorem decodeUdpPacket_short {data : List UInt8} (short : data.length < 4) :
    decodeUdpPacket data = .fails "short socks5 udp packet" := by
  unfold decodeUdpPacket
  rw [Checked.ensure_of_false (by omega), Checked.fails_bind]

/-- No packet makes the decoder index outside of it. -/
theorem decodeUdpPacket_ne_panics (data : List UInt8) : decodeUdpPacket data ≠ .panics := by
  match data with
  | first :: second :: frag :: atyp :: rest =>
      rw [decodeUdpPacket_cons]
      split
      · split
        · split <;> simp
        · simp
      · simp
  | [] | [_] | [_, _] | [_, _, _] =>
      rw [decodeUdpPacket_short (by simp)]
      simp

theorem decodeUdpPacket_iff_encodeUdpPacket {data payload : List UInt8} {target : TargetAddr}
    (portable : target.Portable) :
    decodeUdpPacket data = .returns (target, payload) ↔
      encodeUdpPacket target payload = .ok data := by
  rw [encodeUdpPacket_eq_ok_iff]
  constructor
  · intro decoded
    match data with
    | first :: second :: frag :: atyp :: rest =>
        rw [decodeUdpPacket_cons] at decoded
        split at decoded
        · next reserved =>
            split at decoded
            · next whole =>
                split at decoded
                · next found consumed address =>
                    cases decoded
                    obtain ⟨-, accepted⟩ := (decodeAddr_iff_encodeAddr portable).mp address
                    refine ⟨_, accepted, ?_⟩
                    rw [List.take_append_drop, reserved.1, reserved.2, whole]
                · cases decoded
            · cases decoded
        · cases decoded
    | [] | [_] | [_, _] | [_, _, _] =>
        rw [decodeUdpPacket_short (by simp)] at decoded
        cases decoded
  · rintro ⟨address, accepted, rfl⟩
    have decoded : decodeAddr (address ++ payload) = .ok (target, address.length) :=
      (decodeAddr_iff_encodeAddr portable).mpr ⟨by simp, by rw [List.take_left]; exact accepted⟩
    cases address with
    | nil =>
        have empty : decodeAddr [] = .ok (target, 0) :=
          (decodeAddr_iff_encodeAddr portable).mpr ⟨Nat.le_refl 0, accepted⟩
        cases empty
    | cons atyp rest =>
        rw [List.cons_append] at decoded ⊢
        rw [decodeUdpPacket_cons, if_pos ⟨rfl, rfl⟩, if_pos rfl, decoded]
        simp

end Rtunnel.Socks5
