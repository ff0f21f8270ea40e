import Rtunnel.Socks5.Codec

namespace Rtunnel.Socks5

open Rtunnel.Data Rtunnel.Anytls

/-! The SOCKS5 outbound's side of UDP: `Socks5UdpSession`.

The socket is unconnected, so datagrams reach it from anywhere.  Those that do
not come from the relay are passed over; the first one that does is decoded,
and the outcome of decoding it is the outcome of the call.
-/

/-- A datagram at the socket; the length field of UDP leaves it at most 65527 bytes. -/
structure UdpDatagram where
  data : List UInt8
  source : SocketAddr
  fits : data.length ≤ 65527

def udpBufferSize : Nat := 64 * 1024

/-- `decode_udp_packet` never panics. -/
def decoded (data : List UInt8) : Except Failure (TargetAddr × List UInt8) :=
  match found : decodeUdpPacket data with
  | .returns packet => .ok packet
  | .fails reason => .error reason
  | .panics => (decodeUdpPacket_ne_panics data found).elim

/-- One call on the datagrams at the socket, with those that it leaves there;
nothing while it waits. -/
def recvFrom (relay : SocketAddr) :
    List UdpDatagram → Option (Except Failure (TargetAddr × List UInt8) × List UdpDatagram)
  | [] => none
  | datagram :: rest =>
      if datagram.source ≠ relay then recvFrom relay rest
      else some (decoded (datagram.data.take udpBufferSize), rest)

/-- What successive calls return. -/
def recvCalls (relay : SocketAddr) :
    Nat → List UdpDatagram → List (Except Failure (TargetAddr × List UInt8))
  | 0, _ => []
  | calls + 1, datagrams =>
      match recvFrom relay datagrams with
      | none => []
      | some (result, rest) => result :: recvCalls relay calls rest

/-- A whole SOCKS5 packet: no fragment, and nothing in it is out of its format. -/
def UdpDatagram.WellFormed (datagram : UdpDatagram) : Prop :=
  ∃ target payload, encodeUdpPacket target payload = .ok datagram.data

/-- What comes from the relay is well formed. -/
def RelayIsSound (relay : SocketAddr) (datagrams : List UdpDatagram) : Prop :=
  ∀ datagram ∈ datagrams, datagram.source = relay → datagram.WellFormed

theorem UdpDatagram.take_data (datagram : UdpDatagram) :
    datagram.data.take udpBufferSize = datagram.data :=
  List.take_of_length_le (Nat.le_trans datagram.fits (by decide))

theorem decoded_eq_ok_iff {data : List UInt8} {packet : TargetAddr × List UInt8} :
    decoded data = .ok packet ↔ decodeUdpPacket data = .returns packet := by
  unfold decoded
  split
  case h_1 other found => rw [found, Except.ok.injEq, Checked.returns.injEq]
  case h_2 reason found => simp [found]
  case h_3 found => exact absurd found (decodeUdpPacket_ne_panics data)

theorem encodeAddr_onWire (target : TargetAddr) : encodeAddr target.onWire = encodeAddr target := by
  cases target with
  | ip addr => cases addr <;> rfl
  | domain host port => rfl

theorem portable_onWire (target : TargetAddr) : target.onWire.Portable := by
  cases target with
  | ip addr => cases addr <;> simp [TargetAddr.onWire, TargetAddr.Portable]
  | domain host port => simp [TargetAddr.onWire, TargetAddr.Portable]

theorem portable_of_decodeUdpPacket {data payload : List UInt8} {target : TargetAddr}
    (found : decodeUdpPacket data = .returns (target, payload)) : target.Portable := by
  match data with
  | first :: second :: frag :: atyp :: rest =>
      rw [decodeUdpPacket_cons] at found
      split at found
      case isFalse => cases found
      case isTrue =>
          split at found
          case isFalse => cases found
          case isTrue =>
              split at found
              · next other consumed address =>
                  cases found
                  exact portable_of_decodeAddr address
              · cases found
  | [] | [_] | [_, _] | [_, _, _] =>
      rw [decodeUdpPacket_short (by simp)] at found
      cases found

/-- A datagram decodes exactly if it is well formed. -/
theorem UdpDatagram.wellFormed_iff (datagram : UdpDatagram) :
    datagram.WellFormed ↔ ∃ packet, decoded datagram.data = .ok packet := by
  constructor
  · intro wellFormed
    obtain ⟨target, payload, written⟩ := wellFormed
    have same : encodeUdpPacket target.onWire payload = .ok datagram.data := by
      rw [encodeUdpPacket, encodeAddr_onWire]
      exact written
    exact ⟨(target.onWire, payload), decoded_eq_ok_iff.mpr
      ((decodeUdpPacket_iff_encodeUdpPacket (portable_onWire target)).mpr same)⟩
  · intro decodes
    obtain ⟨⟨target, payload⟩, found⟩ := decodes
    have read := decoded_eq_ok_iff.mp found
    exact ⟨target, payload,
      (decodeUdpPacket_iff_encodeUdpPacket (portable_of_decodeUdpPacket read)).mp read⟩

/-- The well-formed packets among what comes from the relay. -/
def wanted (relay : SocketAddr) (datagrams : List UdpDatagram) :
    List (TargetAddr × List UInt8) :=
  (datagrams.filter fun datagram => datagram.source = relay).filterMap fun datagram =>
    (decoded datagram.data).toOption

variable {relay : SocketAddr} {datagram : UdpDatagram} {datagrams : List UdpDatagram}

theorem recvFrom_foreign (foreign : datagram.source ≠ relay) :
    recvFrom relay (datagram :: datagrams) = recvFrom relay datagrams := if_pos foreign

theorem recvFrom_relay (own : datagram.source = relay) :
    recvFrom relay (datagram :: datagrams) = some (decoded datagram.data, datagrams) := by
  rw [recvFrom, if_neg (not_not.mpr own), datagram.take_data]

/-- What a call returns is the decoding of a datagram from the relay. -/
theorem recvFrom_mem {result : Except Failure (TargetAddr × List UInt8)}
    {rest : List UdpDatagram} (returned : recvFrom relay datagrams = some (result, rest)) :
    (∃ datagram ∈ datagrams, datagram.source = relay ∧ result = decoded datagram.data) ∧
      ∀ datagram ∈ rest, datagram ∈ datagrams := by
  induction datagrams with
  | nil => cases returned
  | cons datagram datagrams ih =>
      by_cases own : datagram.source = relay
      · rw [recvFrom_relay own] at returned
        cases returned
        exact ⟨⟨datagram, List.mem_cons_self, own, rfl⟩,
          fun later member => List.mem_cons_of_mem _ member⟩
      · rw [recvFrom_foreign own] at returned
        obtain ⟨⟨found, member, fromRelay, same⟩, left⟩ := ih returned
        exact ⟨⟨found, List.mem_cons_of_mem _ member, fromRelay, same⟩,
          fun later member => List.mem_cons_of_mem _ (left later member)⟩

theorem recvCalls_eq (relay : SocketAddr) (calls : Nat) (datagrams : List UdpDatagram) :
    recvCalls relay calls datagrams =
      ((datagrams.filter fun datagram => datagram.source = relay).map fun datagram =>
        decoded datagram.data).take calls := by
  induction datagrams generalizing calls with
  | nil => cases calls <;> rfl
  | cons datagram datagrams ih =>
      cases calls with
      | zero => rfl
      | succ calls =>
          by_cases own : datagram.source = relay
          · rw [recvCalls, recvFrom_relay own]
            simp only [own, decide_true, List.filter_cons_of_pos, List.map_cons,
              List.take_succ_cons, ih]
          · have same : recvCalls relay (calls + 1) (datagram :: datagrams) =
                recvCalls relay (calls + 1) datagrams := by
              rw [recvCalls, recvFrom_foreign own, recvCalls]
            rw [same, ih, List.filter_cons_of_neg (by simpa using own)]

/-- Successive calls return the well-formed packets from the relay, in order and
nothing else. -/
def ReturnsWanted (relay : SocketAddr) (datagrams : List UdpDatagram) : Prop :=
  ∀ calls, recvCalls relay calls datagrams = ((wanted relay datagrams).map .ok).take calls

theorem map_decoded_of_sound (sound : RelayIsSound relay datagrams) :
    ((datagrams.filter fun datagram => datagram.source = relay).map fun datagram =>
      decoded datagram.data) = (wanted relay datagrams).map .ok := by
  unfold wanted
  induction datagrams with
  | nil => rfl
  | cons datagram datagrams ih =>
      obtain ⟨first, rest⟩ := List.forall_mem_cons.mp sound
      by_cases own : datagram.source = relay
      · obtain ⟨packet, found⟩ := datagram.wellFormed_iff.mp (first own)
        simp only [own, decide_true, List.filter_cons_of_pos, List.map_cons, found,
          List.filterMap_cons, Except.toOption, ih rest]
      · rw [List.filter_cons_of_neg (by simpa using own), ih rest]

theorem returnsWanted_iff (relay : SocketAddr) (datagrams : List UdpDatagram) :
    ReturnsWanted relay datagrams ↔ RelayIsSound relay datagrams := by
  constructor
  · intro returns datagram member own
    have all := returns datagrams.length
    rw [recvCalls_eq, List.take_of_length_le
      (by rw [List.length_map]; exact List.length_filter_le _ _)] at all
    have listed : decoded datagram.data ∈ ((wanted relay datagrams).map .ok).take
        datagrams.length := by
      rw [← all]
      exact List.mem_map_of_mem (List.mem_filter.mpr ⟨member, decide_eq_true own⟩)
    obtain ⟨packet, _, same⟩ := List.mem_map.mp (List.mem_of_mem_take listed)
    exact datagram.wellFormed_iff.mpr ⟨packet, same.symm⟩
  · intro sound calls
    rw [recvCalls_eq, map_decoded_of_sound sound]

end Rtunnel.Socks5
