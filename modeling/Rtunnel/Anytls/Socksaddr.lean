import Rtunnel.Anytls.Codec
import Rtunnel.Data.Validation

namespace Rtunnel.Anytls

open Rtunnel.Data
open Rtunnel.Data.Validation (bind_eq_ok_iff)

/-! Target addresses read back.

An encoded target is read back as it was, up to what the wire does not carry,
and whatever is read as a target is the encoding of that target.  No encoding
is therefore a proper start of another one.
-/

theorem readU8_eq_ok {input rest : List UInt8} {byte : UInt8}
    (ok : readU8 input = .ok (byte, rest)) : input = byte :: rest := by
  cases input with
  | nil => cases ok
  | cons head tail =>
      simp only [readU8, Except.ok.injEq, Prod.mk.injEq] at ok
      rw [ok.1, ok.2]

theorem readOctets_append {width : Nat} (field : Octets width) (rest : List UInt8) :
    readOctets width (field.bytes ++ rest) = .ok (field, rest) := by
  simp only [readOctets, readExact_append]

theorem readOctets_eq_ok {width : Nat} {input rest : List UInt8} {field : Octets width}
    (ok : readOctets width input = .ok (field, rest)) : input = field.bytes ++ rest := by
  unfold readOctets readExact at ok
  split at ok
  · rename_i found same
    split at same
    · cases same
      cases ok
      exact (List.take_append_drop width input).symm
    · cases same
  · cases ok

theorem readU16_append (value : UInt16) (rest : List UInt8) :
    readU16 (toBe 2 value.toNat ++ rest) = .ok (value, rest) := by
  have small : value.toNat % 256 ^ 2 = value.toNat := Nat.mod_eq_of_lt value.toNat_lt
  have field := readOctets_append (Octets.ofNat 2 value.toNat) rest
  simp only [Octets.ofNat] at field
  simp only [readU16, field, Octets.toNat, ofBe_toBe, small, UInt16.ofNat_toNat]

theorem readU16_eq_ok {input rest : List UInt8} {value : UInt16}
    (ok : readU16 input = .ok (value, rest)) : input = toBe 2 value.toNat ++ rest := by
  unfold readU16 at ok
  split at ok
  · rename_i field after read
    cases ok
    rw [readOctets_eq_ok read]
    have small : field.toNat < 65536 := by
      have bound := ofBe_lt field.bytes
      rw [field.length_eq] at bound
      exact bound
    have digits := congrArg Octets.bytes field.ofNat_toNat
    simp only [Octets.ofNat] at digits
    rw [UInt16.toNat_ofNat', Nat.mod_eq_of_lt small, digits]
  · cases ok

theorem utf8Bytes_of_ofUtf8 {bytes : List UInt8} {text : String}
    (ok : ofUtf8 bytes = some text) : utf8Bytes text = bytes := by
  unfold ofUtf8 String.fromUTF8? at ok
  split at ok
  · cases ok
    rfl
  · cases ok

/-- An encoded target is read back, whatever follows it. -/
theorem readSocksaddr_encode {target : TargetAddr} {encoded : List UInt8}
    (accepted : encodeSocksaddr target = .ok encoded) (rest : List UInt8) :
    readSocksaddr (encoded ++ rest) = .ok (target.onWire, rest) := by
  cases target with
  | ip addr =>
      cases addr with
      | v4 ip port =>
          cases accepted
          simp [readSocksaddr, readU8, List.append_assoc, readOctets_append, readU16_append,
            TargetAddr.onWire, bind, Except.bind, pure, Except.pure]
      | v6 ip port flowinfo scopeId =>
          cases accepted
          simp [readSocksaddr, readU8, List.append_assoc, readOctets_append, readU16_append,
            TargetAddr.onWire, bind, Except.bind, pure, Except.pure]
  | domain host port =>
      simp only [encodeSocksaddr] at accepted
      split at accepted
      · rename_i short
        cases accepted
        have width : (UInt8.ofNat host.utf8ByteSize).toNat = host.utf8ByteSize := by
          rw [UInt8.toNat_ofNat', Nat.mod_eq_of_lt (by omega)]
        have field : readOctets (UInt8.ofNat host.utf8ByteSize).toNat
            (utf8Bytes host ++ (toBe 2 port.toNat ++ rest)) =
            .ok (⟨utf8Bytes host, width.symm⟩, toBe 2 port.toNat ++ rest) :=
          readOctets_append ⟨utf8Bytes host, width.symm⟩ _
        simp [readSocksaddr, readU8, List.append_assoc, field, readU16_append,
          TargetAddr.onWire, bind, Except.bind, pure, Except.pure]
      · cases accepted

/-- An address and a port, read one after the other. -/
theorem readEndpoint_eq_ok {width : Nat} (endpoint : Octets width → UInt16 → TargetAddr)
    {input rest : List UInt8} {target : TargetAddr}
    (read : (readOctets width input >>= fun ip => readU16 ip.2 >>= fun port =>
      pure (endpoint ip.1 port.1, port.2)) = Except.ok (target, rest)) :
    ∃ ip port, target = endpoint ip port ∧ input = ip.bytes ++ (toBe 2 port.toNat ++ rest) := by
  obtain ⟨⟨ip, afterIp⟩, readIp, read⟩ := bind_eq_ok_iff.mp read
  dsimp only at read
  obtain ⟨⟨port, afterPort⟩, readPort, read⟩ := bind_eq_ok_iff.mp read
  cases read
  exact ⟨ip, port, rfl, by rw [readOctets_eq_ok readIp, readU16_eq_ok readPort]⟩

/-- What is read as a target starts with the encoding of that target. -/
theorem readSocksaddr_eq_ok {input rest : List UInt8} {target : TargetAddr}
    (read : readSocksaddr input = .ok (target, rest)) :
    ∃ encoded, encodeSocksaddr target = .ok encoded ∧ input = encoded ++ rest := by
  unfold readSocksaddr at read
  obtain ⟨⟨atyp, afterAtyp⟩, readAtyp, read⟩ := bind_eq_ok_iff.mp read
  rw [readU8_eq_ok readAtyp]
  dsimp only at read
  split at read
  · rename_i family
    obtain ⟨ip, port, rfl, rfl⟩ := readEndpoint_eq_ok (fun ip port => .ip (.v4 ip port)) read
    rw [family]
    exact ⟨_, rfl, by simp⟩
  · split at read
    · rename_i family
      obtain ⟨⟨length, afterLength⟩, readLength, read⟩ := bind_eq_ok_iff.mp read
      dsimp only at read
      obtain ⟨⟨name, afterName⟩, readName, read⟩ := bind_eq_ok_iff.mp read
      dsimp only at read
      obtain ⟨⟨port, afterPort⟩, readPort, read⟩ := bind_eq_ok_iff.mp read
      dsimp only at read
      split at read
      · rename_i host decoded
        cases read
        have bytes := utf8Bytes_of_ofUtf8 decoded
        have width : host.utf8ByteSize = length.toNat := by
          rw [← utf8Bytes_length, bytes, name.length_eq]
        have short : host.utf8ByteSize ≤ 255 := by
          have small := length.toNat_lt
          omega
        rw [readU8_eq_ok readLength, readOctets_eq_ok readName, readU16_eq_ok readPort, family]
        refine ⟨_, by rw [encodeSocksaddr, if_pos short], ?_⟩
        simp [width, bytes]
      · cases read
    · split at read
      · rename_i family
        obtain ⟨ip, port, rfl, rfl⟩ :=
          readEndpoint_eq_ok (fun ip port => .ip (.v6 ip port 0 0)) read
        rw [family]
        exact ⟨_, rfl, by simp⟩
      · cases read

theorem decodeSocksaddr_encode {target : TargetAddr} {encoded : List UInt8}
    (accepted : encodeSocksaddr target = .ok encoded) (rest : List UInt8) :
    decodeSocksaddr (encoded ++ rest) = .ok (target.onWire, encoded.length) := by
  simp [decodeSocksaddr, readSocksaddr_encode accepted]

theorem decodeSocksaddr_eq_ok {data : List UInt8} {target : TargetAddr} {consumed : Nat}
    (decoded : decodeSocksaddr data = .ok (target, consumed)) :
    ∃ encoded, encodeSocksaddr target = .ok encoded ∧ encoded.length = consumed ∧
      data = encoded ++ data.drop consumed := by
  unfold decodeSocksaddr at decoded
  split at decoded
  · rename_i found rest read
    cases decoded
    obtain ⟨encoded, accepted, rfl⟩ := readSocksaddr_eq_ok read
    exact ⟨encoded, accepted, by simp, by simp⟩
  · cases decoded

/-- A target cut short is not read as anything. -/
theorem decodeSocksaddr_cut {target : TargetAddr} {encoded start rest : List UInt8}
    (accepted : encodeSocksaddr target = .ok encoded) (cut : encoded = start ++ rest)
    (missing : rest ≠ []) : ∃ reason, decodeSocksaddr start = .error reason := by
  cases decoded : decodeSocksaddr start with
  | error reason => exact ⟨reason, rfl⟩
  | ok found =>
      obtain ⟨other, consumed⟩ := found
      obtain ⟨otherEncoded, otherAccepted, _, whole⟩ := decodeSocksaddr_eq_ok decoded
      have byOther := decodeSocksaddr_encode otherAccepted (start.drop consumed ++ rest)
      have byTarget := decodeSocksaddr_encode accepted []
      rw [← List.append_assoc, ← whole, ← cut] at byOther
      rw [List.append_nil, byOther] at byTarget
      have sameLength : otherEncoded.length = encoded.length :=
        congrArg Prod.snd (Except.ok.inj byTarget)
      have within := congrArg List.length whole
      have total := congrArg List.length cut
      have positive := List.length_pos_iff.mpr missing
      simp only [List.length_append] at within total
      omega

end Rtunnel.Anytls
