import Rtunnel.Anytls.Inbound.ChunkReader
import Rtunnel.Socks5.Codec

namespace Rtunnel.Socks5

open Rtunnel.Data Rtunnel.Anytls Rtunnel.Anytls.Inbound

/-! One address format, three decoders.

The SOCKS5 decoder, the AnyTLS decoder and the reader that takes an address out
of frames accept the same data and make the same of them.
-/

/-- Bytes in frames, cut anywhere, are read as the decoder reads them at once. -/
theorem receive_iff_decodeAddr {chunks : List (List UInt8)} (target : TargetAddr) (consumed : Nat)
    (other : chunks.flatten.head? ≠ some 0x02) :
    ((ChunkReader.receive Uot.readSocksTarget .new chunks).1 = .ok target ∧
        consumed ≤ chunks.flatten.length ∧
        (ChunkReader.receive Uot.readSocksTarget .new chunks).2.1.content ++
          (ChunkReader.receive Uot.readSocksTarget .new chunks).2.2.flatten =
            chunks.flatten.drop consumed) ↔
      decodeAddr chunks.flatten = .ok (target, consumed) := by
  have received := ChunkReader.receive_eq_ok_iff Uot.readSocksTarget .new chunks target
    (chunks.flatten.drop consumed)
  rw [show ChunkReader.new.content ++ chunks.flatten = chunks.flatten from rfl] at received
  rw [decodeAddr_eq_ok_iff]
  constructor
  · rintro ⟨value, within, left⟩
    have read := received.mp ⟨value, left⟩
    obtain ⟨encoded, accepted, whole⟩ := Uot.advance_readSocksTarget other read
    have length : encoded.length = consumed := by
      have total := congrArg List.length whole
      rw [List.length_append, List.length_drop] at total
      omega
    have again := Uot.reads_readSocksTarget accepted (chunks.flatten.drop consumed)
    rw [← whole, read] at again
    have carried : target = target.onWire :=
      Demand.done.inj (congrArg Prod.fst again)
    have decoded := decodeSocksaddr_encode accepted (chunks.flatten.drop consumed)
    rw [← whole, ← carried, length] at decoded
    exact decoded
  · intro decoded
    obtain ⟨encoded, accepted, length, whole⟩ := decodeSocksaddr_eq_ok decoded
    have portable := portable_of_decodeAddr (decodeAddr_eq_ok_iff.mpr decoded)
    have read := Uot.reads_readSocksTarget accepted (chunks.flatten.drop consumed)
    rw [← whole, target.onWire_eq_iff.mpr portable] at read
    obtain ⟨value, left⟩ := received.mpr read
    refine ⟨value, ?_, left⟩
    have total := congrArg List.length whole
    rw [List.length_append] at total
    omega

/-- Encoders and decoders of addresses and of SOCKS5 UDP packets are inverse to
each other and agree; encodings are prefix-free, and nothing is indexed outside
of its bounds. -/
theorem codecs_are_exact :
    (∀ data consumed target, target.Portable →
      (decodeAddr data = .ok (target, consumed) ↔
        consumed ≤ data.length ∧ encodeAddr target = .ok (data.take consumed))) ∧
    (∀ data found, decodeSocksaddr data = .ok found ↔ decodeAddr data = .ok found) ∧
    (∀ target encoded, encodeSocksaddr target = .ok encoded ↔ encodeAddr target = .ok encoded) ∧
    (∀ chunks target consumed, chunks.flatten.head? ≠ some 0x02 →
      let result := ChunkReader.receive Uot.readSocksTarget .new chunks
      ((result.1 = .ok target ∧ consumed ≤ chunks.flatten.length ∧
          result.2.1.content ++ result.2.2.flatten = chunks.flatten.drop consumed) ↔
        decodeAddr chunks.flatten = .ok (target, consumed))) ∧
    (∀ data target payload, target.Portable →
      (decodeUdpPacket data = .returns (target, payload) ↔
        encodeUdpPacket target payload = .ok data)) ∧
    (∀ first second short long, first.Portable → second.Portable →
      encodeAddr first = .ok short → encodeAddr second = .ok long → short <+: long →
        short = long ∧ first = second) ∧
    (∀ data, decodeUdpPacket data ≠ .panics) ∧
    ∀ (reader : ChunkReader) width, width ≤ reader.buffered →
      (ChunkReader.drain width reader.chunks reader.frontOffset).1.length = width := by
  refine ⟨?_, ?_, ?_, ?_, ?_, ?_, decodeUdpPacket_ne_panics, ?_⟩
  · exact fun data consumed target portable => decodeAddr_iff_encodeAddr portable
  · exact fun data found => decodeAddr_eq_ok_iff.symm
  · exact fun target encoded => encodeAddr_eq_ok_iff.symm
  · exact fun chunks target consumed other => receive_iff_decodeAddr target consumed other
  · exact fun data target payload portable => decodeUdpPacket_iff_encodeUdpPacket portable
  · intro first second short long firstPortable secondPortable firstAccepted secondAccepted start
    obtain ⟨same, carried⟩ := encodeAddr_prefix_free firstAccepted secondAccepted start
    rw [first.onWire_eq_iff.mpr firstPortable, second.onWire_eq_iff.mpr secondPortable] at carried
    exact ⟨same, carried⟩
  · exact fun reader width enough => reader.drain_length enough

/-- A DNS query to 127.0.0.1, and its address in three frames. -/
theorem sample_codecs_are_exact :
    decodeUdpPacket [0, 0, 0, 1, 127, 0, 0, 1, 0, 53, 9] =
      .returns (.ip (.v4 loopback 53), [9]) ∧
    decodeAddr [[1, 127], [0, 0, 1], [0, 53, 9]].flatten = .ok (.ip (.v4 loopback 53), 7) := by
  obtain ⟨-, -, -, framed, packets, -⟩ := codecs_are_exact
  refine ⟨(packets _ (.ip (.v4 loopback 53)) _ trivial).mpr (by decide),
    (framed _ _ _ (by decide)).mp ?_⟩
  decide +kernel

end Rtunnel.Socks5
