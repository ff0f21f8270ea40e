import Rtunnel.Tuic.Codec

namespace Rtunnel.Tuic

open Rtunnel.Data

/-! Fragments on the wire: what `encodePacket` writes, `parsePacket` reads back,
and every piece `fragmentPacket` cuts stays within the limit it was cut for. -/

variable {core : TuicCore} {packet : Packet} {encoded : List UInt8} {width : Nat}
  {fragments : List Packet}

theorem packetAddress_encodable {target : Option TargetAddr} {addr : Address}
    (portable : ∀ named, target = some named → named.Portable)
    (converted : packetAddress target = .ok addr) :
    addr.Encodable ∧ addressToOptionalTarget addr = .ok target := by
  cases target with
  | none =>
      cases converted
      exact ⟨trivial, rfl⟩
  | some named =>
      have zero := portable named rfl
      cases named with
      | domain host port =>
          simp only [packetAddress, targetToAddress] at converted
          split at converted
          · rename_i short
            cases converted
            exact ⟨short, rfl⟩
          · contradiction
      | ip addr =>
          cases converted
          cases addr with
          | v4 ip port => exact ⟨trivial, rfl⟩
          | v6 ip port flowinfo scopeId => exact ⟨zero, rfl⟩

/-- Everything a successful `encodePacket` has checked and done. -/
theorem encodePacket_cases (ok : encodePacket core packet = .ok encoded) :
    packet.fragTotal ≠ 0 ∧ packet.fragId < packet.fragTotal ∧ packet.payload.length ≤ u16Max ∧
      ∃ addr header, packetAddress packet.target = .ok addr ∧
        core.marshal (.packet packet.assocId packet.pktId packet.fragTotal packet.fragId
          (UInt16.ofNat packet.payload.length) addr) = .ok header ∧
        encoded = header ++ packet.payload := by
  unfold encodePacket at ok
  split at ok
  · contradiction
  rename_i total
  split at ok
  · contradiction
  rename_i index
  split at ok
  · contradiction
  rename_i size
  cases converted : packetAddress packet.target with
  | error reason => simp [converted] at ok
  | ok addr =>
      cases written : core.marshal (.packet packet.assocId packet.pktId packet.fragTotal
          packet.fragId (UInt16.ofNat packet.payload.length) addr) with
      | error text => simp [converted, marshalHeader, written, Except.mapError] at ok
      | ok header =>
          simp only [converted, marshalHeader, written, Except.mapError, Except.ok.injEq] at ok
          exact ⟨total, UInt8.not_le.mp index, Nat.le_of_not_lt size, addr, header, rfl, written,
            ok.symm⟩

theorem encodePacket_of_marshal {addr : Address} {header : List UInt8}
    (total : packet.fragTotal ≠ 0) (index : packet.fragId < packet.fragTotal)
    (size : packet.payload.length ≤ u16Max)
    (converted : packetAddress packet.target = .ok addr)
    (written : core.marshal (.packet packet.assocId packet.pktId packet.fragTotal packet.fragId
      (UInt16.ofNat packet.payload.length) addr) = .ok header) :
    encodePacket core packet = .ok (header ++ packet.payload) := by
  have inRange : ¬ packet.fragTotal ≤ packet.fragId := UInt8.not_le.mpr index
  have fits : ¬ u16Max < packet.payload.length := Nat.not_lt.mpr size
  simp only [encodePacket, total, inRange, fits, converted, marshalHeader, written,
    Except.mapError, ↓reduceIte]

theorem parsePacket_encodePacket (lawful : core.Lawful)
    (portable : ∀ named, packet.target = some named → named.Portable)
    (ok : encodePacket core packet = .ok encoded) : parsePacket core encoded = .ok packet := by
  obtain ⟨total, index, size, addr, header, converted, written, rfl⟩ := encodePacket_cases ok
  obtain ⟨encodable, restored⟩ := packetAddress_encodable portable converted
  have parsed := lawful.unmarshal_marshal (.packet packet.assocId packet.pktId packet.fragTotal
    packet.fragId (UInt16.ofNat packet.payload.length) addr) header packet.payload encodable written
  have width : (UInt16.ofNat packet.payload.length).toNat = packet.payload.length := by
    simp only [u16Max] at size
    rw [UInt16.toNat_ofNat', Nat.mod_eq_of_lt (by omega)]
  have inRange : ¬ packet.fragTotal ≤ packet.fragId := UInt8.not_le.mpr index
  simp only [parsePacket, parseHeader, parsed, Except.mapError, total, inRange, width, restored,
    ↓reduceIte, List.length_append, Nat.lt_irrefl, List.drop_left, List.take_length]

/-- How a packet was cut: more than one piece, each of at most `width` bytes,
and few enough to number them with one byte. -/
structure Cut (packet : Packet) (width : Nat) (fragments : List Packet) : Prop where
  positive : 0 < width
  several : 1 < chunkCount width packet.payload
  countable : chunkCount width packet.payload ≤ u8Max
  pieces : fragments = (chunks width packet.payload).mapIdx fun index payload =>
    fragmentAt packet (chunkCount width packet.payload) index payload

theorem fragmentPacket_cases {limit : Nat} (ok : fragmentPacket core packet limit = .ok fragments) :
    ∃ encoded, encodePacket core packet = .ok encoded ∧
      ((encoded.length ≤ limit ∧ fragments = [packet]) ∨
        ∃ width, encoded.length - packet.payload.length + width = limit ∧
          Cut packet width fragments) := by
  cases written : encodePacket core packet with
  | error reason => simp [fragmentPacket, written] at ok
  | ok encoded =>
      refine ⟨encoded, rfl, ?_⟩
      simp only [fragmentPacket, written] at ok
      split at ok
      · rename_i fits
        cases ok
        exact .inl ⟨fits, rfl⟩
      · rename_i exceeds
        split at ok
        · contradiction
        split at ok
        · contradiction
        rename_i room
        split at ok
        · contradiction
        rename_i few
        obtain ⟨_, _, _, _, header, _, _, rfl⟩ := encodePacket_cases written
        simp only [List.length_append, Nat.add_sub_cancel] at exceeds room ok ⊢
        obtain ⟨enough, nonempty⟩ := not_or.mp room
        have positive : 0 < limit - header.length := Nat.pos_of_ne_zero nonempty
        refine .inr ⟨limit - header.length, by omega, positive,
          one_lt_chunkCount positive (by omega), ?_, ?_⟩
        · simpa using few
        · simpa using ok.symm

theorem Cut.mem_iff (cut : Cut packet width fragments) {fragment : Packet} :
    fragment ∈ fragments ↔ ∃ index, index < chunkCount width packet.payload ∧
      fragment = fragmentAt packet (chunkCount width packet.payload) index
        (chunk width packet.payload index) := by
  rw [cut.pieces, List.mem_mapIdx]
  simp only [chunks, List.getElem_map, List.getElem_range, List.length_map, List.length_range,
    exists_prop, eq_comm]

/-- A piece is numbered below the count of pieces, and the count is not zero. -/
theorem Cut.numbered (cut : Cut packet width fragments) {index : Nat}
    (inside : index < chunkCount width packet.payload) (payload : List UInt8) :
    (fragmentAt packet (chunkCount width packet.payload) index payload).fragTotal ≠ 0 ∧
      (fragmentAt packet (chunkCount width packet.payload) index payload).fragId <
        (fragmentAt packet (chunkCount width packet.payload) index payload).fragTotal := by
  have countable := cut.countable
  have several := cut.several
  simp only [u8Max] at countable
  constructor
  · intro zero
    have value := congrArg UInt8.toNat zero
    simp only [fragmentAt, UInt8.toNat_ofNat', UInt8.toNat_zero] at value
    omega
  · rw [UInt8.lt_iff_toNat_lt]
    simp only [fragmentAt, UInt8.toNat_ofNat']
    omega

/-- The first piece carries the packet's address, the others none. -/
theorem packetAddress_fragmentAt {addr : Address}
    (converted : packetAddress packet.target = .ok addr) (total index : Nat)
    (payload : List UInt8) :
    ∃ pieceAddr, packetAddress (fragmentAt packet total index payload).target = .ok pieceAddr ∧
      (pieceAddr = addr ∨ pieceAddr = .none) := by
  by_cases first : index = 0
  · exact ⟨addr, by simp only [fragmentAt, first, ↓reduceIte, converted], .inl rfl⟩
  · exact ⟨.none, by simp only [fragmentAt, first, ↓reduceIte, packetAddress], .inr rfl⟩

theorem fragmentAt_portable (portable : ∀ named, packet.target = some named → named.Portable)
    (total index : Nat) (payload : List UInt8) :
    ∀ named, (fragmentAt packet total index payload).target = some named → named.Portable := by
  intro named selected
  simp only [fragmentAt] at selected
  split at selected
  · exact portable named selected
  · contradiction

/-- A piece whose header can be written encodes, and the header is no longer than
the packet's. -/
theorem Cut.encodes_of_marshal (lawful : core.Lawful) (cut : Cut packet width fragments)
    {header : List UInt8} (written : encodePacket core packet = .ok (header ++ packet.payload))
    {index : Nat} (inside : index < chunkCount width packet.payload)
    (writable : ∀ addr, packetAddress (fragmentAt packet (chunkCount width packet.payload) index
        (chunk width packet.payload index)).target = .ok addr →
      ∃ bytes, core.marshal (.packet packet.assocId packet.pktId
        (UInt8.ofNat (chunkCount width packet.payload)) (UInt8.ofNat index)
        (UInt16.ofNat (chunk width packet.payload index).length) addr) = .ok bytes) :
    ∃ pieceHeader, encodePacket core (fragmentAt packet (chunkCount width packet.payload) index
        (chunk width packet.payload index)) =
          .ok (pieceHeader ++ chunk width packet.payload index) ∧
      pieceHeader.length ≤ header.length := by
  obtain ⟨_, _, size, addr, same, converted, headerWritten, appended⟩ := encodePacket_cases written
  obtain rfl := List.append_cancel_right appended
  have pieceShort : (chunk width packet.payload index).length ≤ packet.payload.length := by
    simp only [chunk, List.length_take, List.length_drop]
    omega
  obtain ⟨total, numbered⟩ := cut.numbered inside (chunk width packet.payload index)
  obtain ⟨pieceAddr, pieceConverted, shorter⟩ := packetAddress_fragmentAt converted
    (chunkCount width packet.payload) index (chunk width packet.payload index)
  obtain ⟨pieceHeader, pieceWritten⟩ := writable pieceAddr pieceConverted
  refine ⟨pieceHeader, ?_, lawful.packet_length shorter headerWritten pieceWritten⟩
  exact encodePacket_of_marshal total numbered (pieceShort.trans size) pieceConverted pieceWritten

theorem Cut.encodes (lawful : core.Lawful) (cut : Cut packet width fragments)
    (portable : ∀ named, packet.target = some named → named.Portable) {header : List UInt8}
    (written : encodePacket core packet = .ok (header ++ packet.payload)) {index : Nat}
    (inside : index < chunkCount width packet.payload) :
    ∃ pieceHeader, encodePacket core (fragmentAt packet (chunkCount width packet.payload) index
        (chunk width packet.payload index)) =
          .ok (pieceHeader ++ chunk width packet.payload index) ∧
      pieceHeader.length ≤ header.length := by
  refine cut.encodes_of_marshal lawful written inside fun addr converted => ?_
  obtain ⟨encodable, _⟩ := packetAddress_encodable (fragmentAt_portable portable _ _ _) converted
  exact lawful.marshal_ok _ encodable

/-- Every piece of a packet encodes within the limit and parses back to itself. -/
theorem fragment_fits (lawful : core.Lawful) {limit : Nat}
    (portable : ∀ named, packet.target = some named → named.Portable)
    (ok : fragmentPacket core packet limit = .ok fragments) {fragment : Packet}
    (member : fragment ∈ fragments) :
    ∃ bytes, encodePacket core fragment = .ok bytes ∧ bytes.length ≤ limit ∧
      parsePacket core bytes = .ok fragment := by
  obtain ⟨encoded, written, ⟨fits, rfl⟩ | ⟨width, room, cut⟩⟩ := fragmentPacket_cases ok
  · obtain rfl := List.mem_singleton.mp member
    exact ⟨encoded, written, fits, parsePacket_encodePacket lawful portable written⟩
  · obtain ⟨index, inside, rfl⟩ := cut.mem_iff.mp member
    obtain ⟨_, _, _, _, header, _, _, rfl⟩ := encodePacket_cases written
    obtain ⟨pieceHeader, encodes, headerShort⟩ := cut.encodes lawful portable written inside
    have pieceSize := chunk_length_le width packet.payload index
    refine ⟨_, encodes, ?_,
      parsePacket_encodePacket lawful (fragmentAt_portable portable _ _ _) encodes⟩
    simp only [List.length_append, Nat.add_sub_cancel] at room ⊢
    omega

theorem packetAddress_named {target : Option TargetAddr} {addr : Address}
    (converted : packetAddress target = .ok addr) : addr.Named := by
  cases target with
  | none =>
      cases converted
      trivial
  | some named =>
      cases named with
      | ip addr =>
          cases converted
          trivial
      | domain host port =>
          simp only [packetAddress, targetToAddress] at converted
          split at converted
          case isTrue short =>
              cases converted
              exact short
          case isFalse => contradiction

/-- Whatever its target, a piece of a packet encodes within the limit. -/
theorem fragment_encodes (lawful : core.Lawful) (writes : core.WritesPackets) {limit : Nat}
    (ok : fragmentPacket core packet limit = .ok fragments) {fragment : Packet}
    (member : fragment ∈ fragments) :
    ∃ bytes, encodePacket core fragment = .ok bytes ∧ bytes.length ≤ limit := by
  obtain ⟨encoded, written, ⟨fits, rfl⟩ | ⟨width, room, cut⟩⟩ := fragmentPacket_cases ok
  · obtain rfl := List.mem_singleton.mp member
    exact ⟨encoded, written, fits⟩
  · obtain ⟨index, inside, rfl⟩ := cut.mem_iff.mp member
    obtain ⟨_, _, _, _, header, _, _, rfl⟩ := encodePacket_cases written
    obtain ⟨pieceHeader, encodes, headerShort⟩ := cut.encodes_of_marshal lawful written inside
      fun addr converted => writes _ _ _ _ _ addr (packetAddress_named converted)
    have pieceSize := chunk_length_le width packet.payload index
    refine ⟨_, encodes, ?_⟩
    simp only [List.length_append, Nat.add_sub_cancel] at room ⊢
    omega

/-- A packet stays whole, or its pieces are numbered in order. -/
def Ascending (packet : Packet) (fragments : List Packet) : Prop :=
  fragments = [packet] ∨
    fragments.map (fun fragment => fragment.fragId.toNat) = List.range fragments.length

theorem Cut.ascending (cut : Cut packet width fragments) :
    fragments.length ≤ u8Max ∧ Ascending packet fragments := by
  have length : fragments.length = chunkCount width packet.payload := by
    rw [cut.pieces, List.length_mapIdx, chunks_length]
  have countable := cut.countable
  refine ⟨length ▸ countable, Or.inr ?_⟩
  rw [length]
  refine List.ext_getElem (by rw [List.length_map, List.length_range, length]) ?_
  intro index inside _
  rw [List.length_map, length] at inside
  simp only [cut.pieces, List.getElem_map, List.getElem_mapIdx, List.getElem_range, fragmentAt,
    UInt8.toNat_ofNat']
  simp only [u8Max] at countable
  omega

theorem fragmentPacket_ascending {limit : Nat}
    (ok : fragmentPacket core packet limit = .ok fragments) :
    fragments.length ≤ u8Max ∧ Ascending packet fragments := by
  obtain ⟨encoded, written, ⟨fits, rfl⟩ | ⟨width, room, cut⟩⟩ := fragmentPacket_cases ok
  · exact ⟨Nat.succ_le_succ (Nat.zero_le _), Or.inl rfl⟩
  · exact cut.ascending

end Rtunnel.Tuic
