import Mathlib.Data.List.Induction
import Rtunnel.Tuic.Assembler
import Rtunnel.Tuic.Fragmentation
import Rtunnel.Tuic.Wire

namespace Rtunnel.Tuic

open Rtunnel.Data

/-! Reassembly of a packet that this codec has cut.

A group is measured against the pieces it has taken in so far.  As long as one
is missing it keeps waiting; the last one, whichever it is, releases the packet
that was cut and closes the group.
-/

variable {packet : Packet} {width : Nat} {fragments received : List Packet} {target : TargetAddr}

/-- The piece of a packet at one position. -/
def pieceAt (packet : Packet) (width index : Nat) : Packet :=
  fragmentAt packet (chunkCount width packet.payload) index (chunk width packet.payload index)

/-- A group that holds exactly the pieces received so far. -/
structure Holding (packet : Packet) (width : Nat) (received : List Packet)
    (entry : FragmentedPacket) : Prop where
  assocId : entry.assocId = packet.assocId
  pktId : entry.pktId = packet.pktId
  fragTotal : entry.fragTotal = UInt8.ofNat (chunkCount width packet.payload)
  target : pieceAt packet width 0 ∈ received → entry.target = packet.target
  stored : ∀ piece ∈ received, entry.fragments.lookup piece.fragId = some piece.payload
  others : ∀ fragId, (∀ piece ∈ received, piece.fragId ≠ fragId) →
    entry.fragments.lookup fragId = none
  size : entry.fragments.size = received.length

theorem Holding.opened (index now : Nat) :
    Holding packet width [] (.opened (pieceAt packet width index) now) where
  assocId := rfl
  pktId := rfl
  fragTotal := rfl
  target := by simp
  stored := by simp
  others := fun _ _ => rfl
  size := rfl

theorem u8_ofNat_injective {left right : Nat} (leftSmall : left ≤ u8Max)
    (rightSmall : right ≤ u8Max) (same : UInt8.ofNat left = UInt8.ofNat right) : left = right := by
  have values := congrArg UInt8.toNat same
  simp only [UInt8.toNat_ofNat', u8Max] at *
  omega

theorem pieceAt_fragId_inj (cut : Cut packet width fragments) {left right : Nat}
    (leftInside : left < chunkCount width packet.payload)
    (rightInside : right < chunkCount width packet.payload)
    (same : (pieceAt packet width left).fragId = (pieceAt packet width right).fragId) :
    left = right := by
  have countable := cut.countable
  exact u8_ofNat_injective (by omega) (by omega) same

theorem Holding.accept (cut : Cut packet width fragments) {entry : FragmentedPacket}
    (holding : Holding packet width received entry) {index : Nat}
    (inside : index < chunkCount width packet.payload) (now : Nat)
    (fresh : ∀ piece ∈ received, piece.fragId ≠ (pieceAt packet width index).fragId) :
    Holding packet width (received ++ [pieceAt packet width index])
      (entry.accept (pieceAt packet width index) now) where
  assocId := holding.assocId
  pktId := holding.pktId
  fragTotal := holding.fragTotal
  target := by
    intro member
    have zeroInside : 0 < chunkCount width packet.payload := by omega
    simp only [FragmentedPacket.accept]
    by_cases first : index = 0
    · subst first
      rfl
    · have notZero : (pieceAt packet width index).fragId ≠ 0 := fun same =>
        first (pieceAt_fragId_inj cut inside zeroInside same)
      rw [if_neg notZero]
      apply holding.target
      rcases List.mem_append.mp member with old | new
      · exact old
      · have same := List.mem_singleton.mp new
        exact absurd (pieceAt_fragId_inj cut zeroInside inside (congrArg Packet.fragId same)).symm
          first
  stored := by
    intro piece member
    simp only [FragmentedPacket.accept]
    rcases List.mem_append.mp member with old | new
    · rw [AList.lookup_insert_ne (fresh piece old)]
      exact holding.stored piece old
    · obtain rfl := List.mem_singleton.mp new
      exact AList.lookup_insert _
  others := by
    intro fragId absent
    have different := absent (pieceAt packet width index) (by simp)
    simp only [FragmentedPacket.accept]
    rw [AList.lookup_insert_ne (Ne.symm different)]
    exact holding.others fragId fun piece member => absent piece (by simp [member])
  size := by
    have before := holding.size
    rw [KeyedMap.size_eq_total] at before ⊢
    simp only [FragmentedPacket.accept, List.length_append, List.length_singleton]
    rw [KeyedMap.total_insert_of_none _ (holding.others _ fresh), before]

/-- Collecting distinct ids that are all present joins their contents in order. -/
theorem collect_present (content : Nat → List UInt8) (fragIds : List Nat)
    (distinct : fragIds.Nodup) (small : ∀ fragId ∈ fragIds, fragId ≤ u8Max)
    (stored : KeyedMap UInt8 (List UInt8))
    (present : ∀ fragId ∈ fragIds, stored.lookup (UInt8.ofNat fragId) = some (content fragId))
    (payload : List UInt8) :
    (PacketAssembler.collect stored fragIds payload).2 =
      some (payload ++ (fragIds.map content).flatten) := by
  induction fragIds generalizing stored payload with
  | nil => simp [PacketAssembler.collect]
  | cons fragId rest ih =>
      obtain ⟨notInRest, restDistinct⟩ := List.nodup_cons.mp distinct
      have found := present fragId (by simp)
      have kept : ∀ other ∈ rest,
          (stored.erase (UInt8.ofNat fragId)).lookup (UInt8.ofNat other) =
            some (content other) := by
        intro other member
        have different : UInt8.ofNat other ≠ UInt8.ofNat fragId := by
          intro same
          have equal := u8_ofNat_injective (small other (by simp [member]))
            (small fragId (by simp)) same
          exact notInRest (equal ▸ member)
        rw [AList.lookup_erase_ne different]
        exact present other (by simp [member])
      simp only [PacketAssembler.collect, found]
      rw [ih restDistinct (fun other member => small other (by simp [member])) _ kept]
      simp

/-- A group with every piece and the target releases the packet that was cut. -/
theorem Holding.finish (cut : Cut packet width fragments) {entry : FragmentedPacket}
    (holding : Holding packet width received entry)
    (whole : packet.fragTotal = 1 ∧ packet.fragId = 0) (named : packet.target = some target)
    (complete : received.length = chunkCount width packet.payload)
    (every : ∀ index, index < chunkCount width packet.payload →
      pieceAt packet width index ∈ received) :
    PacketAssembler.finish entry = (none, some packet) := by
  have countable := cut.countable
  have several := cut.several
  have total : entry.fragTotal.toNat = chunkCount width packet.payload := by
    rw [holding.fragTotal, UInt8.toNat_ofNat']
    simp only [u8Max] at countable
    exact Nat.mod_eq_of_lt (by omega)
  have full : ¬ entry.fragments.size ≠ entry.fragTotal.toNat := by
    rw [holding.size, total, complete]
    exact fun different => different rfl
  have entryTarget : entry.target = some target := by
    rw [holding.target (every 0 (by omega)), named]
  have collected : (PacketAssembler.collect entry.fragments
      (List.range entry.fragTotal.toNat) []).2 = some packet.payload := by
    rw [total, collect_present (chunk width packet.payload) _ List.nodup_range]
    · rw [List.nil_append]
      exact congrArg some (chunks_flatten cut.positive packet.payload)
    · intro fragId member
      have inside := List.mem_range.mp member
      omega
    · intro fragId member
      exact holding.stored _ (every fragId (List.mem_range.mp member))
  simp only [PacketAssembler.finish, full, entryTarget, ↓reduceIte]
  split
  · rename_i left missing
    rw [missing] at collected
    contradiction
  · rename_i left payload joined
    rw [joined] at collected
    obtain ⟨assocId, pktId, fragTotal, fragId, packetTarget, bytes⟩ := packet
    simp only at whole named
    obtain ⟨rfl, rfl⟩ := whole
    cases collected
    simp only [holding.assocId, holding.pktId, named]

/-- What a group looks like after some of the pieces have arrived. -/
def Progress (packet : Packet) (width : Nat) (received : List Packet) :
    Option FragmentedPacket → Prop
  | none => received = []
  | some entry => Holding packet width received entry

theorem Progress.current {group : Option FragmentedPacket}
    (progress : Progress packet width received group) (index now : Nat) :
    Holding packet width received (group.getD (.opened (pieceAt packet width index) now)) := by
  cases group with
  | none =>
      obtain rfl : received = [] := progress
      exact Holding.opened index now
  | some entry => exact progress

/-- No piece of a packet is a copy of another. -/
theorem Cut.nodup (cut : Cut packet width fragments) : fragments.Nodup := by
  rw [cut.pieces]
  refine List.nodup_iff_injective_get.mpr ?_
  intro left right same
  apply Fin.ext
  have leftInside : left.val < chunkCount width packet.payload := by simpa using left.isLt
  have rightInside : right.val < chunkCount width packet.payload := by simpa using right.isLt
  have ids := congrArg Packet.fragId same
  simp only [List.get_eq_getElem, List.getElem_mapIdx] at ids
  exact pieceAt_fragId_inj cut leftInside rightInside ids

/-- The next piece of an arrangement has an id that none before it has. -/
theorem Cut.fresh (cut : Cut packet width fragments) {missing : List Packet} {index : Nat}
    (inside : index < chunkCount width packet.payload)
    (remaining : (received ++ pieceAt packet width index :: missing).Perm fragments) :
    ∀ piece ∈ received, piece.fragId ≠ (pieceAt packet width index).fragId := by
  intro piece member same
  have distinct := remaining.nodup_iff.mpr cut.nodup
  obtain ⟨other, otherInside, rfl⟩ := cut.mem_iff.mp
    (remaining.mem_iff.mp (List.mem_append_left _ member))
  obtain rfl := pieceAt_fragId_inj cut otherInside inside same
  exact (List.disjoint_of_nodup_append distinct) member (by simp [pieceAt])

/-- A piece of a cut packet is always added to its group. -/
theorem Progress.push (cut : Cut packet width fragments) {group : Option FragmentedPacket}
    (progress : Progress packet width received group) (index now : Nat) :
    pushGroup group ⟨pieceAt packet width index, now⟩ =
      let finished := PacketAssembler.finish ((group.getD (.opened (pieceAt packet width index)
        now)).accept (pieceAt packet width index) now)
      (finished.1, .ok finished.2) := by
  have countable := cut.countable
  have several := cut.several
  simp only [u8Max] at countable
  have notSingle : (pieceAt packet width index).fragTotal ≠ 1 := by
    intro single
    have value := congrArg UInt8.toNat single
    simp only [pieceAt, fragmentAt, UInt8.toNat_ofNat', UInt8.toNat_one] at value
    omega
  have sameTotal : ¬ (group.getD (.opened (pieceAt packet width index) now)).fragTotal ≠
      (pieceAt packet width index).fragTotal :=
    fun different => different (progress.current index now).fragTotal
  simp only [pushGroup, PacketAssembler.pushFragment, notSingle, sameTotal, ↓reduceIte]

/-- A group with fewer pieces than the packet has keeps waiting. -/
theorem Holding.waits (cut : Cut packet width fragments) {entry : FragmentedPacket}
    (holding : Holding packet width received entry)
    (short : received.length < chunkCount width packet.payload) :
    PacketAssembler.finish entry = (some entry, none) := by
  have countable := cut.countable
  simp only [u8Max] at countable
  have incomplete : entry.fragments.size ≠ entry.fragTotal.toNat := by
    rw [holding.size, holding.fragTotal, UInt8.toNat_ofNat']
    omega
  simp only [PacketAssembler.finish, incomplete, ne_eq, not_false_eq_true, ↓reduceIte]

/-- One more piece: the group keeps waiting, or releases the packet when this
was the last piece missing. -/
theorem Progress.step (cut : Cut packet width fragments) {group : Option FragmentedPacket}
    (progress : Progress packet width received group)
    (whole : packet.fragTotal = 1 ∧ packet.fragId = 0) (named : packet.target = some target)
    {index : Nat} (now : Nat) (inside : index < chunkCount width packet.payload)
    {missing : List Packet}
    (remaining : (received ++ pieceAt packet width index :: missing).Perm fragments) :
    (missing = [] → pushGroup group ⟨pieceAt packet width index, now⟩ = (none, .ok (some packet))) ∧
    (missing ≠ [] →
      (pushGroup group ⟨pieceAt packet width index, now⟩).2 = .ok none ∧
      Progress packet width (received ++ [pieceAt packet width index])
        (pushGroup group ⟨pieceAt packet width index, now⟩).1) := by
  have length : received.length + (missing.length + 1) = chunkCount width packet.payload := by
    have counted := remaining.length_eq
    rw [cut.pieces] at counted
    simpa using counted
  have accepted := (progress.current index now).accept cut inside now (cut.fresh inside remaining)
  rw [progress.push cut]
  constructor
  · rintro rfl
    rw [accepted.finish cut whole named]
    · simpa using length
    · intro other otherInside
      exact remaining.mem_iff.mpr (cut.mem_iff.mpr ⟨other, otherInside, rfl⟩)
  · intro waiting
    have more : 0 < missing.length := List.length_pos_iff.mpr waiting
    rw [accepted.waits cut (by rw [List.length_append, List.length_singleton]; omega)]
    exact ⟨rfl, accepted⟩

/-- While a piece is missing, the group holds what has arrived. -/
theorem Progress.run (cut : Cut packet width fragments)
    (whole : packet.fragTotal = 1 ∧ packet.fragId = 0) (named : packet.target = some target)
    (done : List Arrival) {missing : List Packet} (waiting : missing ≠ [])
    (remaining : (done.map Arrival.packet ++ missing).Perm fragments) :
    Progress packet width (done.map Arrival.packet) (groupMachine.run none done) := by
  induction done using List.reverseRecOn generalizing missing with
  | nil => rfl
  | append_singleton done arrival ih =>
      rw [List.map_append, List.append_assoc] at remaining
      have earlier := ih (by simp) remaining
      obtain ⟨index, inside, piece⟩ := cut.mem_iff.mp
        (remaining.mem_iff.mp (by simp : arrival.packet ∈ _))
      obtain ⟨_, now⟩ := arrival
      simp only at piece
      subst piece
      rw [Machine.run_append, List.map_append]
      exact ((earlier.step cut whole named now inside remaining).2 waiting).2

/-- What a group answers, arrival by arrival, and that nothing of it is left. -/
def Reassembles (packet : Packet) (arrivals : List Arrival) : Prop :=
  (∀ before arrival after, arrivals = before ++ arrival :: after →
    groupMachine.output (groupMachine.run none before) arrival =
      .ok (if after = [] then some packet else none)) ∧
  groupMachine.run none arrivals = none

/-- A packet that was not cut is released at once. -/
theorem reassembles_whole (whole : packet.fragTotal = 1) (named : packet.target = some target)
    (now : Nat) : Reassembles packet [⟨packet, now⟩] := by
  have released : pushGroup none ⟨packet, now⟩ = (none, .ok (some packet)) := by
    simp only [pushGroup, whole, named, Option.isSome_some, ↓reduceIte]
  refine ⟨?_, congrArg Prod.fst released⟩
  intro before arrival after split
  cases before with
  | nil =>
      obtain ⟨rfl, rfl⟩ := List.cons.inj split
      exact congrArg Prod.snd released
  | cons first rest => simp at split

/-- Every arrival but the last leaves the group waiting. -/
theorem Cut.answers (cut : Cut packet width fragments)
    (whole : packet.fragTotal = 1 ∧ packet.fragId = 0) (named : packet.target = some target)
    {before after : List Arrival} {arrival : Arrival}
    (every : ((before ++ arrival :: after).map Arrival.packet).Perm fragments) :
    (after = [] → pushGroup (groupMachine.run none before) arrival = (none, .ok (some packet))) ∧
    (after ≠ [] → (pushGroup (groupMachine.run none before) arrival).2 = .ok none) := by
  rw [List.map_append, List.map_cons] at every
  obtain ⟨index, inside, piece⟩ := cut.mem_iff.mp
    (every.mem_iff.mp (by simp : arrival.packet ∈ _))
  have progress := Progress.run cut whole named before (by simp) every
  obtain ⟨_, now⟩ := arrival
  simp only at piece
  subst piece
  obtain ⟨last, waits⟩ := progress.step cut whole named now inside every
  exact ⟨fun ended => last (by simp [ended]), fun more => (waits (by simpa using more)).1⟩

theorem Cut.reassembles (cut : Cut packet width fragments)
    (whole : packet.fragTotal = 1 ∧ packet.fragId = 0) (named : packet.target = some target)
    {arrivals : List Arrival} (every : (arrivals.map Arrival.packet).Perm fragments) :
    Reassembles packet arrivals := by
  constructor
  · intro before arrival after split
    obtain ⟨last, waits⟩ := cut.answers whole named (split ▸ every)
    by_cases ended : after = []
    · simp only [ended, ↓reduceIte]
      exact congrArg Prod.snd (last ended)
    · simp only [ended, ↓reduceIte]
      exact waits ended
  · have nonempty : arrivals ≠ [] := by
      rintro rfl
      have several := cut.several
      have counted := every.length_eq
      rw [cut.pieces] at counted
      simp at counted
      omega
    obtain ⟨before, arrival, split⟩ := List.eq_nil_or_concat arrivals |>.resolve_left nonempty
    rw [List.concat_eq_append] at split
    rw [split, Machine.run_append]
    exact congrArg Prod.fst ((cut.answers whole named (split ▸ every)).1 rfl)

/-- All arrivals of one packet, in any order: only the last one releases the
packet, and nothing of the group is left. -/
theorem group_reassembles {core : TuicCore} {limit : Nat}
    (whole : packet.fragTotal = 1 ∧ packet.fragId = 0) (named : packet.target = some target)
    (ok : fragmentPacket core packet limit = .ok fragments) {arrivals : List Arrival}
    (every : (arrivals.map Arrival.packet).Perm fragments) : Reassembles packet arrivals := by
  obtain ⟨encoded, written, ⟨fits, rfl⟩ | ⟨width, room, cut⟩⟩ := fragmentPacket_cases ok
  · obtain ⟨arrival, rfl⟩ := List.length_eq_one_iff.mp (by simpa using every.length_eq)
    obtain ⟨arrived, now⟩ := arrival
    obtain rfl : arrived = packet := by simpa using every
    exact reassembles_whole whole.1 named now
  · exact cut.reassembles whole named every

theorem fragment_key {core : TuicCore} {limit : Nat}
    (ok : fragmentPacket core packet limit = .ok fragments) {fragment : Packet}
    (member : fragment ∈ fragments) : fragment.key = packet.key := by
  obtain ⟨_, _, ⟨_, rfl⟩ | ⟨width, _, cut⟩⟩ := fragmentPacket_cases ok
  · rw [List.mem_singleton.mp member]
  · obtain ⟨index, _, rfl⟩ := cut.mem_iff.mp member
    rfl

theorem fragments_nonempty {core : TuicCore} {limit : Nat}
    (ok : fragmentPacket core packet limit = .ok fragments) : fragments ≠ [] := by
  obtain ⟨_, _, ⟨_, rfl⟩ | ⟨width, _, cut⟩⟩ := fragmentPacket_cases ok
  · simp
  · have several := cut.several
    exact List.ne_nil_of_mem (cut.mem_iff.mpr ⟨0, by omega, rfl⟩)

/-- Among the pieces of packets with distinct keys, those of one key are the
pieces of its packet. -/
theorem filter_key_flatMap {packets : List Packet} {pieces : Packet → List Packet}
    (distinct : (packets.map Packet.key).Nodup)
    (keyed : ∀ packet ∈ packets, ∀ piece ∈ pieces packet, piece.key = packet.key)
    {packet : Packet} (member : packet ∈ packets) :
    (packets.flatMap pieces).filter (fun piece => piece.key = packet.key) = pieces packet := by
  induction packets with
  | nil => simp at member
  | cons first rest ih =>
      obtain ⟨outside, restDistinct⟩ := List.nodup_cons.mp distinct
      rw [List.flatMap_cons, List.filter_append]
      rcases List.mem_cons.mp member with rfl | inRest
      · have own : (pieces packet).filter (fun piece => piece.key = packet.key) = pieces packet :=
          List.filter_eq_self.mpr fun piece inside => by
            simpa using keyed packet (by simp) piece inside
        have foreign : (rest.flatMap pieces).filter (fun piece => piece.key = packet.key) = [] := by
          refine List.filter_eq_nil_iff.mpr fun piece inside => ?_
          obtain ⟨owner, ownerMember, pieceMember⟩ := List.mem_flatMap.mp inside
          have ownerKey := keyed owner (by simp [ownerMember]) piece pieceMember
          intro same
          refine outside (List.mem_map.mpr ⟨owner, ownerMember, ?_⟩)
          rw [← ownerKey]
          simpa using same
        rw [own, foreign, List.append_nil]
      · have foreign : (pieces first).filter (fun piece => piece.key = packet.key) = [] := by
          refine List.filter_eq_nil_iff.mpr fun piece inside => ?_
          have firstKey := keyed first (by simp) piece inside
          intro same
          refine outside (List.mem_map.mpr ⟨packet, inRest, ?_⟩)
          rw [← firstKey]
          simpa using Eq.symm (by simpa using same)
        rw [foreign, List.nil_append]
        exact ih restDistinct (fun other inside => keyed other (by simp [inside])) inRest

theorem assembler_eq_empty {assembler : PacketAssembler}
    (absent : ∀ key, assembler.group key = none) : assembler = .empty := by
  obtain ⟨entries⟩ := assembler
  refine congrArg PacketAssembler.mk (AList.ext ?_)
  cases listed : entries.entries with
  | nil => rfl
  | cons entry rest =>
      have present : entry.1 ∈ entries := by
        rw [AList.mem_keys, AList.keys, listed]
        simp
      exact absurd present (AList.lookup_eq_none.mp (absent entry.1))

/-- The last arrival of a key that occurs at all. -/
theorem exists_last_arrival {key : UInt16 × UInt16} {arrivals : List Arrival}
    (occurs : ∃ arrival ∈ arrivals, arrival.key = key) :
    ∃ before arrival after, arrivals = before ++ arrival :: after ∧ arrival.key = key ∧
      after.any (fun later => later.key = key) = false := by
  induction arrivals with
  | nil => simp at occurs
  | cons first rest ih =>
      by_cases again : ∃ arrival ∈ rest, arrival.key = key
      · obtain ⟨before, arrival, after, split, own, last⟩ := ih again
        exact ⟨first :: before, arrival, after, by rw [split]; rfl, own, last⟩
      · refine ⟨[], first, rest, rfl, ?_, ?_⟩
        · obtain ⟨arrival, member, own⟩ := occurs
          rcases List.mem_cons.mp member with rfl | inRest
          · exact own
          · exact absurd ⟨arrival, inRest, own⟩ again
        · simpa using again

/-- Packets with distinct keys, cut to arbitrary limits, and arrivals of all
their pieces in whatever order. -/
structure Traffic (core : TuicCore) (packets : List Packet) (limit : Packet → Nat)
    (fragments : Packet → List Packet) (arrivals : List Arrival) : Prop where
  whole : ∀ packet ∈ packets, (packet.fragTotal = 1 ∧ packet.fragId = 0) ∧
    ∃ target, packet.target = some target
  distinct : (packets.map Packet.key).Nodup
  cut : ∀ packet ∈ packets, fragmentPacket core packet (limit packet) = .ok (fragments packet)
  every : (arrivals.map Arrival.packet).Perm (packets.flatMap fragments)

namespace Traffic

variable {core : TuicCore} {packets : List Packet} {limit : Packet → Nat}
variable {fragments : Packet → List Packet} {arrivals : List Arrival}

theorem keyed (traffic : Traffic core packets limit fragments arrivals) (member : packet ∈ packets)
    {piece : Packet} (inside : piece ∈ fragments packet) :
    piece.key = packet.key :=
  fragment_key (traffic.cut packet member) inside

/-- Every arrival is a piece of one of the packets. -/
theorem owner (traffic : Traffic core packets limit fragments arrivals) {arrival : Arrival}
    (arrived : arrival ∈ arrivals) : ∃ packet ∈ packets, packet.key = arrival.key := by
  have inside : arrival.packet ∈ packets.flatMap fragments :=
    traffic.every.mem_iff.mp (List.mem_map_of_mem arrived)
  obtain ⟨packet, member, piece⟩ := List.mem_flatMap.mp inside
  exact ⟨packet, member, (traffic.keyed member piece).symm⟩

/-- Some piece of every packet arrives. -/
theorem occurs (traffic : Traffic core packets limit fragments arrivals)
    (member : packet ∈ packets) : ∃ arrival ∈ arrivals, arrival.key = packet.key := by
  obtain ⟨piece, rest, shape⟩ :=
    List.exists_cons_of_ne_nil (fragments_nonempty (traffic.cut packet member))
  have pieceMember : piece ∈ fragments packet := by rw [shape]; simp
  have inside : piece ∈ arrivals.map Arrival.packet :=
    traffic.every.mem_iff.mpr (List.mem_flatMap.mpr ⟨packet, member, pieceMember⟩)
  obtain ⟨arrival, arrived, rfl⟩ := List.mem_map.mp inside
  exact ⟨arrival, arrived, traffic.keyed member pieceMember⟩

/-- The arrivals of one key reassemble its packet. -/
theorem group (traffic : Traffic core packets limit fragments arrivals)
    (member : packet ∈ packets) :
    Reassembles packet (arrivals.filter fun arrival => arrival.key = packet.key) := by
  obtain ⟨whole, target, named⟩ := traffic.whole packet member
  refine group_reassembles whole named (traffic.cut packet member) ?_
  rw [← filter_key_flatMap traffic.distinct (fun _ member _ => traffic.keyed member) member]
  have filtered := traffic.every.filter (fun piece => piece.key = packet.key)
  rw [List.filter_map] at filtered
  exact filtered

theorem answered (traffic : Traffic core packets limit fragments arrivals)
    (member : packet ∈ packets) {before after : List Arrival} {arrival : Arrival}
    (split : arrivals = before ++ arrival :: after) (own : packet.key = arrival.key) :
    assemblerMachine.output (assemblerMachine.run .empty before) arrival =
      .ok (if after.any (fun later => later.key = arrival.key) then none else some packet) := by
  rw [assembler_splits.emits, assembler_splits.view_run]
  have position := (traffic.group member).1
    (before.filter fun arrival => arrival.key = packet.key) arrival
    (after.filter fun arrival => arrival.key = packet.key)
    (by rw [split, List.filter_append, List.filter_cons, if_pos (by simp [own])])
  rw [← own]
  refine position.trans (congrArg Except.ok ?_)
  by_cases last : (after.filter fun arrival => arrival.key = packet.key) = []
  · have noneLater : after.any (fun later => later.key = packet.key) = false := by
      simpa using List.filter_eq_nil_iff.mp last
    simp only [last, noneLater, ↓reduceIte, Bool.false_eq_true]
  · have later : after.any (fun later => later.key = packet.key) = true := by
      by_contra absent
      exact last (List.filter_eq_nil_iff.mpr (by simpa using absent))
    simp only [last, later, ↓reduceIte]

theorem leaves_nothing (traffic : Traffic core packets limit fragments arrivals) :
    assemblerMachine.run .empty arrivals = .empty := by
  refine assembler_eq_empty fun key => ?_
  rw [assembler_splits.view_run]
  by_cases owned : ∃ packet ∈ packets, packet.key = key
  · obtain ⟨packet, member, rfl⟩ := owned
    exact (traffic.group member).2
  · have nobody : (arrivals.filter fun arrival => arrival.key = key) = [] := by
      refine List.filter_eq_nil_iff.mpr fun arrival arrived same => owned ?_
      obtain ⟨packet, member, own⟩ := traffic.owner arrived
      exact ⟨packet, member, own.trans (of_decide_eq_true same)⟩
    rw [nobody]
    rfl

end Traffic

/-- Fragmentation end to end, for packets with distinct keys cut to arbitrary
limits.  Every piece encodes within its limit and parses back to itself.  When
all pieces arrive, in whatever order, each arrival is answered without an error:
with the original packet if it is the last of its key, else with nothing.  Every
packet is returned, and the assembler ends empty. -/
theorem fragments_reassemble_in_any_order {core : TuicCore} (lawful : core.Lawful)
    (packets : List Packet) (limit : Packet → Nat) (fragments : Packet → List Packet)
    (whole : ∀ packet ∈ packets, packet.fragTotal = 1 ∧ packet.fragId = 0 ∧
      ∃ target, packet.target = some target ∧ target.Portable)
    (distinct : (packets.map Packet.key).Nodup)
    (cut : ∀ packet ∈ packets,
      fragmentPacket core packet (limit packet) = .ok (fragments packet)) :
    (∀ packet ∈ packets, ∀ fragment ∈ fragments packet,
      ∃ bytes, encodePacket core fragment = .ok bytes ∧ bytes.length ≤ limit packet ∧
        parsePacket core bytes = .ok fragment) ∧
    ∀ arrivals : List Arrival,
      (arrivals.map Arrival.packet).Perm (packets.flatMap fragments) →
      (∀ before arrival after, arrivals = before ++ arrival :: after →
        ∃ packet ∈ packets, packet.key = arrival.key ∧
          assemblerMachine.output (assemblerMachine.run .empty before) arrival =
            .ok (if after.any (fun later => later.key = arrival.key) then none
              else some packet)) ∧
      (∀ packet ∈ packets, ∃ before arrival after, arrivals = before ++ arrival :: after ∧
        assemblerMachine.output (assemblerMachine.run .empty before) arrival =
          .ok (some packet)) ∧
      assemblerMachine.run .empty arrivals = .empty := by
  constructor
  · intro packet member fragment inside
    obtain ⟨_, _, target, named, portable⟩ := whole packet member
    refine fragment_fits lawful ?_ (cut packet member) inside
    intro other same
    rw [named] at same
    cases same
    exact portable
  · intro arrivals every
    have unbroken : ∀ packet ∈ packets, (packet.fragTotal = 1 ∧ packet.fragId = 0) ∧
        ∃ target, packet.target = some target := by
      intro packet member
      obtain ⟨total, index, target, named, _⟩ := whole packet member
      exact ⟨⟨total, index⟩, target, named⟩
    have traffic : Traffic core packets limit fragments arrivals :=
      ⟨unbroken, distinct, cut, every⟩
    refine ⟨?_, ?_, traffic.leaves_nothing⟩
    · intro before arrival after split
      obtain ⟨packet, member, own⟩ := traffic.owner (by simp [split] : arrival ∈ arrivals)
      exact ⟨packet, member, own, traffic.answered member split own⟩
    · intro packet member
      obtain ⟨before, arrival, after, split, own, last⟩ :=
        exists_last_arrival (traffic.occurs member)
      refine ⟨before, arrival, after, split, ?_⟩
      rw [traffic.answered member split own.symm, own, last]
      rfl

/-- Two packets to one address: three bytes, which exceed a limit of 19 bytes by
one, and a single byte that fits. -/
def samplePacket (pktId : UInt16) (payload : List UInt8) : Packet where
  assocId := 1
  pktId := pktId
  fragTotal := 1
  fragId := 0
  target := some (.ip (.v4 loopback 53))
  payload := payload

def samplePieces (packet : Packet) : List Packet :=
  if packet.pktId = 7 then
    [fragmentAt (samplePacket 7 [10, 11, 12]) 2 0 [10, 11],
      fragmentAt (samplePacket 7 [10, 11, 12]) 2 1 [12]]
  else
    [samplePacket 8 [42]]

theorem sample_fragments_reassemble_backwards :
    assemblerMachine.outputs .empty
        [⟨fragmentAt (samplePacket 7 [10, 11, 12]) 2 1 [12], 3⟩, ⟨samplePacket 8 [42], 4⟩,
          ⟨fragmentAt (samplePacket 7 [10, 11, 12]) 2 0 [10, 11], 5⟩] =
      [.ok none, .ok (some (samplePacket 8 [42])), .ok (some (samplePacket 7 [10, 11, 12]))] ∧
    assemblerMachine.run .empty
        [⟨fragmentAt (samplePacket 7 [10, 11, 12]) 2 1 [12], 3⟩, ⟨samplePacket 8 [42], 4⟩,
          ⟨fragmentAt (samplePacket 7 [10, 11, 12]) 2 0 [10, 11], 5⟩] = .empty := by
  refine ⟨by decide, ?_⟩
  refine ((fragments_reassemble_in_any_order tuicV5_lawful
    [samplePacket 7 [10, 11, 12], samplePacket 8 [42]] (fun _ => 19) samplePieces
    ?_ (by decide) ?_).2 _ (by decide)).2.2
  · intro packet member
    simp only [List.mem_cons, List.not_mem_nil, or_false] at member
    rcases member with rfl | rfl <;> exact ⟨rfl, rfl, _, rfl, trivial⟩
  · intro packet member
    simp only [List.mem_cons, List.not_mem_nil, or_false] at member
    rcases member with rfl | rfl <;> decide

end Rtunnel.Tuic
