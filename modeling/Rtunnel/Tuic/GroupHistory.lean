import Mathlib.Data.Finset.Image
import Mathlib.Data.Finset.Range
import Rtunnel.Data.History
import Rtunnel.Tuic.Reassembly

namespace Rtunnel.Tuic

open Rtunnel.Data Rtunnel.Data.History

/-! Reassembly for arbitrary peers.

Fragments may come in any order, twice, with contents and totals that disagree,
and groups may be evicted in between.  A recorder keeps, beside the assembler,
the fragments that each group has taken since it was opened; what `pushAt`
answers is a function of that record.
-/

inductive AssemblerEvent where
  | push (packet : Packet) (now : Nat)
  | evict (now timeout : Nat)

def AssemblerEvent.apply (assembler : PacketAssembler) :
    AssemblerEvent → PacketAssembler × Except Error (Option Packet)
  | .push packet now => assembler.pushAt packet now
  | .evict now timeout => (assembler.evictIdle now timeout, .ok none)

/-- The fragment that an event adds to the group of a key. -/
def AssemblerEvent.adds (key : UInt16 × UInt16) (answer : Except Error (Option Packet)) :
    AssemblerEvent → List Packet
  | .push packet _ =>
      if packet.key = key ∧ packet.fragTotal ≠ 1 ∧ answer.isOk then [packet] else []
  | .evict _ _ => []

structure Recorded where
  assembler : PacketAssembler
  received : UInt16 × UInt16 → List Packet

def Recorded.new : Recorded := ⟨.empty, fun _ => []⟩

/-- The record of a group is dropped with the group. -/
def recordOf (group : Option FragmentedPacket) (received : List Packet) : List Packet :=
  match group with
  | none => []
  | some _ => received

def Recorded.step (state : Recorded) (event : AssemblerEvent) :
    Recorded × Except Error (Option Packet) :=
  let applied := event.apply state.assembler
  (⟨applied.1, fun key =>
      recordOf (applied.1.group key) (state.received key ++ event.adds key applied.2)⟩, applied.2)

def recorder : Machine Recorded AssemblerEvent (Except Error (Option Packet)) :=
  ⟨Recorded.step⟩

def payloadOf (fragId : UInt8) (packet : Packet) : Option (List UInt8) :=
  if packet.fragId = fragId then some packet.payload else none

/-- Fragment 0 carries the target, or fails to. -/
def targetOf (packet : Packet) : Option (Option TargetAddr) :=
  if packet.fragId = 0 then some packet.target else none

/-- Every fragment has been received, and the latest fragment 0 names the target. -/
structure Complete (total : UInt8) (received : List Packet) (target : TargetAddr) : Prop where
  every : ∀ fragId < total, ∃ packet ∈ received, packet.fragId = fragId
  named : latest targetOf received = some (some target)

/-- The latest payload of each fragment, joined in the order of the ids. -/
def joined (total : UInt8) (received : List Packet) : List UInt8 :=
  ((List.range total.toNat).map fun fragId =>
    (latest (payloadOf (UInt8.ofNat fragId)) received).getD []).flatten

def assembled (key : UInt16 × UInt16) (total : UInt8) (received : List Packet)
    (target : TargetAddr) : Packet where
  assocId := key.1
  pktId := key.2
  fragTotal := 1
  fragId := 0
  target := some target
  payload := joined total received

theorem latest_payload_isSome_iff (received : List Packet) (fragId : UInt8) :
    (latest (payloadOf fragId) received).isSome ↔ ∃ packet ∈ received, packet.fragId = fragId := by
  rw [latest_isSome_iff]
  refine exists_congr fun packet => and_congr_right fun _ => ?_
  by_cases same : packet.fragId = fragId <;> simp [payloadOf, same]

/-- A group that holds what its record says. -/
structure Tracks (key : UInt16 × UInt16) (received : List Packet) (entry : FragmentedPacket) :
    Prop where
  key : (entry.assocId, entry.pktId) = key
  total : ∀ packet ∈ received, packet.fragTotal = entry.fragTotal
  below : ∀ packet ∈ received, packet.fragId < entry.fragTotal
  target : entry.target = (latest targetOf received).join
  stored : ∀ fragId, entry.fragments.lookup fragId = latest (payloadOf fragId) received

namespace Tracks

variable {key : UInt16 × UInt16} {received : List Packet} {entry : FragmentedPacket}

theorem opened (packet : Packet) (now : Nat) : Tracks packet.key [] (.opened packet now) where
  key := rfl
  total := by simp
  below := by simp
  target := rfl
  stored := fun _ => rfl

theorem accept (tracks : Tracks key received entry) {packet : Packet}
    (sameTotal : packet.fragTotal = entry.fragTotal) (below : packet.fragId < packet.fragTotal)
    (now : Nat) : Tracks key (received ++ [packet]) (entry.accept packet now) where
  key := tracks.key
  total := by
    intro other member
    rcases List.mem_append.mp member with earlier | last
    · exact tracks.total other earlier
    · exact List.mem_singleton.mp last ▸ sameTotal
  below := by
    intro other member
    rcases List.mem_append.mp member with earlier | last
    · exact tracks.below other earlier
    · rw [List.mem_singleton.mp last]
      exact lt_of_lt_of_eq below sameTotal
  target := by
    rw [latest_append_singleton]
    by_cases first : packet.fragId = 0
    · simp [FragmentedPacket.accept, targetOf, first]
    · simp [FragmentedPacket.accept, targetOf, first, tracks.target]
  stored := by
    intro fragId
    rw [latest_append_singleton]
    by_cases same : packet.fragId = fragId
    · subst same
      simp [FragmentedPacket.accept, payloadOf]
    · have other : fragId ≠ packet.fragId := Ne.symm same
      simp [FragmentedPacket.accept, payloadOf, same, AList.lookup_insert_ne other,
        tracks.stored fragId]

theorem stored_isSome (tracks : Tracks key received entry) (fragId : UInt8) :
    (entry.fragments.lookup fragId).isSome ↔ ∃ packet ∈ received, packet.fragId = fragId := by
  rw [tracks.stored, latest_payload_isSome_iff]

end Tracks

def fragIdsBelow (total : UInt8) : Finset UInt8 := (Finset.range total.toNat).image UInt8.ofNat

theorem mem_fragIdsBelow {total fragId : UInt8} : fragId ∈ fragIdsBelow total ↔ fragId < total := by
  simp only [fragIdsBelow, Finset.mem_image, Finset.mem_range, UInt8.lt_iff_toNat_lt]
  constructor
  · rintro ⟨index, below, rfl⟩
    exact lt_of_le_of_lt (by rw [UInt8.toNat_ofNat']; exact Nat.mod_le _ _) below
  · exact fun below => ⟨fragId.toNat, below, UInt8.ofNat_toNat⟩

theorem u8_le_max {index : Nat} {total : UInt8} (below : index < total.toNat) : index ≤ u8Max := by
  have bound := total.toNat_lt
  simp only [u8Max]
  omega

theorem card_fragIdsBelow (total : UInt8) : (fragIdsBelow total).card = total.toNat := by
  rw [fragIdsBelow, Finset.card_image_of_injOn, Finset.card_range]
  intro left leftBelow right rightBelow same
  exact u8_ofNat_injective (u8_le_max (Finset.mem_range.mp leftBelow))
    (u8_le_max (Finset.mem_range.mp rightBelow)) same

namespace Tracks

variable {key : UInt16 × UInt16} {received : List Packet} {entry : FragmentedPacket}

theorem full_iff (tracks : Tracks key received entry) :
    entry.fragments.size = entry.fragTotal.toNat ↔
      ∀ fragId < entry.fragTotal, ∃ packet ∈ received, packet.fragId = fragId := by
  have within : ∀ fragId, (entry.fragments.lookup fragId).isSome →
      fragId ∈ fragIdsBelow entry.fragTotal := by
    intro fragId stored
    obtain ⟨packet, member, rfl⟩ := (tracks.stored_isSome fragId).mp stored
    exact mem_fragIdsBelow.mpr (tracks.below packet member)
  rw [← card_fragIdsBelow, KeyedMap.size_eq_card_iff within]
  exact forall_congr' fun fragId => imp_congr mem_fragIdsBelow (tracks.stored_isSome fragId)

/-- A full group is collected to its end. -/
theorem collect (tracks : Tracks key received entry)
    (full : entry.fragments.size = entry.fragTotal.toNat) :
    (PacketAssembler.collect entry.fragments (List.range entry.fragTotal.toNat) []).2 =
      some (joined entry.fragTotal received) := by
  refine collect_present _ _ List.nodup_range ?_ _ ?_ []
  · exact fun fragId member => u8_le_max (List.mem_range.mp member)
  · intro fragId member
    have below : UInt8.ofNat fragId < entry.fragTotal :=
      mem_fragIdsBelow.mp (Finset.mem_image_of_mem _ (List.mem_toFinset.mp (by simpa using member)))
    have present := (tracks.stored_isSome _).mpr (tracks.full_iff.mp full _ below)
    rw [tracks.stored] at present ⊢
    obtain ⟨payload, found⟩ := Option.isSome_iff_exists.mp present
    rw [found, Option.getD_some]

theorem named_iff (tracks : Tracks key received entry) (target : TargetAddr) :
    entry.target = some target ↔ latest targetOf received = some (some target) := by
  rw [tracks.target, Option.join_eq_some_iff]

theorem finish_of_complete (tracks : Tracks key received entry) {target : TargetAddr}
    (complete : Complete entry.fragTotal received target) :
    PacketAssembler.finish entry =
      (none, some (assembled key entry.fragTotal received target)) := by
  have full := tracks.full_iff.mpr complete.every
  have collected := tracks.collect full
  obtain ⟨rfl⟩ := tracks.key
  unfold PacketAssembler.finish
  rw [if_neg (not_not_intro full), (tracks.named_iff target).mpr complete.named]
  dsimp only
  generalize PacketAssembler.collect entry.fragments _ _ = result at collected
  obtain ⟨left, payload⟩ := result
  cases collected
  rfl

theorem finish_of_incomplete (tracks : Tracks key received entry)
    (incomplete : ∀ target, ¬ Complete entry.fragTotal received target) :
    PacketAssembler.finish entry = (some entry, none) := by
  unfold PacketAssembler.finish
  split
  · rfl
  · next full =>
      cases named : entry.target with
      | none => rfl
      | some target =>
          exact absurd ⟨tracks.full_iff.mp (not_not.mp full), (tracks.named_iff target).mp named⟩
            (incomplete target)

end Tracks

/-- The record of one key agrees with the group stored there, which still waits
for something. -/
structure Agrees (key : UInt16 × UInt16) (received : List Packet)
    (group : Option FragmentedPacket) : Prop where
  absent : group = none → received = []
  present : ∀ entry, group = some entry → received ≠ [] ∧ Tracks key received entry ∧
    ∀ target, ¬ Complete entry.fragTotal received target

/-- The group that a fragment meets: the stored one, or the one it opens. -/
def met (group : Option FragmentedPacket) (packet : Packet) (now : Nat) : FragmentedPacket :=
  group.getD (.opened packet now)

namespace Agrees

variable {packet : Packet} {received : List Packet} {group : Option FragmentedPacket}

theorem tracks (agrees : Agrees packet.key received group) (now : Nat) :
    Tracks packet.key received (met group packet now) := by
  cases group with
  | none =>
      rw [agrees.absent rfl]
      exact .opened packet now
  | some entry => exact (agrees.present entry rfl).2.1

/-- The total of a group is that of the fragment that opened it. -/
theorem total (agrees : Agrees packet.key received group) (now : Nat) :
    (met group packet now).fragTotal = (received.head?.elim packet.fragTotal Packet.fragTotal) := by
  cases group with
  | none =>
      rw [agrees.absent rfl]
      rfl
  | some entry =>
      obtain ⟨nonempty, tracks, -⟩ := agrees.present entry rfl
      cases received with
      | nil => exact absurd rfl nonempty
      | cons first rest => exact (tracks.total first List.mem_cons_self).symm

theorem refused (agrees : Agrees packet.key received group) (now : Nat)
    (changed : (met group packet now).fragTotal ≠ packet.fragTotal) :
    PacketAssembler.pushFragment group packet now =
        (group, .error (.message "fragment total changed within packet")) ∧
      ∀ target, ¬ Complete (met group packet now).fragTotal received target := by
  cases group with
  | none => exact absurd rfl changed
  | some entry => exact ⟨if_pos changed, (agrees.present entry rfl).2.2⟩

theorem pushFragment_taken {now : Nat}
    (same : (met group packet now).fragTotal = packet.fragTotal) :
    PacketAssembler.pushFragment group packet now =
      ((PacketAssembler.finish ((met group packet now).accept packet now)).1,
        .ok (PacketAssembler.finish ((met group packet now).accept packet now)).2) :=
  if_neg (not_not_intro same)

theorem completed (agrees : Agrees packet.key received group)
    (below : packet.fragId < packet.fragTotal) {now : Nat}
    (same : (met group packet now).fragTotal = packet.fragTotal) {target : TargetAddr}
    (complete : Complete packet.fragTotal (received ++ [packet]) target) :
    PacketAssembler.pushFragment group packet now =
      (none, .ok (some (assembled packet.key packet.fragTotal (received ++ [packet]) target))) := by
  have tracks := (agrees.tracks now).accept same.symm below now
  have total : ((met group packet now).accept packet now).fragTotal = packet.fragTotal := same
  rw [pushFragment_taken same, tracks.finish_of_complete (total.symm ▸ complete), total]

theorem waits (agrees : Agrees packet.key received group)
    (below : packet.fragId < packet.fragTotal) {now : Nat}
    (same : (met group packet now).fragTotal = packet.fragTotal)
    (incomplete : ∀ target, ¬ Complete packet.fragTotal (received ++ [packet]) target) :
    PacketAssembler.pushFragment group packet now =
      (some ((met group packet now).accept packet now), .ok none) := by
  have tracks := (agrees.tracks now).accept same.symm below now
  have total : ((met group packet now).accept packet now).fragTotal = packet.fragTotal := same
  rw [pushFragment_taken same, tracks.finish_of_incomplete (total.symm ▸ incomplete)]

theorem none (key : UInt16 × UInt16) : Agrees key [] none :=
  ⟨fun _ => rfl, by rintro entry ⟨⟩⟩

/-- A group that an event leaves alone keeps its record. -/
theorem kept {key : UInt16 × UInt16} (agrees : Agrees key received group) :
    Agrees key (recordOf group (received ++ [])) group := by
  cases group with
  | none => exact .none key
  | some entry => rwa [List.append_nil]

/-- An eviction drops a group and its record, or neither. -/
theorem filtered {key : UInt16 × UInt16} (agrees : Agrees key received group)
    (test : FragmentedPacket → Bool) :
    Agrees key (recordOf (group.filter test) (received ++ [])) (group.filter test) := by
  cases group with
  | none => exact .none key
  | some entry =>
      cases fresh : test entry with
      | true =>
          rw [Option.filter, if_pos fresh]
          exact agrees.kept
      | false =>
          rw [Option.filter, if_neg (by rw [fresh]; decide)]
          exact .none key

/-- Whatever a fragment does, the record follows its group. -/
theorem pushed (agrees : Agrees packet.key received group) (several : packet.fragTotal ≠ 1)
    (below : packet.fragId < packet.fragTotal) (now : Nat) :
    let pushed := PacketAssembler.pushFragment group packet now
    Agrees packet.key
      (recordOf pushed.1 (received ++ (AssemblerEvent.push packet now).adds packet.key pushed.2))
      pushed.1 := by
  dsimp only
  by_cases same : (met group packet now).fragTotal = packet.fragTotal
  · by_cases complete : ∃ target, Complete packet.fragTotal (received ++ [packet]) target
    · obtain ⟨target, complete⟩ := complete
      rw [agrees.completed below same complete]
      exact .none packet.key
    · rw [agrees.waits below same fun target done => complete ⟨target, done⟩]
      have added : (AssemblerEvent.push packet now).adds packet.key (.ok Option.none) = [packet] :=
        if_pos ⟨rfl, several, rfl⟩
      refine ⟨by rintro ⟨⟩, ?_⟩
      rintro entry ⟨⟩
      rw [added]
      refine ⟨by simp [recordOf], (agrees.tracks now).accept same.symm below now, ?_⟩
      exact fun target done => complete ⟨target, same ▸ done⟩
  · have refused := (agrees.refused now same).1
    have added : ∀ reason, (AssemblerEvent.push packet now).adds packet.key (.error reason) = [] :=
      fun reason => if_neg fun adds => Bool.noConfusion adds.2.2
    rw [refused, added]
    exact agrees.kept

end Agrees

theorem pushAt_fragment (assembler : PacketAssembler) {packet : Packet}
    (several : packet.fragTotal ≠ 1) (now : Nat) :
    (assembler.pushAt packet now).1.group packet.key =
        (PacketAssembler.pushFragment (assembler.group packet.key) packet now).1 ∧
      (assembler.pushAt packet now).2 =
        (PacketAssembler.pushFragment (assembler.group packet.key) packet now).2 := by
  have pushed := pushAt_eq_pushGroup assembler ⟨packet, now⟩
  simp only [pushGroup, Arrival.key, several, ↓reduceIte] at pushed
  exact ⟨congrArg Prod.fst pushed, congrArg Prod.snd pushed⟩

theorem pushAt_single (assembler : PacketAssembler) {packet : Packet}
    (single : packet.fragTotal = 1) (now : Nat) :
    (assembler.pushAt packet now).1 = assembler := by
  simp only [PacketAssembler.pushAt, single, ↓reduceIte]
  split <;> rfl

theorem group_evictIdle (assembler : PacketAssembler) (now timeout : Nat)
    (key : UInt16 × UInt16) :
    (assembler.evictIdle now timeout).group key =
      (assembler.group key).filter fun entry => now - entry.lastUsed < timeout :=
  KeyedMap.lookup_retain _ _ key

/-- Fragments that are numbered as `parsePacket` demands. -/
def AssemblerEvent.Numbered : AssemblerEvent → Prop
  | .push packet _ => packet.fragId < packet.fragTotal
  | .evict _ _ => True

def Recorded.Faithful (state : Recorded) : Prop :=
  ∀ key, Agrees key (state.received key) (state.assembler.group key)

namespace Recorded.Faithful

theorem new : Recorded.new.Faithful := fun key => .none key

theorem push {state : Recorded} (faithful : state.Faithful) {packet : Packet} (now : Nat)
    (below : packet.fragId < packet.fragTotal) :
    (recorder.next state (.push packet now)).Faithful := by
  intro key
  change Agrees key (recordOf ((state.assembler.pushAt packet now).1.group key)
    (state.received key ++
      (AssemblerEvent.push packet now).adds key (state.assembler.pushAt packet now).2))
    ((state.assembler.pushAt packet now).1.group key)
  by_cases single : packet.fragTotal = 1
  · rw [pushAt_single _ single, AssemblerEvent.adds, if_neg fun adds => adds.2.1 single]
    exact (faithful key).kept
  · by_cases own : packet.key = key
    · subst own
      obtain ⟨group, answer⟩ := pushAt_fragment state.assembler single now
      rw [group, answer]
      exact (faithful packet.key).pushed single below now
    · rw [pushAt_other state.assembler ⟨packet, now⟩ key (Ne.symm own), AssemblerEvent.adds,
        if_neg fun adds => own adds.1]
      exact (faithful key).kept

theorem evict {state : Recorded} (faithful : state.Faithful) (now timeout : Nat) :
    (recorder.next state (.evict now timeout)).Faithful := by
  intro key
  change Agrees key (recordOf ((state.assembler.evictIdle now timeout).group key)
    (state.received key ++ [])) ((state.assembler.evictIdle now timeout).group key)
  rw [group_evictIdle]
  exact (faithful key).filtered _

theorem run {events : List AssemblerEvent} (numbered : ∀ event ∈ events, event.Numbered) :
    (recorder.run .new events).Faithful := by
  refine recorder.run_invariant_of_forall (fun state event admitted faithful => ?_) new numbered
  cases event with
  | push packet now => exact faithful.push now admitted
  | evict now timeout => exact faithful.evict now timeout

end Recorded.Faithful

def Packet.FromWire (core : TuicCore) (packet : Packet) : Prop :=
  ∃ data, parsePacket core data = .ok packet

def AssemblerEvent.FromWire (core : TuicCore) : AssemblerEvent → Prop
  | .push packet _ => packet.FromWire core
  | .evict _ _ => True

theorem Packet.FromWire.below {core : TuicCore} {packet : Packet}
    (accepted : packet.FromWire core) : packet.fragId < packet.fragTotal := by
  obtain ⟨data, parsed⟩ := accepted
  unfold parsePacket at parsed
  split at parsed
  · cases parsed
  · split at parsed
    · cases parsed
    · split at parsed
      · cases parsed
      · next below =>
          dsimp only at parsed
          split at parsed
          · cases parsed
          · split at parsed
            · cases parsed
            · cases parsed
              exact UInt8.not_le.mp below
  · cases parsed

/-- The total of the group that a fragment belongs to. -/
def Recorded.total (state : Recorded) (packet : Packet) : UInt8 :=
  (state.received packet.key).head?.elim packet.fragTotal Packet.fragTotal

/-- What a group has received once a fragment has arrived.  A fragment whose
total is not that of the group is refused and does not count. -/
def Recorded.collected (state : Recorded) (packet : Packet) : List Packet :=
  if state.total packet = packet.fragTotal then state.received packet.key ++ [packet]
  else state.received packet.key

namespace Recorded.Faithful

variable {state : Recorded} {packet : Packet} (faithful : state.Faithful) (now : Nat)
include faithful

theorem total : (met (state.assembler.group packet.key) packet now).fragTotal =
    state.total packet :=
  (faithful packet.key).total now

theorem stored_below {key : UInt16 × UInt16} {entry : FragmentedPacket}
    (found : state.assembler.group key = some entry) {fragId : UInt8}
    (stored : (entry.fragments.lookup fragId).isSome) : fragId < entry.fragTotal := by
  obtain ⟨-, tracks, -⟩ := (faithful key).present entry found
  obtain ⟨packet, member, rfl⟩ := (tracks.stored_isSome fragId).mp stored
  exact tracks.below packet member

/-- The collecting loop finds every fragment. -/
theorem collect_isSome (below : packet.fragId < packet.fragTotal)
    (same : state.total packet = packet.fragTotal) {entry : FragmentedPacket}
    (accepted : entry = (met (state.assembler.group packet.key) packet now).accept packet now)
    (full : entry.fragments.size = entry.fragTotal.toNat) :
    (PacketAssembler.collect entry.fragments (List.range entry.fragTotal.toNat) []).2.isSome := by
  have sameTotal := (faithful.total now).trans same
  have tracks := ((faithful packet.key).tracks now).accept sameTotal.symm below now
  rw [← accepted] at tracks
  rw [tracks.collect full]
  rfl

theorem pushAt_completes (several : packet.fragTotal ≠ 1)
    (below : packet.fragId < packet.fragTotal) {target : TargetAddr}
    (complete : Complete (state.total packet) (state.collected packet) target) :
    (state.assembler.pushAt packet now).1.group packet.key = none ∧
      (state.assembler.pushAt packet now).2 = .ok (some
        (assembled packet.key (state.total packet) (state.collected packet) target)) := by
  obtain ⟨group, answer⟩ := pushAt_fragment state.assembler several now
  have owned : (met (state.assembler.group packet.key) packet now).fragTotal =
      state.total packet := faithful.total now
  by_cases same : state.total packet = packet.fragTotal
  · rw [collected, if_pos same, same] at complete ⊢
    rw [group, answer, (faithful packet.key).completed below (owned.trans same) complete]
    exact ⟨rfl, rfl⟩
  · rw [collected, if_neg same, ← owned] at complete
    exact absurd complete (((faithful packet.key).refused now (owned ▸ same)).2 target)

theorem pushAt_waits (several : packet.fragTotal ≠ 1)
    (below : packet.fragId < packet.fragTotal)
    (incomplete : ∀ target, ¬ Complete (state.total packet) (state.collected packet) target) :
    (state.assembler.pushAt packet now).1.group packet.key ≠ none ∧
      ∀ whole, (state.assembler.pushAt packet now).2 ≠ .ok (some whole) := by
  obtain ⟨group, answer⟩ := pushAt_fragment state.assembler several now
  have owned : (met (state.assembler.group packet.key) packet now).fragTotal =
      state.total packet := faithful.total now
  by_cases same : state.total packet = packet.fragTotal
  · rw [collected, if_pos same, same] at incomplete
    rw [group, answer, (faithful packet.key).waits below (owned.trans same) incomplete]
    exact ⟨by rintro ⟨⟩, by rintro whole ⟨⟩⟩
  · rw [group, answer, ((faithful packet.key).refused now (owned ▸ same)).1]
    refine ⟨fun (absent : state.assembler.group packet.key = none) => ?_, by rintro whole ⟨⟩⟩
    rw [absent] at owned
    exact same owned.symm

/-- A refused packet leaves every group as it was. -/
theorem pushAt_refuses {reason : Error}
    (refused : (state.assembler.pushAt packet now).2 = .error reason) (key : UInt16 × UInt16) :
    (state.assembler.pushAt packet now).1.group key = state.assembler.group key := by
  by_cases single : packet.fragTotal = 1
  · rw [pushAt_single _ single]
  by_cases own : key = packet.key
  · subst own
    obtain ⟨group, answer⟩ := pushAt_fragment state.assembler single now
    by_cases same : (met (state.assembler.group packet.key) packet now).fragTotal = packet.fragTotal
    · rw [answer, Agrees.pushFragment_taken same] at refused
      cases refused
    · rw [group, ((faithful packet.key).refused now same).1]
  · exact pushAt_other state.assembler ⟨packet, now⟩ key own

end Recorded.Faithful

/-- What `pushAt` answers after any sequence of packets and evictions.  A group
gives its packet up exactly when every fragment has been received since the
group was opened and the latest fragment 0 named the target; the payload joins
the latest payload of each fragment. -/
theorem pushAt_follows_history (core : TuicCore) (events : List AssemblerEvent)
    (accepted : ∀ event ∈ events, event.FromWire core) :
    (∀ key entry, (recorder.run .new events).assembler.group key = some entry →
      ∀ fragId, (entry.fragments.lookup fragId).isSome → fragId < entry.fragTotal) ∧
    ∀ packet now, packet.FromWire core →
      let state := recorder.run .new events
      let pushed := state.assembler.pushAt packet now
      (∀ key, key ≠ packet.key → pushed.1.group key = state.assembler.group key) ∧
      (∀ reason, pushed.2 = .error reason →
        ∀ key, pushed.1.group key = state.assembler.group key) ∧
      (packet.fragTotal ≠ 1 →
        (∀ entry, state.total packet = packet.fragTotal →
          entry = (met (state.assembler.group packet.key) packet now).accept packet now →
          entry.fragments.size = entry.fragTotal.toNat →
            (PacketAssembler.collect entry.fragments
              (List.range entry.fragTotal.toNat) []).2.isSome) ∧
        (∀ whole, pushed.2 = .ok (some whole) ↔ ∃ target,
          Complete (state.total packet) (state.collected packet) target ∧
            whole = assembled packet.key (state.total packet) (state.collected packet) target) ∧
        (pushed.1.group packet.key = none ↔ ∃ whole, pushed.2 = .ok (some whole))) := by
  have faithful : (recorder.run .new events).Faithful := by
    refine .run fun event member => ?_
    have fromWire := accepted event member
    cases event with
    | push packet now => exact fromWire.below
    | evict now timeout => trivial
  refine ⟨fun key entry found fragId stored => faithful.stored_below found stored, ?_⟩
  intro packet now fromWire
  have below := fromWire.below
  refine ⟨fun key other => pushAt_other _ ⟨packet, now⟩ key other,
    fun reason refused key => faithful.pushAt_refuses now refused key, fun several => ?_⟩
  refine ⟨fun entry same accepted full => faithful.collect_isSome now below same accepted full, ?_⟩
  by_cases complete : ∃ target, Complete ((recorder.run .new events).total packet)
      ((recorder.run .new events).collected packet) target
  · obtain ⟨target, complete⟩ := complete
    obtain ⟨gone, answer⟩ := faithful.pushAt_completes now several below complete
    refine ⟨fun whole => ⟨fun answered => ?_, ?_⟩, fun _ => ⟨_, answer⟩, fun _ => gone⟩
    · rw [answer] at answered
      cases answered
      exact ⟨target, complete, rfl⟩
    · rintro ⟨other, completeOther, rfl⟩
      exact (faithful.pushAt_completes now several below completeOther).2
  · obtain ⟨stays, silent⟩ := faithful.pushAt_waits now several below
      fun target done => complete ⟨target, done⟩
    refine ⟨fun whole => ⟨fun answered => absurd answered (silent whole), ?_⟩,
      fun gone => absurd gone stays, ?_⟩
    · rintro ⟨target, done, -⟩
      exact absurd ⟨target, done⟩ complete
    · rintro ⟨whole, answered⟩
      exact absurd answered (silent whole)

/-- The second of two fragments, and then the first. -/
theorem sample_pushAt_follows_history :
    ((recorder.run .new [.push (fragmentAt (samplePacket 7 [10, 11, 12]) 2 1 [12]) 3]
      ).assembler.pushAt (fragmentAt (samplePacket 7 [10, 11, 12]) 2 0 [10, 11]) 5).2 =
      .ok (some (samplePacket 7 [10, 11, 12])) := by
  have second : (fragmentAt (samplePacket 7 [10, 11, 12]) 2 1 [12]).FromWire tuicV5 :=
    ⟨[5, 2, 0, 1, 0, 7, 2, 1, 0, 1, 255, 12], by decide +kernel⟩
  have first : (fragmentAt (samplePacket 7 [10, 11, 12]) 2 0 [10, 11]).FromWire tuicV5 :=
    ⟨[5, 2, 0, 1, 0, 7, 2, 0, 0, 2, 1, 127, 0, 0, 1, 0, 53, 10, 11], by decide +kernel⟩
  have history := pushAt_follows_history tuicV5
    [.push (fragmentAt (samplePacket 7 [10, 11, 12]) 2 1 [12]) 3]
    (by rintro event ⟨⟩; exacts [second, absurd ‹_› List.not_mem_nil])
  refine (((history.2 _ 5 first).2.2 (by decide)).2.1 _).mpr
    ⟨.ip (.v4 loopback 53), ⟨fun fragId below => ?_, by decide +kernel⟩, by decide +kernel⟩
  replace below := mem_fragIdsBelow.mpr below
  revert fragId
  decide +kernel

end Rtunnel.Tuic
