import Rtunnel.Data.Machine
import Rtunnel.Tuic.Codec

namespace Rtunnel.Tuic

open Rtunnel.Data

/-! The assembler as independent groups.

`pushAt` looks at and changes only the group of the arriving fragment.  The
assembler is therefore one small machine per `(assocId, pktId)`, and every
statement about fragments in arbitrary order reduces to a single group.
-/

/-- One fragment and the time of its arrival. -/
structure Arrival where
  packet : Packet
  now : Nat

def Packet.key (packet : Packet) : UInt16 × UInt16 := (packet.assocId, packet.pktId)

def Arrival.key (arrival : Arrival) : UInt16 × UInt16 := arrival.packet.key

/-- What one arrival does to its own group. -/
def pushGroup (group : Option FragmentedPacket) (arrival : Arrival) :
    Option FragmentedPacket × Except Error (Option Packet) :=
  if arrival.packet.fragTotal = 1 then
    if arrival.packet.target.isSome then (group, .ok (some arrival.packet))
    else (group, .error (.message "single-fragment packet missing target"))
  else
    PacketAssembler.pushFragment group arrival.packet arrival.now

def groupMachine : Machine (Option FragmentedPacket) Arrival (Except Error (Option Packet)) :=
  ⟨pushGroup⟩

def assemblerMachine : Machine PacketAssembler Arrival (Except Error (Option Packet)) :=
  ⟨fun assembler arrival => assembler.pushAt arrival.packet arrival.now⟩

def PacketAssembler.group (assembler : PacketAssembler) (key : UInt16 × UInt16) :
    Option FragmentedPacket :=
  assembler.fragments.lookup key

@[simp] theorem group_put_self (assembler : PacketAssembler) (key : UInt16 × UInt16)
    (group : Option FragmentedPacket) : (assembler.put key group).group key = group := by
  cases group with
  | none => exact AList.lookup_erase key assembler.fragments
  | some entry => exact AList.lookup_insert assembler.fragments

theorem group_put_other (assembler : PacketAssembler) {key other : UInt16 × UInt16}
    (different : other ≠ key) (group : Option FragmentedPacket) :
    (assembler.put key group).group other = assembler.group other := by
  cases group with
  | none => exact AList.lookup_erase_ne different
  | some entry => exact AList.lookup_insert_ne different

theorem pushAt_eq_pushGroup (assembler : PacketAssembler) (arrival : Arrival) :
    ((assembler.pushAt arrival.packet arrival.now).1.group arrival.key,
      (assembler.pushAt arrival.packet arrival.now).2) =
      pushGroup (assembler.group arrival.key) arrival := by
  by_cases single : arrival.packet.fragTotal = 1
  · by_cases named : arrival.packet.target.isSome
    · simp only [PacketAssembler.pushAt, pushGroup, single, named, ↓reduceIte]
    · simp only [PacketAssembler.pushAt, pushGroup, single, named, ↓reduceIte,
        Bool.false_eq_true]
  · simp only [PacketAssembler.pushAt, pushGroup, single, ↓reduceIte, Arrival.key, Packet.key,
      group_put_self]
    rfl

theorem pushAt_other (assembler : PacketAssembler) (arrival : Arrival) (key : UInt16 × UInt16)
    (different : key ≠ arrival.key) :
    (assembler.pushAt arrival.packet arrival.now).1.group key = assembler.group key := by
  by_cases single : arrival.packet.fragTotal = 1
  · by_cases named : arrival.packet.target.isSome
    · simp only [PacketAssembler.pushAt, single, named, ↓reduceIte]
    · simp only [PacketAssembler.pushAt, single, named, ↓reduceIte, Bool.false_eq_true]
  · simp only [PacketAssembler.pushAt, single, ↓reduceIte]
    exact group_put_other assembler different _

theorem assembler_splits :
    assemblerMachine.Splits PacketAssembler.group Arrival.key groupMachine where
  own assembler arrival := congrArg Prod.fst (pushAt_eq_pushGroup assembler arrival)
  other := pushAt_other
  emits assembler arrival := congrArg Prod.snd (pushAt_eq_pushGroup assembler arrival)

end Rtunnel.Tuic
