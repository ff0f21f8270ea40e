import Rtunnel.Anytls.Inbound.ChunkReader
import Rtunnel.Data.Checked
import Rtunnel.Data.Machine

namespace Rtunnel.Anytls.Inbound

open Rtunnel.Data

/-! The reader's loops.

The reader's three fields are plain numbers and lists here, and its loops run as
they are written: a difference below zero and a slice outside of a chunk panic,
and the copying loop breaks off when no chunk is left.  None of this happens.
Seen from outside the reader is a queue of bytes.
-/

structure RawReader where
  chunks : List (List UInt8)
  frontOffset : Nat
  buffered : Nat
deriving DecidableEq

/-- The reader and the chunks that its channel will still deliver before it is
closed. -/
structure Reading where
  rx : List (List UInt8)
  reader : RawReader

def Reading.new (rx : List (List UInt8)) : Reading := ⟨rx, ⟨[], 0, 0⟩⟩

namespace RawReader

/-- One received chunk. -/
def receive (reader : RawReader) (chunk : List UInt8) : RawReader where
  chunks := if chunk = [] then reader.chunks else reader.chunks ++ [chunk]
  frontOffset := reader.frontOffset
  buffered := reader.buffered + chunk.length

/-- Receive until enough is buffered or the channel is closed. -/
def fill (len : Nat) : RawReader → List (List UInt8) → RawReader × List (List UInt8)
  | reader, [] => (reader, [])
  | reader, chunk :: rx =>
      if reader.buffered < len then fill len (reader.receive chunk) rx else (reader, chunk :: rx)

end RawReader

/-- The variables of the copying loop. -/
structure Copying where
  reader : RawReader
  remaining : Nat
  output : List UInt8

/-- One round of the copying loop, with `front` in front of the other chunks. -/
def copyFront (state : Copying) (front : List UInt8) (rest : List (List UInt8)) :
    Checked Failure Copying := do
  let available ← Checked.sub front.length state.reader.frontOffset
  let take := min state.remaining available
  let piece ← Checked.slice front state.reader.frontOffset (state.reader.frontOffset + take)
  let frontOffset := state.reader.frontOffset + take
  let buffered ← Checked.sub state.reader.buffered take
  let remaining ← Checked.sub state.remaining take
  if frontOffset = front.length then return ⟨⟨rest, 0, buffered⟩, remaining, state.output ++ piece⟩
  return ⟨⟨front :: rest, frontOffset, buffered⟩, remaining, state.output ++ piece⟩

/-- The copying loop, watched for so many rounds. -/
def copyLoop : Nat → Copying → Option (Checked Failure Copying)
  | 0, _ => none
  | rounds + 1, state =>
      if state.remaining = 0 then some (.returns state)
      else
        match state.reader.chunks with
        | [] => some (.returns state)
        | front :: rest =>
            match copyFront state front rest with
            | .returns next => copyLoop rounds next
            | .fails reason => some (.fails reason)
            | .panics => some .panics

/-- A read that panics or does not end leaves the reader as it stood before the
copying. -/
def Reading.readExact (state : Reading) (len : Nat) :
    Reading × Option (Checked Failure (List UInt8)) :=
  let filled := state.reader.fill len state.rx
  if filled.1.buffered < len then
    (⟨filled.2, filled.1⟩, some (.fails "uot stream closed"))
  else
    match copyLoop (len + 1) ⟨filled.1, len, []⟩ with
    | some (.returns copied) => (⟨filled.2, copied.reader⟩, some (.returns copied.output))
    | some (.fails reason) => (⟨filled.2, filled.1⟩, some (.fails reason))
    | some .panics => (⟨filled.2, filled.1⟩, some .panics)
    | none => (⟨filled.2, filled.1⟩, none)

def readerMachine : Machine Reading Nat (Option (Checked Failure (List UInt8))) :=
  ⟨Reading.readExact⟩

/-- A parser on top of the reader; it indexes into what it asked for. -/
def Reading.follow {Value : Type} : Demand Failure Value → Reading →
    Reading × Option (Checked Failure Value)
  | .done value, state => (state, some (.returns value))
  | .fail reason, state => (state, some (.fails reason))
  | .need width _ next, state =>
      let read := state.readExact width
      match read.2 with
      | some (.returns bytes) =>
          if whole : bytes.length = width then follow (next ⟨bytes, whole⟩) read.1
          else (read.1, some .panics)
      | some (.fails reason) => (read.1, some (.fails reason))
      | some .panics => (read.1, some .panics)
      | none => (read.1, none)

/-- Bytes leave in the order they came; a read of more than there are fails and
takes nothing. -/
def takeFromQueue (queue : List UInt8) (len : Nat) : List UInt8 × Except Failure (List UInt8) :=
  if len ≤ queue.length then (queue.drop len, .ok (queue.take len))
  else (queue, .error "uot stream closed")

def queueMachine : Machine (List UInt8) Nat (Except Failure (List UInt8)) := ⟨takeFromQueue⟩

def ChunkReader.raw (reader : ChunkReader) : RawReader :=
  ⟨reader.chunks, reader.frontOffset, reader.buffered⟩

section Receiving

variable {Value : Type} {len : Nat} {closed : Failure}
  {next : Octets len → Demand Failure Value}

theorem receive_of_enough {reader : ChunkReader} (enough : len ≤ reader.buffered)
    (rx : List (List UInt8)) :
    ChunkReader.receive (.need len closed next) reader rx =
      ChunkReader.receive (next (reader.take len enough).1) (reader.take len enough).2 rx := by
  have on : ChunkReader.readOn (.need len closed next) reader =
      ChunkReader.readOn (next (reader.take len enough).1) (reader.take len enough).2 := by
    rw [ChunkReader.readOn, dif_pos enough]
  cases rx with
  | nil => rw [ChunkReader.receive, ChunkReader.receive, on]
  | cons chunk rx => rw [ChunkReader.receive, ChunkReader.receive, on]

theorem receive_of_short {reader : ChunkReader} (short : reader.buffered < len) :
    ChunkReader.receive (.need len closed next) reader [] =
        (.error "uot stream closed", reader, []) ∧
      ∀ chunk rx, ChunkReader.receive (.need len closed next) reader (chunk :: rx) =
        ChunkReader.receive (.need len closed next) (reader.push chunk) rx := by
  have waits : ChunkReader.readOn (.need len closed next) reader =
      (.need len closed next, reader) := by
    rw [ChunkReader.readOn, dif_neg (Nat.not_le_of_lt short)]
  refine ⟨?_, fun chunk rx => ?_⟩
  · rw [ChunkReader.receive, waits]
  · rw [ChunkReader.receive, waits]

end Receiving

/-- Receiving loses no byte, and stops short only when the channel is closed. -/
structure Fills (len : Nat) (reader : ChunkReader) (rx : List (List UInt8))
    (filled : ChunkReader) (left : List (List UInt8)) : Prop where
  received : reader.raw.fill len rx = (filled.raw, left)
  kept : filled.content ++ left.flatten = reader.content ++ rx.flatten
  ended : filled.buffered < len → left = []
  waits : ∀ {Value : Type} (closed : Failure) (next : Octets len → Demand Failure Value),
    ChunkReader.receive (.need len closed next) reader rx =
      ChunkReader.receive (.need len closed next) filled left

theorem fills (len : Nat) (reader : ChunkReader) (rx : List (List UInt8)) :
    ∃ filled left, Fills len reader rx filled left := by
  induction rx generalizing reader with
  | nil => exact ⟨reader, [], rfl, rfl, fun _ => rfl, fun _ _ => rfl⟩
  | cons chunk rx ih =>
      by_cases short : reader.buffered < len
      · obtain ⟨filled, left, later⟩ := ih (reader.push chunk)
        refine ⟨filled, left, (if_pos short).trans later.received, ?_, later.ended,
          fun _ _ => ?_⟩
        · rw [later.kept, ChunkReader.content_push, List.append_assoc, List.flatten_cons]
        · rw [(receive_of_short short).2, later.waits]
      · exact ⟨reader, chunk :: rx, if_neg short, rfl, fun less => absurd less short,
          fun _ _ => rfl⟩

/-- A round of the loop whose chunk is inside of its bounds. -/
theorem copyFront_eq {front : List UInt8} {rest : List (List UInt8)}
    {offset buffered remaining : Nat} (output : List UInt8) (inside : offset < front.length)
    (enough : remaining ≤ buffered) :
    copyFront ⟨⟨front :: rest, offset, buffered⟩, remaining, output⟩ front rest =
      let take := min remaining (front.length - offset)
      .returns ⟨if offset + take = front.length then ⟨rest, 0, buffered - take⟩
        else ⟨front :: rest, offset + take, buffered - take⟩,
        remaining - take, output ++ (front.drop offset).take take⟩ := by
  unfold copyFront
  dsimp only
  rw [Checked.sub_of_le (Nat.le_of_lt inside), Checked.returns_bind,
    Checked.slice_of_le (by omega) (by omega), Checked.returns_bind,
    Checked.sub_of_le (by omega), Checked.returns_bind,
    Checked.sub_of_le (by omega), Checked.returns_bind, Nat.add_sub_cancel_left]
  split <;> rfl

/-- The loop takes at least one byte in every round, and ends with all it was
asked for. -/
theorem copyLoop_eq {chunks : List (List UInt8)} {offset buffered remaining rounds : Nat}
    (output : List UInt8) (held : ChunkReader.Held chunks offset)
    (counted : offset + buffered = chunks.flatten.length) (enough : remaining ≤ buffered)
    (watched : remaining < rounds) :
    copyLoop rounds ⟨⟨chunks, offset, buffered⟩, remaining, output⟩ =
      some (.returns ⟨⟨(ChunkReader.drain remaining chunks offset).2.1,
        (ChunkReader.drain remaining chunks offset).2.2, buffered - remaining⟩, 0,
        output ++ (ChunkReader.drain remaining chunks offset).1⟩) := by
  induction chunks generalizing offset buffered remaining rounds output with
  | nil =>
      have nothing : remaining = 0 := by
        rw [List.flatten_nil, List.length_nil] at counted
        omega
      subst nothing
      obtain ⟨rounds, rfl⟩ := Nat.exists_eq_add_of_lt watched
      simp [copyLoop, ChunkReader.drain]
  | cons front rest ih =>
      have inside := held.within front rest rfl
      rw [List.flatten_cons, List.length_append] at counted
      cases rounds with
      | zero => omega
      | succ rounds =>
          rw [copyLoop, ChunkReader.drain]
          by_cases nothing : remaining = 0
          · subst nothing
            simp
          · rw [if_neg nothing, if_neg nothing]
            dsimp only
            rw [copyFront_eq output inside enough]
            dsimp only
            by_cases whole : offset + min remaining (front.length - offset) = front.length
            · have left : 0 + (buffered - min remaining (front.length - offset)) =
                  rest.flatten.length := by omega
              have same : buffered - min remaining (front.length - offset) -
                  (remaining - min remaining (front.length - offset)) = buffered - remaining := by
                omega
              rw [if_pos whole, if_pos whole, ih _ held.tail left (by omega) (by omega), same,
                List.append_assoc]
            · have part : min remaining (front.length - offset) = remaining := by omega
              obtain ⟨rounds, rfl⟩ := Nat.exists_eq_add_one_of_ne_zero (n := rounds) (by omega)
              rw [if_neg whole, if_neg whole, part, Nat.sub_self, copyLoop, if_pos rfl]

theorem copyLoop_take (reader : ChunkReader) {len : Nat} (enough : len ≤ reader.buffered) :
    copyLoop (len + 1) ⟨reader.raw, len, []⟩ = some (.returns
      ⟨(reader.take len enough).2.raw, 0, (reader.take len enough).1.bytes⟩) :=
  copyLoop_eq [] reader.held reader.counted enough (Nat.lt_succ_self len)

section Reads

variable {len : Nat} {reader filled : ChunkReader} {rx left : List (List UInt8)}

theorem readExact_of_short (fills : Fills len reader rx filled left)
    (short : filled.buffered < len) : Reading.readExact ⟨rx, reader.raw⟩ len =
      (⟨[], filled.raw⟩, some (.fails "uot stream closed")) := by
  unfold Reading.readExact
  dsimp only
  rw [fills.received, fills.ended short]
  exact if_pos short

theorem readExact_of_enough (fills : Fills len reader rx filled left)
    (enough : len ≤ filled.buffered) : Reading.readExact ⟨rx, reader.raw⟩ len =
      (⟨left, (filled.take len enough).2.raw⟩,
        some (.returns (filled.take len enough).1.bytes)) := by
  unfold Reading.readExact
  dsimp only
  rw [fills.received]
  dsimp only
  rw [copyLoop_take filled enough]
  exact if_neg (Nat.not_lt_of_le enough)

end Reads

/-- What a read leaves behind: a reader with its invariant, which holds what the
queue holds. -/
theorem readExact_refines (reader : ChunkReader) (rx : List (List UInt8)) (len : Nat) :
    ∃ after : ChunkReader, (Reading.readExact ⟨rx, reader.raw⟩ len).1.reader = after.raw ∧
      after.content ++ (Reading.readExact ⟨rx, reader.raw⟩ len).1.rx.flatten =
        (takeFromQueue (reader.content ++ rx.flatten) len).1 ∧
      (Reading.readExact ⟨rx, reader.raw⟩ len).2 =
        some (.ofExcept (takeFromQueue (reader.content ++ rx.flatten) len).2) := by
  obtain ⟨filled, left, fills⟩ := fills len reader rx
  have size := filled.content_length
  rw [← fills.kept]
  unfold takeFromQueue
  by_cases short : filled.buffered < len
  · rw [readExact_of_short fills short, fills.ended short, List.flatten_nil, List.append_nil,
      if_neg (by omega)]
    exact ⟨filled, rfl, List.append_nil _, rfl⟩
  · have enough := Nat.le_of_not_lt short
    have taken : filled.content = (filled.take len enough).1.bytes ++
        (filled.take len enough).2.content :=
      readExact_eq_some (filled.content_take enough)
    have width := (filled.take len enough).1.length_eq
    rw [readExact_of_enough fills enough, if_pos (by rw [List.length_append]; omega)]
    refine ⟨(filled.take len enough).2, rfl, ?_, ?_⟩
    · dsimp only
      rw [taken, List.append_assoc, List.drop_left' width]
    · dsimp only
      rw [taken, List.append_assoc, List.take_left' width]
      rfl

/-- A parser on top of the loops does what it does on the reader with its
invariant; in particular it finds all bytes that it asked for. -/
theorem follow_eq_receive {Value : Type} (program : Demand Failure Value) (reader : ChunkReader)
    (rx : List (List UInt8)) :
    Reading.follow program ⟨rx, reader.raw⟩ =
      (⟨(ChunkReader.receive program reader rx).2.2,
        (ChunkReader.receive program reader rx).2.1.raw⟩,
        some (.ofExcept (ChunkReader.receive program reader rx).1)) := by
  induction program generalizing reader rx with
  | done value => cases rx <;> rfl
  | fail reason => cases rx <;> rfl
  | need width ended next ih =>
      obtain ⟨filled, left, fills⟩ := fills width reader rx
      rw [Reading.follow, fills.waits]
      by_cases short : filled.buffered < width
      · rw [readExact_of_short fills short, fills.ended short, (receive_of_short short).1]
        rfl
      · have enough := Nat.le_of_not_lt short
        rw [readExact_of_enough fills enough, receive_of_enough enough]
        dsimp only
        rw [dif_pos (filled.take width enough).1.length_eq]
        exact ih _ _ _

/-- How the three fields of a reader fit together. -/
structure FieldsFit (reader : RawReader) : Prop where
  bounded : reader.frontOffset ≤ reader.chunks.flatten.length
  counted : reader.buffered = reader.chunks.flatten.length - reader.frontOffset
  inside : ∀ front rest, reader.chunks = front :: rest → reader.frontOffset < front.length
  empty : reader.chunks = [] → reader.frontOffset = 0

theorem fieldsFit_raw (reader : ChunkReader) : FieldsFit reader.raw := by
  have counted := reader.counted
  refine ⟨?_, ?_, reader.within, fun empty => ?_⟩
  · change reader.frontOffset ≤ reader.chunks.flatten.length
    omega
  · change reader.buffered = reader.chunks.flatten.length - reader.frontOffset
    omega
  · change reader.chunks = [] at empty
    rw [empty, List.flatten_nil, List.length_nil] at counted
    exact (Nat.add_eq_zero_iff.mp counted).1

/-- The bytes that were delivered or will be, and are not read yet. -/
def Reading.unread (state : Reading) : List UInt8 :=
  state.reader.chunks.flatten.drop state.reader.frontOffset ++ state.rx.flatten

/-- The reader is one that keeps the invariant. -/
def RawReader.Kept (reader : RawReader) : Prop := ∃ original : ChunkReader, reader = original.raw

theorem RawReader.Kept.readExact {state : Reading} (kept : state.reader.Kept) (len : Nat) :
    (readerMachine.next state len).reader.Kept ∧
      (readerMachine.next state len).unread = queueMachine.next state.unread len ∧
      readerMachine.output state len =
        some (.ofExcept (queueMachine.output state.unread len)) := by
  obtain ⟨rx, raw⟩ := state
  obtain ⟨reader, same⟩ := kept
  dsimp only at same
  subst same
  obtain ⟨after, reached, left, result⟩ := readExact_refines reader rx len
  refine ⟨⟨after, reached⟩, ?_, result⟩
  refine Eq.trans ?_ left
  change (Reading.readExact ⟨rx, reader.raw⟩ len).1.unread = _
  rw [Reading.unread, reached]
  rfl

theorem RawReader.Kept.receive {reader : RawReader} (kept : reader.Kept)
    (arrived : List (List UInt8)) : (arrived.foldl RawReader.receive reader).Kept := by
  induction arrived generalizing reader with
  | nil => exact kept
  | cons chunk arrived ih =>
      obtain ⟨original, rfl⟩ := kept
      exact ih ⟨original.push chunk, rfl⟩

/-- Whatever chunks the channel delivers and whatever is read, the reader is a
queue of the delivered bytes.  Its fields fit together after every read and
while it waits for chunks, and no parser indexes outside of what it read. -/
theorem reads_refine_byte_queue (chunks : List (List UInt8)) (lengths : List Nat) :
    readerMachine.outputs (.new chunks) lengths =
        (queueMachine.outputs chunks.flatten lengths).map (fun result => some (.ofExcept result)) ∧
      (readerMachine.run (.new chunks) lengths).unread =
        queueMachine.run chunks.flatten lengths ∧
      (∀ arrived : List (List UInt8), FieldsFit
        (arrived.foldl RawReader.receive (readerMachine.run (.new chunks) lengths).reader)) ∧
      ∀ {Value : Type} (program : Demand Failure Value),
        ∃ result : Except Failure Value,
          ((readerMachine.run (.new chunks) lengths).follow program).2 =
            some (.ofExcept result) := by
  have fresh : (Reading.new chunks).reader.Kept := ⟨ChunkReader.new, rfl⟩
  have step : ∀ (state : Reading) (len : Nat), state.reader.Kept →
      (readerMachine.next state len).reader.Kept ∧ _ := fun _ len kept => kept.readExact len
  obtain ⟨kept, unread, outputs⟩ := readerMachine.run_refines queueMachine Reading.unread
    (fun result => some (.ofExcept result)) step fresh lengths
  refine ⟨outputs, unread, fun arrived => ?_, fun program => ?_⟩
  · obtain ⟨later, same⟩ := kept.receive arrived
    rw [same]
    exact fieldsFit_raw later
  · revert kept
    generalize readerMachine.run (.new chunks) lengths = state
    intro kept
    obtain ⟨rx, raw⟩ := state
    obtain ⟨reader, same⟩ := kept
    dsimp only at same
    subst same
    exact ⟨_, congrArg Prod.snd (follow_eq_receive program reader rx)⟩

end Rtunnel.Anytls.Inbound
