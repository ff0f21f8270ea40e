import Rtunnel.Anytls.Uot

namespace Rtunnel.Anytls.Inbound

open Rtunnel.Data

/-! Reading from frames.

Frames end anywhere.  The reader keeps those that have arrived, copies bytes out
of them front first, and drops a frame when it is read to its end.  What a read
makes of the frames is what it makes of their bytes.
-/

/-- Frames that have arrived and are not read to their end.  No empty frame is
kept, and the first one is dropped as soon as it is read. -/
structure ChunkReader where
  chunks : List (List UInt8)
  frontOffset : Nat
  buffered : Nat
  filled : ∀ chunk ∈ chunks, chunk ≠ []
  within : ∀ front rest, chunks = front :: rest → frontOffset < front.length
  counted : frontOffset + buffered = chunks.flatten.length

namespace ChunkReader

def new : ChunkReader where
  chunks := []
  frontOffset := 0
  buffered := 0
  filled := by simp
  within := by simp
  counted := rfl

/-- The bytes that are still to be read. -/
def content (reader : ChunkReader) : List UInt8 := reader.chunks.flatten.drop reader.frontOffset

theorem content_length (reader : ChunkReader) : reader.content.length = reader.buffered := by
  have counted := reader.counted
  rw [content, List.length_drop]
  omega

/-- Keep a frame that has arrived. -/
def push (reader : ChunkReader) (chunk : List UInt8) : ChunkReader where
  chunks := if chunk = [] then reader.chunks else reader.chunks ++ [chunk]
  frontOffset := reader.frontOffset
  buffered := reader.buffered + chunk.length
  filled := by
    split
    · exact reader.filled
    · rename_i filled
      simp only [List.mem_append, List.mem_singleton]
      rintro other (member | rfl)
      · exact reader.filled other member
      · exact filled
  within := by
    have counted := reader.counted
    split
    · exact reader.within
    · rename_i filled
      cases kept : reader.chunks with
      | nil =>
          rintro front rest same
          rw [kept, List.flatten_nil, List.length_nil] at counted
          cases same
          have positive := List.length_pos_iff.mpr filled
          omega
      | cons first others =>
          rintro front rest same
          cases same
          exact reader.within _ _ kept
  counted := by
    have counted := reader.counted
    split
    · rename_i empty
      rw [empty, List.length_nil]
      exact counted
    · rw [List.flatten_append, List.length_append, ← counted]
      simp only [List.flatten_cons, List.flatten_nil, List.append_nil]
      omega

theorem content_push (reader : ChunkReader) (chunk : List UInt8) :
    (reader.push chunk).content = reader.content ++ chunk := by
  have counted := reader.counted
  unfold push content
  dsimp only
  split
  · rename_i empty
    rw [empty, List.append_nil]
  · rw [List.flatten_append, List.drop_append_of_le_length (by omega)]
    simp

/-- Copy bytes out of the frames, front first; a frame that is left behind with
bytes in it has given all that was asked for. -/
def drain : Nat → List (List UInt8) → Nat → List UInt8 × List (List UInt8) × Nat
  | _, [], offset => ([], [], offset)
  | remaining, front :: rest, offset =>
      if remaining = 0 then ([], front :: rest, offset)
      else
        let take := min remaining (front.length - offset)
        let taken := (front.drop offset).take take
        if offset + take = front.length then
          let later := drain (remaining - take) rest 0
          (taken ++ later.1, later.2)
        else (taken, front :: rest, offset + take)

structure Held (chunks : List (List UInt8)) (offset : Nat) : Prop where
  filled : ∀ chunk ∈ chunks, chunk ≠ []
  within : ∀ front rest, chunks = front :: rest → offset < front.length
  bounded : offset ≤ chunks.flatten.length

theorem Held.tail {front : List UInt8} {rest : List (List UInt8)} {offset : Nat}
    (held : Held (front :: rest) offset) : Held rest 0 where
  filled chunk member := held.filled chunk (List.mem_cons_of_mem front member)
  within first others same := by
    subst same
    exact List.length_pos_iff.mpr (held.filled first (by simp))
  bounded := Nat.zero_le _

theorem Held.advance {front : List UInt8} {rest : List (List UInt8)} {offset moved : Nat}
    (held : Held (front :: rest) offset) (short : moved < front.length) :
    Held (front :: rest) moved where
  filled := held.filled
  within first others same := by
    cases same
    exact short
  bounded := by
    rw [List.flatten_cons, List.length_append]
    omega

/-- Draining takes bytes off the front of what is held. -/
theorem drain_spec {chunks : List (List UInt8)} (remaining : Nat) {offset : Nat}
    (held : Held chunks offset) :
    (drain remaining chunks offset).1 = (chunks.flatten.drop offset).take remaining ∧
    (drain remaining chunks offset).2.1.flatten.drop (drain remaining chunks offset).2.2 =
      (chunks.flatten.drop offset).drop remaining ∧
    Held (drain remaining chunks offset).2.1 (drain remaining chunks offset).2.2 := by
  induction chunks generalizing remaining offset with
  | nil => exact ⟨by simp [drain], by simp [drain], held⟩
  | cons front rest ih =>
      have inside := held.within front rest rfl
      have split : (front :: rest).flatten.drop offset = front.drop offset ++ rest.flatten := by
        rw [List.flatten_cons, List.drop_append_of_le_length (Nat.le_of_lt inside)]
      have width : (front.drop offset).length = front.length - offset := List.length_drop
      rw [split, drain]
      by_cases nothing : remaining = 0
      · rw [if_pos nothing, nothing]
        exact ⟨rfl, split, held⟩
      · rw [if_neg nothing]
        dsimp only
        by_cases whole : offset + min remaining (front.length - offset) = front.length
        · have all : min remaining (front.length - offset) = (front.drop offset).length := by omega
          have reached : (front.drop offset).length ≤ remaining := by omega
          obtain ⟨taken, left, kept⟩ := ih (remaining - (front.drop offset).length) held.tail
          rw [if_pos whole, all, List.take_length]
          refine ⟨?_, ?_, kept⟩
          · rw [taken, List.take_append, List.take_of_length_le reached, List.drop_zero]
          · rw [left, List.drop_append, List.drop_eq_nil_of_le reached, List.drop_zero,
              List.nil_append]
        · have part : min remaining (front.length - offset) = remaining := by omega
          have short : offset + remaining < front.length := by omega
          rw [if_neg whole, part]
          refine ⟨?_, ?_, held.advance short⟩
          · rw [List.take_append_of_le_length (by omega)]
          · rw [List.flatten_cons, List.drop_append_of_le_length (Nat.le_of_lt short),
              List.drop_append_of_le_length (by omega), List.drop_drop]

theorem held (reader : ChunkReader) : Held reader.chunks reader.frontOffset :=
  ⟨reader.filled, reader.within, by have := reader.counted; omega⟩

/-- Take bytes that have arrived. -/
def take (reader : ChunkReader) (width : Nat) (enough : width ≤ reader.buffered) :
    Octets width × ChunkReader :=
  let drained := drain width reader.chunks reader.frontOffset
  have spec := drain_spec width reader.held
  have length : drained.1.length = width := by
    rw [spec.1, List.length_take]
    exact Nat.min_eq_left (enough.trans_eq reader.content_length.symm)
  (⟨drained.1, length⟩,
    { chunks := drained.2.1
      frontOffset := drained.2.2
      buffered := reader.buffered - width
      filled := spec.2.2.filled
      within := spec.2.2.within
      counted := by
        have left : (drained.2.1.flatten.drop drained.2.2).length =
            (reader.content.drop width).length := congrArg List.length spec.2.1
        have bounded : drained.2.2 ≤ drained.2.1.flatten.length := spec.2.2.bounded
        rw [List.length_drop, List.length_drop, reader.content_length] at left
        omega })

theorem content_take (reader : ChunkReader) {width : Nat} (enough : width ≤ reader.buffered) :
    readExact width reader.content =
      some ((reader.take width enough).1, (reader.take width enough).2.content) := by
  have spec := drain_spec width reader.held
  have whole : reader.content =
      (reader.take width enough).1.bytes ++ (reader.take width enough).2.content := by
    change reader.content = (drain width reader.chunks reader.frontOffset).1 ++ _
    rw [spec.1]
    exact (List.take_append_drop width reader.content).symm.trans (congrArg _ spec.2.1.symm)
  rw [whole, readExact_append]

/-- Read on until the frames that have arrived do not hold enough. -/
def readOn {Value : Type} :
    Demand Failure Value → ChunkReader → Demand Failure Value × ChunkReader
  | .done value, reader => (.done value, reader)
  | .fail reason, reader => (.fail reason, reader)
  | .need width ended next, reader =>
      if enough : width ≤ reader.buffered then
        readOn (next (reader.take width enough).1) (reader.take width enough).2
      else (.need width ended next, reader)

/-- Reading from frames is reading from their bytes. -/
theorem readOn_refines {Value : Type} (pending : Demand Failure Value) (reader : ChunkReader) :
    pending.advance reader.content =
      ((readOn pending reader).1, (readOn pending reader).2.content) := by
  induction pending generalizing reader with
  | done value => rfl
  | fail reason => rfl
  | need width ended next ih =>
      by_cases enough : width ≤ reader.buffered
      · simp only [Demand.advance, content_take reader enough, readOn, dif_pos enough]
        exact ih _ _
      · have short : readExact width reader.content = none := by
          rw [readExact_eq_none_iff, reader.content_length]
          omega
        simp only [Demand.advance, short, readOn, dif_neg enough]

theorem readOn_resume {Value : Type} (pending : Demand Failure Value) (reader : ChunkReader)
    (more : List UInt8) :
    (readOn pending reader).1.advance ((readOn pending reader).2.content ++ more) =
      pending.advance (reader.content ++ more) := by
  have refines := readOn_refines pending reader
  rw [← Demand.advance_resume pending reader.content more, refines]

/-- What a read copies is as long as it was asked for. -/
theorem drain_length (reader : ChunkReader) {width : Nat} (enough : width ≤ reader.buffered) :
    (drain width reader.chunks reader.frontOffset).1.length = width :=
  (reader.take width enough).1.length_eq

/-- Read a value while frames arrive, until the channel is closed. -/
def receive {Value : Type} (pending : Demand Failure Value) (reader : ChunkReader) :
    List (List UInt8) → Except Failure Value × ChunkReader × List (List UInt8)
  | [] =>
      match readOn pending reader with
      | (.done value, reader) => (.ok value, reader, [])
      | (.fail reason, reader) => (.error reason, reader, [])
      | (.need _ _ _, reader) => (.error "uot stream closed", reader, [])
  | chunk :: chunks =>
      match readOn pending reader with
      | (.done value, reader) => (.ok value, reader, chunk :: chunks)
      | (.fail reason, reader) => (.error reason, reader, chunk :: chunks)
      | (.need width ended next, reader) =>
          receive (.need width ended next) (reader.push chunk) chunks

/-- The cuts between the frames do not matter for what is read and what is left. -/
theorem receive_eq_ok_iff {Value : Type} (pending : Demand Failure Value) (reader : ChunkReader)
    (chunks : List (List UInt8)) (value : Value) (rest : List UInt8) :
    (receive pending reader chunks).1 = .ok value ∧
        (receive pending reader chunks).2.1.content ++
          (receive pending reader chunks).2.2.flatten = rest ↔
      pending.advance (reader.content ++ chunks.flatten) = (.done value, rest) := by
  induction chunks generalizing pending reader with
  | nil =>
      have refines := readOn_refines pending reader
      rw [List.flatten_nil, List.append_nil, refines, receive]
      generalize readOn pending reader = result
      obtain ⟨found | reason | width, after⟩ := result <;> simp
  | cons chunk chunks ih =>
      have resumed := readOn_resume pending reader (chunk :: chunks).flatten
      rw [← resumed, receive]
      generalize readOn pending reader = result
      obtain ⟨found | reason | ⟨width, next⟩, after⟩ := result
      · simp [Demand.advance]
      · simp [Demand.advance]
      · dsimp only
        rw [ih, content_push, List.append_assoc, List.flatten_cons]

end ChunkReader

end Rtunnel.Anytls.Inbound
