import Mathlib.Data.List.Basic

namespace Rtunnel.Data

/-! Queues of writes that are carried out piece by piece.

A write stands for the marks it leaves once it is done: bytes on a stream, the end
of a stream.  Which marks these are may depend on names that are handed out when
the write is first tried.  A try moves the first marks of the queue to a record
and puts what is left of the write back in front, so that the record followed by
the marks of the queue never changes, except by a new write at the end of both.
-/

universe u v w

structure Meaning (Names : Type u) (Write : Type v) (Mark : Type w) where
  marks : Names → Write → List Mark
  next : Names → Write → Names

namespace Meaning

variable {Names : Type u} {Write : Type v} {Mark : Type w} (meaning : Meaning Names Write Mark)

/-- The marks of a queue, in the order in which they will be left. -/
def flow : Names → List Write → List Mark
  | _, [] => []
  | names, write :: rest => meaning.marks names write ++ flow (meaning.next names write) rest

/-- The names left when every write of a queue has been tried. -/
def after (names : Names) (writes : List Write) : Names := writes.foldl meaning.next names

theorem after_append (names : Names) (first second : List Write) :
    meaning.after names (first ++ second) = meaning.after (meaning.after names first) second :=
  List.foldl_append

theorem flow_append (names : Names) (first second : List Write) :
    meaning.flow names (first ++ second) =
      meaning.flow names first ++ meaning.flow (meaning.after names first) second := by
  induction first generalizing names with
  | nil => rfl
  | cons write first ih =>
      simp only [List.cons_append, flow, ih, List.append_assoc]
      rfl

/-- A try of a write: the marks it leaves, and what is left to do. -/
structure Carries (names : Names) (write : Write) (done : List Mark) (left : List Write)
    (names' : Names) : Prop where
  flow : done ++ meaning.flow names' left = meaning.marks names write
  after : meaning.after names' left = meaning.next names write

/-- Nothing enqueued has been lost or overtaken. -/
structure Balanced (start : Names) (enqueued : List Write) (record : List Mark) (names : Names)
    (queue : List Write) : Prop where
  flow : record ++ meaning.flow names queue = meaning.flow start enqueued
  after : meaning.after names queue = meaning.after start enqueued

variable {meaning} {start names names' : Names} {enqueued queue left : List Write}
  {record done : List Mark} {write : Write}

theorem Balanced.refl (meaning : Meaning Names Write Mark) (start : Names)
    (writes : List Write) : meaning.Balanced start writes [] start writes :=
  ⟨rfl, rfl⟩

theorem Balanced.enqueue (balanced : meaning.Balanced start enqueued record names queue)
    (writes : List Write) :
    meaning.Balanced start (enqueued ++ writes) record names (queue ++ writes) where
  flow := by
    rw [flow_append, flow_append, ← List.append_assoc, balanced.flow, balanced.after]
  after := by rw [after_append, after_append, balanced.after]

theorem Balanced.carry (balanced : meaning.Balanced start enqueued record names (write :: queue))
    (carries : meaning.Carries names write done left names') :
    meaning.Balanced start enqueued (record ++ done) names' (left ++ queue) where
  flow := by
    rw [flow_append, carries.after, List.append_assoc, ← List.append_assoc done, carries.flow]
    exact balanced.flow
  after := by
    rw [after_append, carries.after]
    exact balanced.after

/-- What has been recorded comes ahead of everything else that was enqueued. -/
theorem Balanced.recorded (balanced : meaning.Balanced start enqueued record names queue)
    {earlier later : List Mark} {mark : Mark} (split : record = earlier ++ mark :: later) :
    ∃ behind, meaning.flow start enqueued = earlier ++ mark :: behind := by
  refine ⟨later ++ meaning.flow names queue, ?_⟩
  rw [← balanced.flow, split]
  simp

end Meaning

/-- What writes do to streams; a note is no part of any stream. -/
inductive Mark (Stream : Type u) (Byte : Type v) (Note : Type w) where
  | byte (stream : Stream) (value : Byte)
  | fin (stream : Stream)
  | note (text : Note)

namespace Mark

variable {Stream : Type u} {Byte : Type v} {Note : Type w}

def noted : Mark Stream Byte Note → Option Note
  | .note text => some text
  | _ => none

/-- The marks of a record that were really left; the others were given up. -/
def accepted (record : List (Mark Stream Byte Note × Bool)) : List (Mark Stream Byte Note) :=
  (record.filter Prod.snd).map Prod.fst

/-- Nothing but the end of a stream is ever given up. -/
def GivesUpFins (record : List (Mark Stream Byte Note × Bool)) : Prop :=
  ∀ mark, (mark, false) ∈ record → ∃ stream, mark = .fin stream

/-- The marks of a stream that gets bytes and is then ended, maybe more than once. -/
def script (stream : Stream) (bytes : List Byte) (ends : Nat) : List (Mark Stream Byte Note) :=
  bytes.map (.byte stream) ++ List.replicate ends (.fin stream)

/-- Behind an end there are only ends. -/
theorem script_split {stream : Stream} {bytes : List Byte} {ends : Nat}
    {front back : List (Mark Stream Byte Note)}
    (split : script stream bytes ends = front ++ .fin stream :: back) :
    0 < ends ∧ ∀ mark ∈ back, mark = .fin stream := by
  induction bytes generalizing front with
  | nil =>
      refine ⟨?_, fun mark member => ?_⟩
      · cases ends with
        | zero => simp [script] at split
        | succ ends => omega
      · have inside : mark ∈ (script stream [] ends : List (Mark Stream Byte Note)) := by
          rw [split]
          exact List.mem_append_right _ (List.mem_cons_of_mem _ member)
        exact List.eq_of_mem_replicate inside
  | cons byte bytes ih =>
      cases front with
      | nil => cases split
      | cons mark front => exact ih (List.cons.inj split).2

variable [DecidableEq Stream]

def byteOn (stream : Stream) : Mark Stream Byte Note → Option Byte
  | .byte other value => if other = stream then some value else none
  | _ => none

/-- The bytes that marks leave on a stream. -/
def bytesOn (stream : Stream) (marks : List (Mark Stream Byte Note)) : List Byte :=
  marks.filterMap (byteOn stream)

theorem bytesOn_append (stream : Stream) (first second : List (Mark Stream Byte Note)) :
    bytesOn stream (first ++ second) = bytesOn stream first ++ bytesOn stream second :=
  List.filterMap_append

theorem bytesOn_accepted (stream : Stream) {record : List (Mark Stream Byte Note × Bool)}
    (fins : GivesUpFins record) :
    bytesOn stream (accepted record) = bytesOn stream (record.map Prod.fst) := by
  induction record with
  | nil => rfl
  | cons entry record ih =>
      have rest := ih fun mark member => fins mark (List.mem_cons_of_mem entry member)
      obtain ⟨mark, left⟩ := entry
      cases left with
      | true =>
          have before := bytesOn_append stream [mark] (accepted record)
          have after := bytesOn_append stream [mark] (record.map Prod.fst)
          rw [rest] at before
          exact before.trans after.symm
      | false =>
          obtain ⟨other, rfl⟩ := fins mark List.mem_cons_self
          exact rest

/-- No byte is lost or overtaken, and a stream ends behind all the bytes that were
to come ahead of that end. -/
structure Kept (record : List (Mark Stream Byte Note × Bool))
    (queued promised : List (Mark Stream Byte Note)) : Prop where
  bytes : ∀ stream, bytesOn stream (accepted record) ++ bytesOn stream queued =
    bytesOn stream promised
  fins : ∀ stream earlier later, record = earlier ++ (.fin stream, true) :: later →
    ∃ behind, promised = earlier.map Prod.fst ++ .fin stream :: behind ∧
      bytesOn stream (accepted earlier) = bytesOn stream (earlier.map Prod.fst)

theorem Kept.of_balanced {Names : Type u} {Write : Type v}
    {meaning : Meaning Names Write (Mark Stream Byte Note)} {start names : Names}
    {enqueued queue : List Write} {record : List (Mark Stream Byte Note × Bool)}
    (balanced : meaning.Balanced start enqueued (record.map Prod.fst) names queue)
    (fins : GivesUpFins record) :
    Kept record (meaning.flow names queue) (meaning.flow start enqueued) where
  bytes stream := by
    rw [bytesOn_accepted stream fins, ← bytesOn_append, balanced.flow]
  fins stream earlier later split := by
    have settled : record.map Prod.fst =
        earlier.map Prod.fst ++ .fin stream :: later.map Prod.fst := by
      rw [split, List.map_append, List.map_cons]
    obtain ⟨behind, whole⟩ := balanced.recorded settled
    refine ⟨behind, whole, bytesOn_accepted stream fun mark member => fins mark ?_⟩
    rw [split]
    exact List.mem_append_left _ member

def on (stream : Stream) : Mark Stream Byte Note → Bool
  | .byte other _ | .fin other => decide (other = stream)
  | .note _ => false

/-- What marks do to one stream. -/
def marksOn (stream : Stream) (marks : List (Mark Stream Byte Note)) :
    List (Mark Stream Byte Note) :=
  marks.filter (on stream)

theorem marksOn_append (stream : Stream) (first second : List (Mark Stream Byte Note)) :
    marksOn stream (first ++ second) = marksOn stream first ++ marksOn stream second :=
  List.filter_append ..

theorem bytesOn_marksOn (stream : Stream) (marks : List (Mark Stream Byte Note)) :
    bytesOn stream (marksOn stream marks) = bytesOn stream marks := by
  induction marks with
  | nil => rfl
  | cons mark marks ih =>
      simp only [bytesOn, marksOn] at ih
      simp only [bytesOn, marksOn, List.filter_cons]
      split
      · rw [List.filterMap_cons, List.filterMap_cons, ih]
      · rename_i off
        rw [List.filterMap_cons, ih]
        cases mark with
        | byte other value => simp [byteOn, show other ≠ stream by simpa [on] using off]
        | fin other => rfl
        | note text => rfl

theorem bytesOn_script (stream : Stream) (bytes : List Byte) (ends : Nat) :
    bytesOn stream (script stream bytes ends : List (Mark Stream Byte Note)) = bytes := by
  induction bytes with
  | nil =>
      refine List.filterMap_eq_nil_iff.mpr fun mark member => ?_
      rw [List.eq_of_mem_replicate member]
      rfl
  | cons byte bytes ih =>
      simp only [script, bytesOn, List.map_cons, List.cons_append, List.filterMap_cons, byteOn,
        if_true]
      exact congrArg (byte :: ·) ih

theorem marksOn_script (stream : Stream) (bytes : List Byte) (ends : Nat) :
    marksOn stream (script stream bytes ends : List (Mark Stream Byte Note)) =
      script stream bytes ends := by
  refine List.filter_eq_self.mpr fun mark member => ?_
  rcases List.mem_append.mp member with byte | ended
  · obtain ⟨value, -, rfl⟩ := List.mem_map.mp byte
    simp [on]
  · rw [List.eq_of_mem_replicate ended]
    simp [on]

section Scripted

variable {record : List (Mark Stream Byte Note × Bool)}
  {queued promised : List (Mark Stream Byte Note)} {stream : Stream} {bytes : List Byte}
  {ends : Nat}

theorem Kept.within (kept : Kept record queued promised)
    (shape : marksOn stream promised = script stream bytes ends) :
    bytesOn stream (accepted record) <+: bytes := by
  have whole := kept.bytes stream
  rw [← bytesOn_marksOn stream promised, shape, bytesOn_script] at whole
  exact ⟨_, whole⟩

/-- Once the stream has been ended, all of its bytes have been left. -/
theorem Kept.finished (kept : Kept record queued promised)
    (shape : marksOn stream promised = script stream bytes ends)
    (finished : (.fin stream, true) ∈ record) :
    0 < ends ∧ bytesOn stream (accepted record) = bytes := by
  obtain ⟨earlier, later, split⟩ := List.append_of_mem finished
  obtain ⟨behind, whole, before⟩ := kept.fins stream earlier later split
  have parts : script stream bytes ends =
      marksOn stream (earlier.map Prod.fst) ++ .fin stream :: marksOn stream behind := by
    rw [← shape, whole, marksOn_append]
    simp [marksOn, on]
  obtain ⟨positive, rest⟩ := script_split parts
  have nothing : bytesOn stream behind = [] := by
    rw [← bytesOn_marksOn]
    refine List.filterMap_eq_nil_iff.mpr fun mark member => ?_
    rw [rest mark member]
    rfl
  have total : bytesOn stream (accepted earlier) = bytes := by
    rw [before, ← bytesOn_script stream bytes ends, parts, bytesOn_append, bytesOn_marksOn]
    refine (List.append_nil _).symm.trans (congrArg (_ ++ ·) ?_)
    exact ((bytesOn_marksOn stream behind).trans nothing).symm
  have front : accepted record = accepted earlier ++ accepted ((.fin stream, true) :: later) := by
    simp only [accepted, split, List.filter_append, List.map_append]
  have least : bytes <+: bytesOn stream (accepted record) := by
    rw [front, bytesOn_append, total]
    exact List.prefix_append _ _
  exact ⟨positive, (kept.within shape).eq_of_length_le least.length_le⟩

end Scripted

end Mark

end Rtunnel.Data
