import Rtunnel.Data.WriteQueue
import Rtunnel.Tuic.Inbound.Frames

namespace Rtunnel.Tuic.Inbound

open Rtunnel.Data

/-! From the tasks to the QUIC library.

Relay tasks enqueue writes; a pass hands them to the QUIC library, which may take
any part of one or ask to be tried again later.  A ledger follows the writes: the
place at which each was enqueued, what the library has taken, and the stream ids
that packets have been tried on.  The ledger reads the connection and never acts
on it.
-/

variable {setting : Setting}

/-- A note is left when a packet is given its stream: the place of the packet among
the writes, and among the packets. -/
abbrev WriteMark := Mark UInt64 UInt8 (Nat × Nat)

/-- The stream of a packet, by its place among the packets. -/
def packetStream (index : Nat) : UInt64 := UInt64.ofNat (3 + 4 * index)

def dataMarks (streamId : UInt64) (data : List UInt8) (fin : Bool) : List WriteMark :=
  data.map (.byte streamId) ++ if fin then [.fin streamId] else []

/-- What a write, tagged with its place, is to leave on the streams.  Packets are
given their streams in the order in which they are first tried. -/
def writeMeaning : Meaning Nat (Nat × QuicWrite) WriteMark where
  marks index
    | (_, .data streamId data fin) => dataMarks streamId data fin
    | (_, .datagram _ _) => []
    | (_, .uniStream _ (some streamId) data) => dataMarks streamId data true
    | (tag, .uniStream _ none data) =>
        .note (tag, index) :: dataMarks (packetStream index) data true
    | (_, .close streamId) => [.fin streamId]
  next index
    | (_, .uniStream _ none _) => index + 1
    | _ => index

/-- The tasks leave it to the pass to choose a stream. -/
def QuicWrite.Fresh : QuicWrite → Prop
  | .uniStream _ streamId _ => streamId = none
  | _ => True

instance decidableFresh : (write : QuicWrite) → Decidable write.Fresh
  | .uniStream _ _ _ => inferInstanceAs (Decidable (_ = _))
  | .data _ _ _ | .datagram _ _ | .close _ => .isTrue trivial

/-- What the QUIC library may answer to a send on a stream: it takes a part of the
data, and knows no stream beyond the 62 bits of a stream id. -/
def LawfulAnswer (streamId : UInt64) (data : List UInt8) : App.SendAnswer → Prop
  | .sent count => count ≤ data.length ∧ streamId.toNat < 2 ^ 62
  | .done => streamId.toNat < 2 ^ 62
  | _ => True

instance decidableLawfulAnswer (streamId : UInt64) (data : List UInt8) :
    (answer : App.SendAnswer) → Decidable (LawfulAnswer streamId data answer)
  | .sent _ => inferInstanceAs (Decidable (_ ∧ _))
  | .done => inferInstanceAs (Decidable (_ < _))
  | .bufferTooShort _ | .failed _ => .isTrue trivial

/-- What the library has taken with its answer, with the end of the stream only
together with the last byte. -/
def takenBy (streamId : UInt64) (data : List UInt8) (fin : Bool) :
    App.SendAnswer → List (WriteMark × Bool)
  | .sent count =>
      (dataMarks streamId (data.take count) (fin && decide (count = data.length))).map (·, true)
  | _ => []

namespace App

def LawfulSend (app : App setting) : QuicWrite → SendAnswer → Prop
  | .data streamId data _, answer => LawfulAnswer streamId data answer
  | .datagram _ _, _ => True
  | .uniStream _ streamId data, answer =>
      LawfulAnswer (streamId.getD app.nextUniStreamId) data answer
  | .close streamId, answer => LawfulAnswer streamId [] answer

instance decidableLawfulSend (app : App setting) (answer : SendAnswer) :
    (write : QuicWrite) → Decidable (app.LawfulSend write answer)
  | .data streamId data _ => decidableLawfulAnswer streamId data answer
  | .datagram _ _ => .isTrue trivial
  | .uniStream _ streamId data =>
      decidableLawfulAnswer (streamId.getD app.nextUniStreamId) data answer
  | .close streamId => decidableLawfulAnswer streamId [] answer

/-- Every answer in a pass is one that the library may give. -/
def LawfulAnswers (app : App setting) (now : Nat) : List SendAnswer → Prop
  | [] => True
  | answer :: answers =>
      match app.pendingWrites with
      | [] => True
      | write :: rest =>
          { app with pendingWrites := rest }.LawfulSend write answer ∧
            match { app with pendingWrites := rest }.performWrite now write answer with
            | (app, .proceed) => app.LawfulAnswers now answers
            | _ => True

theorem LawfulAnswers.cons_iff {app after : App setting} {now : Nat} {write : QuicWrite}
    {rest : List QuicWrite} {answer : SendAnswer} {answers : List SendAnswer} {flow : Flow}
    (pending : app.pendingWrites = write :: rest)
    (performed : { app with pendingWrites := rest }.performWrite now write answer =
      (after, flow)) :
    app.LawfulAnswers now (answer :: answers) ↔
      { app with pendingWrites := rest }.LawfulSend write answer ∧
        (flow = .proceed → after.LawfulAnswers now answers) := by
  conv_lhs => unfold LawfulAnswers
  simp only [pending, performed]
  cases flow with
  | proceed => simp
  | pause | fail reason => simp

instance decidableLawfulAnswers (now : Nat) :
    (answers : List SendAnswer) → (app : App setting) → Decidable (app.LawfulAnswers now answers)
  | [], _ => .isTrue trivial
  | answer :: answers, app =>
      match pending : app.pendingWrites with
      | [] => .isTrue (by unfold LawfulAnswers; rw [pending]; trivial)
      | write :: rest =>
          match performed : { app with pendingWrites := rest }.performWrite now write answer with
          | (after, _) =>
              have := decidableLawfulAnswers now answers after
              decidable_of_iff _ (LawfulAnswers.cons_iff pending performed).symm

/-- The marks a try settles; `false` stands for an end of stream that is given up. -/
def settles (app : App setting) (index tag : Nat) :
    QuicWrite → SendAnswer → List (WriteMark × Bool)
  | .data streamId data fin, answer =>
      if answer = .done ∧ fin = true ∧ data = [] then [(.fin streamId, false)]
      else takenBy streamId data fin answer
  | .datagram _ _, _ => []
  | .uniStream _ (some streamId) data, answer => takenBy streamId data true answer
  | .uniStream _ none data, answer =>
      (.note (tag, index), true) :: takenBy app.nextUniStreamId data true answer
  | .close streamId, .sent _ => [(.fin streamId, true)]
  | .close streamId, _ => [(.fin streamId, false)]

/-- The stream that a packet is tried on. -/
def attempted (app : App setting) (tag : Nat) : QuicWrite → List (Nat × UInt64)
  | .uniStream _ streamId _ => [(tag, streamId.getD app.nextUniStreamId)]
  | _ => []

end App

/-- Writes with their places, counted from `start`. -/
def tagFrom (start : Nat) : List QuicWrite → List (Nat × QuicWrite)
  | [] => []
  | write :: rest => (start, write) :: tagFrom (start + 1) rest

structure Ledger (setting : Setting) where
  app : App setting
  index : Nat
  tagged : List (Nat × QuicWrite)
  enqueued : List QuicWrite
  record : List (WriteMark × Bool)
  attempts : List (Nat × UInt64)

namespace Ledger

def new (setting : Setting) (now : Nat) : Ledger setting where
  app := App.new setting now
  index := 0
  tagged := []
  enqueued := []
  record := []
  attempts := []

/-- Tasks have enqueued more writes. -/
def enqueue (ledger : Ledger setting) (writes : List QuicWrite) : Ledger setting :=
  { ledger with
    tagged := ledger.tagged ++ tagFrom ledger.enqueued.length writes
    enqueued := ledger.enqueued ++ writes }

/-- A try of the first write has left the connection in `after`; what it has put
back in front of `rest` keeps its place. -/
def settle (ledger : Ledger setting) (tag : Nat) (write : QuicWrite) (answer : App.SendAnswer)
    (rest : List QuicWrite) (behind : List (Nat × QuicWrite)) (after : App setting) :
    Ledger setting where
  app := after
  index := writeMeaning.next ledger.index (tag, write)
  tagged :=
    (after.pendingWrites.take (after.pendingWrites.length - rest.length)).map (tag, ·) ++ behind
  enqueued := ledger.enqueued
  record := ledger.record ++ ledger.app.settles ledger.index tag write answer
  attempts := ledger.attempts ++ ledger.app.attempted tag write

/-- The ledger along a write loop. -/
def pass (ledger : Ledger setting) (now : Nat) : List App.SendAnswer → Ledger setting
  | [] => ledger
  | answer :: answers =>
      match ledger.app.pendingWrites, ledger.tagged with
      | write :: rest, (tag, _) :: behind =>
          match { ledger.app with pendingWrites := rest }.performWrite now write answer with
          | (app, .proceed) => (ledger.settle tag write answer rest behind app).pass now answers
          | (app, _) => ledger.settle tag write answer rest behind app
      | _, _ => ledger

def step (ledger : Ledger setting) : Event → Ledger setting
  | .enqueue write =>
      match ledger.app.outbound.trySend write with
      | .ok _ => { ledger.enqueue [write] with app := ledger.app.enqueue write }
      | .error _ => ledger
  | .processWrites now late answers =>
      match ledger.app.checkAuthenticationDeadline now with
      | .ok () =>
          { ledger.enqueue late with
            app := (ledger.app.maybeCleanupUdpState now).drainOutbound late }.pass now answers
      | .error _ => ledger
  | event => { ledger with app := (ledger.app.step event).1 }

end Ledger

section Tries

variable {app after : App setting} {index tag now : Nat} {assocId : Option UInt16}
  {data : List UInt8} {answer : App.SendAnswer} {flow : App.Flow}

theorem packetStream_succ (index : Nat) : packetStream (index + 1) = packetStream index + 4 := by
  simp only [packetStream]
  rw [show 3 + 4 * (index + 1) = (3 + 4 * index) + 4 by omega, UInt64.ofNat_add]
  rfl

theorem dataMarks_take_drop (streamId : UInt64) (data : List UInt8) (fin : Bool) (count : Nat) :
    dataMarks streamId (data.take count) false ++ dataMarks streamId (data.drop count) fin =
      dataMarks streamId data fin := by
  simp only [dataMarks, Bool.false_eq_true, ↓reduceIte, List.append_nil, ← List.append_assoc,
    ← List.map_append, List.take_append_drop]

/-- Packets that keep their streams and writes that need none name no further stream. -/
theorem after_of_named {left : List (Nat × QuicWrite)}
    (named : ∀ write ∈ left, ∀ index, writeMeaning.next index write = index) (index : Nat) :
    writeMeaning.after index left = index := by
  induction left with
  | nil => rfl
  | cons write left ih =>
      have head := named write List.mem_cons_self index
      have rest := ih fun other member => named other (List.mem_cons_of_mem write member)
      simpa only [Meaning.after, List.foldl_cons, head] using rest

/-- What a successful try of the first write amounts to. -/
structure Performed (app after : App setting) (index tag : Nat) (write : QuicWrite)
    (answer : App.SendAnswer) (left : List QuicWrite) : Prop where
  pending : after.pendingWrites = left ++ app.pendingWrites
  outbound : after.outbound = app.outbound
  next : after.nextUniStreamId = packetStream (writeMeaning.next index (tag, write))
  carries : writeMeaning.Carries index (tag, write)
    ((app.settles index tag write answer).map Prod.fst) (left.map (tag, ·))
    (writeMeaning.next index (tag, write))
  retried : ∀ assocId streamId data, .uniStream assocId (some streamId) data ∈ left →
    (tag, streamId) ∈ app.attempted tag write

theorem takenBy_fst (streamId : UInt64) (data : List UInt8) (fin : Bool) (count : Nat) :
    (takenBy streamId data fin (.sent count)).map Prod.fst =
      dataMarks streamId (data.take count) (fin && decide (count = data.length)) := by
  simp only [takenBy, List.map_map]
  exact List.map_id _

theorem App.writeData_performed (names : app.nextUniStreamId = packetStream index)
    {streamId : UInt64} {fin : Bool}
    (performed : app.writeData streamId data fin answer = (after, flow))
    (succeeded : ∀ reason, flow ≠ .fail reason) :
    ∃ left, Performed app after index tag (.data streamId data fin) answer left := by
  cases answer with
  | sent count =>
      simp only [App.writeData] at performed
      split at performed
      · next whole =>
          cases performed
          refine ⟨[], rfl, rfl, names, ⟨?_, rfl⟩, fun _ _ _ member => by cases member⟩
          simp only [App.settles, reduceCtorEq, false_and, ↓reduceIte, takenBy_fst, whole,
            List.take_length, decide_true, Bool.and_true]
          exact List.append_nil _
      · next part =>
          cases performed
          refine ⟨[.data streamId (data.drop count) fin], rfl, rfl, names, ⟨?_, rfl⟩,
            fun _ _ _ member => by simp at member⟩
          simp only [App.settles, reduceCtorEq, false_and, ↓reduceIte, takenBy_fst, part,
            decide_false, Bool.and_false]
          exact (congrArg _ (List.append_nil _)).trans (dataMarks_take_drop streamId data fin count)
  | done =>
      simp only [App.writeData] at performed
      split at performed
      · next empty =>
          cases performed
          refine ⟨[], rfl, rfl, names, ⟨?_, rfl⟩, fun _ _ _ member => by cases member⟩
          simp [App.settles, empty, writeMeaning, dataMarks, Meaning.flow]
      · next full =>
          cases performed
          refine ⟨[.data streamId data fin], rfl, rfl, names, ⟨?_, rfl⟩,
            fun _ _ _ member => by simp at member⟩
          simp only [App.settles, true_and, if_neg full, takenBy, List.map_nil, List.nil_append]
          exact List.append_nil _
  | bufferTooShort length | failed text =>
      cases performed
      exact absurd rfl (succeeded _)

theorem App.touchUdpSession_writes (app : App setting) (assocId : Option UInt16) (now : Nat) :
    (app.touchUdpSession assocId now).writes = app.writes := by
  cases assocId with
  | none => rfl
  | some assocId =>
      simp only [App.touchUdpSession, App.modifyUdpSession]
      split <;> rfl

/-- The send of a packet on a stream that is already its own. -/
theorem App.sendPacket_performed (index tag : Nat) {touched : App setting} {streamId : UInt64}
    (performed : (match answer with
      | .sent count =>
          if count = data.length then (touched, App.Flow.proceed)
          else (touched.requeue (.uniStream assocId (some streamId) (data.drop count)), .pause)
      | .done => (touched.requeue (.uniStream assocId (some streamId) data), .pause)
      | answer => (touched, .fail answer.failure)) = (after, flow))
    (succeeded : ∀ reason, flow ≠ .fail reason) :
    ∃ left, after.pendingWrites = left ++ touched.pendingWrites ∧
      after.outbound = touched.outbound ∧ after.nextUniStreamId = touched.nextUniStreamId ∧
      (takenBy streamId data true answer).map Prod.fst ++
        writeMeaning.flow index (left.map (tag, ·)) = dataMarks streamId data true ∧
      ∀ write ∈ left, ∃ rest, write = .uniStream assocId (some streamId) rest := by
  cases answer with
  | sent count =>
      dsimp only at performed
      split at performed
      · next whole =>
          cases performed
          refine ⟨[], rfl, rfl, rfl, ?_, fun _ member => by cases member⟩
          rw [takenBy_fst, whole, List.take_length]
          simp [Meaning.flow]
      · next part =>
          cases performed
          refine ⟨[.uniStream assocId (some streamId) (data.drop count)], rfl, rfl, rfl, ?_,
            fun _ member => ⟨_, List.mem_singleton.mp member⟩⟩
          rw [takenBy_fst, decide_eq_false part, Bool.and_false]
          exact (congrArg _ (List.append_nil _)).trans
            (dataMarks_take_drop streamId data true count)
  | done =>
      cases performed
      refine ⟨[.uniStream assocId (some streamId) data], rfl, rfl, rfl, ?_,
        fun _ member => ⟨_, List.mem_singleton.mp member⟩⟩
      exact List.append_nil _
  | bufferTooShort length | failed text =>
      cases performed
      exact absurd rfl (succeeded _)

theorem App.writeUniStream_performed (names : app.nextUniStreamId = packetStream index)
    {streamId : Option UInt64}
    (performed : app.writeUniStream now assocId streamId data answer = (after, flow))
    (succeeded : ∀ reason, flow ≠ .fail reason) :
    ∃ left, Performed app after index tag (.uniStream assocId streamId data) answer left := by
  have touched := app.touchUdpSession_writes assocId now
  simp only [App.writes, Prod.mk.injEq] at touched
  obtain ⟨sameNext, sameOutbound, samePending⟩ := touched
  unfold App.writeUniStream at performed
  dsimp only at performed
  have named : ∀ {streamId : UInt64} {left : List QuicWrite},
      (∀ write ∈ left, ∃ rest, write = .uniStream assocId (some streamId) rest) →
      ∀ write ∈ left.map (tag, ·), ∀ index, writeMeaning.next index write = index := by
    intro streamId left kept write member index
    obtain ⟨packet, inside, rfl⟩ := List.mem_map.mp member
    obtain ⟨rest, rfl⟩ := kept packet inside
    rfl
  cases streamId with
  | some streamId =>
      obtain ⟨left, pending, outbound, next, taken, kept⟩ :=
        App.sendPacket_performed index tag performed succeeded
      refine ⟨left, pending.trans (congrArg (left ++ ·) samePending), outbound.trans sameOutbound,
        next.trans (sameNext.trans names), ⟨taken, after_of_named (named kept) index⟩, ?_⟩
      intro assocId other data member
      obtain ⟨rest, same⟩ := kept _ member
      cases same
      exact List.mem_singleton_self _
  | none =>
      obtain ⟨left, pending, outbound, next, taken, kept⟩ :=
        App.sendPacket_performed (index + 1) tag performed succeeded
      have opened : (app.touchUdpSession assocId now).nextUniStreamId = packetStream index :=
        sameNext.trans names
      refine ⟨left, pending.trans (congrArg (left ++ ·) samePending), outbound.trans sameOutbound,
        next.trans ?_, ⟨?_, after_of_named (named kept) (index + 1)⟩, ?_⟩
      · exact (congrArg (· + 4) opened).trans (packetStream_succ index).symm
      · rw [Option.getD_none, opened] at taken
        simp only [App.settles, names, List.map_cons, List.cons_append]
        exact congrArg (List.cons _) taken
      · intro assocId other data member
        obtain ⟨rest, same⟩ := kept _ member
        cases same
        rw [Option.getD_none, sameNext]
        exact List.mem_singleton_self _

theorem App.requeueFragments_performed {fragments : List Packet}
    (performed : app.requeueFragments assocId fragments = (after, flow)) :
    ∃ left, after.pendingWrites = left ++ app.pendingWrites ∧ after.outbound = app.outbound ∧
      after.nextUniStreamId = app.nextUniStreamId ∧
      ∀ write ∈ left, ∃ data, write = .datagram assocId data := by
  induction fragments generalizing app with
  | nil =>
      cases performed
      exact ⟨[], rfl, rfl, rfl, fun _ member => by cases member⟩
  | cons fragment fragments ih =>
      unfold App.requeueFragments at performed
      split at performed
      · cases performed
        exact ⟨[], rfl, rfl, rfl, fun _ member => by cases member⟩
      · next data _ =>
          obtain ⟨left, pending, outbound, next, kept⟩ := ih performed
          refine ⟨left ++ [.datagram assocId data], ?_, outbound, next, ?_⟩
          · rw [List.append_assoc]
            exact pending
          · intro write member
            rcases List.mem_append.mp member with earlier | last
            · exact kept write earlier
            · exact ⟨data, List.mem_singleton.mp last⟩

/-- Datagrams, whole or in fragments, leave nothing on the streams. -/
theorem App.writeDatagram_performed (names : app.nextUniStreamId = packetStream index)
    (performed : app.writeDatagram now assocId data answer = (after, flow)) :
    ∃ left, Performed app after index tag (.datagram assocId data) answer left := by
  have touched := app.touchUdpSession_writes assocId now
  simp only [App.writes, Prod.mk.injEq] at touched
  obtain ⟨sameNext, sameOutbound, samePending⟩ := touched
  have moved : ∃ left,
      after.pendingWrites = left ++ (app.touchUdpSession assocId now).pendingWrites ∧
      after.outbound = (app.touchUdpSession assocId now).outbound ∧
      after.nextUniStreamId = (app.touchUdpSession assocId now).nextUniStreamId ∧
      ∀ write ∈ left, ∃ data, write = .datagram assocId data := by
    unfold App.writeDatagram at performed
    dsimp only at performed
    split at performed
    · cases performed
      exact ⟨[], rfl, rfl, rfl, fun _ member => by cases member⟩
    · cases performed
      exact ⟨[.datagram assocId data], rfl, rfl, rfl,
        fun _ member => ⟨data, List.mem_singleton.mp member⟩⟩
    · split at performed
      · cases performed
        exact ⟨[], rfl, rfl, rfl, fun _ member => by cases member⟩
      · split at performed
        · cases performed
          exact ⟨[], rfl, rfl, rfl, fun _ member => by cases member⟩
        · exact App.requeueFragments_performed performed
    · cases performed
      exact ⟨[], rfl, rfl, rfl, fun _ member => by cases member⟩
  obtain ⟨left, pending, outbound, next, kept⟩ := moved
  have silent : ∀ left : List QuicWrite, (∀ write ∈ left, ∃ data, write = .datagram assocId data) →
      writeMeaning.flow index (left.map (tag, ·)) = [] := by
    intro left kept
    induction left with
    | nil => rfl
    | cons write left ih =>
        obtain ⟨data, rfl⟩ := kept write List.mem_cons_self
        exact ih fun other member => kept other (List.mem_cons_of_mem _ member)
  refine ⟨left, pending.trans (congrArg (left ++ ·) samePending), outbound.trans sameOutbound,
    next.trans (sameNext.trans names), ⟨silent left kept, ?_⟩, ?_⟩
  · refine after_of_named (fun write member index => ?_) index
    obtain ⟨packet, inside, rfl⟩ := List.mem_map.mp member
    obtain ⟨data, rfl⟩ := kept packet inside
    rfl
  · intro assocId streamId data member
    obtain ⟨rest, same⟩ := kept _ member
    cases same

/-- Every write: a try that does not fail moves its first marks to the record. -/
theorem App.performWrite_performed (tag : Nat) (names : app.nextUniStreamId = packetStream index)
    {write : QuicWrite} (performed : app.performWrite now write answer = (after, flow))
    (succeeded : ∀ reason, flow ≠ .fail reason) :
    ∃ left, Performed app after index tag write answer left := by
  cases write with
  | data streamId data fin => exact App.writeData_performed names performed succeeded
  | datagram assocId data => exact App.writeDatagram_performed names performed
  | uniStream assocId streamId data => exact App.writeUniStream_performed names performed succeeded
  | close streamId =>
      cases performed
      refine ⟨[], rfl, rfl, names, ⟨?_, rfl⟩, fun _ _ _ member => by cases member⟩
      cases answer <;> rfl

end Tries

/-- What holds as long as no pass returns an error. -/
structure Sound (ledger : Ledger setting) : Prop where
  tagged : ledger.tagged.map Prod.snd =
    ledger.app.pendingWrites ++ ledger.app.outbound.queue
  balanced : writeMeaning.Balanced 0 (tagFrom 0 ledger.enqueued) (ledger.record.map Prod.fst)
    ledger.index ledger.tagged
  given : Mark.GivesUpFins ledger.record
  alive : ledger.app.outbound.receiverAlive = true
  names : ledger.app.nextUniStreamId = packetStream ledger.index
  small : 4 * ledger.index ≤ 2 ^ 62
  fresh : ∀ write ∈ ledger.enqueued, write.Fresh
  retried : ∀ tag assocId streamId data,
    (tag, .uniStream assocId (some streamId) data) ∈ ledger.tagged →
    (tag, streamId) ∈ ledger.attempts
  attempts : ∀ tag streamId, (tag, streamId) ∈ ledger.attempts →
    ∃ index, 3 + 4 * index < 2 ^ 62 ∧ streamId = packetStream index ∧
      (.note (tag, index), true) ∈ ledger.record

section Runs

variable {ledger : Ledger setting} {now : Nat} {after : App setting} {write : QuicWrite}
  {answer : App.SendAnswer} {flow : App.Flow}

theorem packetStream_toNat {index : Nat} (small : 4 * index ≤ 2 ^ 62) :
    (packetStream index).toNat = 3 + 4 * index := by
  rw [packetStream, UInt64.toNat_ofNat']
  exact Nat.mod_eq_of_lt (by omega)

theorem tagFrom_snd (start : Nat) (writes : List QuicWrite) :
    (tagFrom start writes).map Prod.snd = writes := by
  induction writes generalizing start with
  | nil => rfl
  | cons write writes ih => exact congrArg (List.cons write) (ih (start + 1))

theorem tagFrom_append (start : Nat) (first second : List QuicWrite) :
    tagFrom start (first ++ second) =
      tagFrom start first ++ tagFrom (start + first.length) second := by
  induction first generalizing start with
  | nil => rfl
  | cons write first ih =>
      simp only [List.cons_append, tagFrom, ih, List.length_cons]
      rw [show start + 1 + first.length = start + (first.length + 1) by omega]

theorem tagFrom_fresh {start : Nat} {writes : List QuicWrite}
    (fresh : ∀ write ∈ writes, write.Fresh) {tag : Nat} {assocId : Option UInt16}
    {streamId : UInt64} {data : List UInt8} :
    (tag, .uniStream assocId (some streamId) data) ∉ tagFrom start writes := by
  intro member
  have inside := List.mem_map_of_mem (f := Prod.snd) member
  rw [tagFrom_snd] at inside
  have none := fresh _ inside
  cases none

theorem Sound.new (setting : Setting) (start : Nat) : Sound (Ledger.new setting start) where
  tagged := rfl
  balanced := .refl writeMeaning 0 []
  given _ member := by cases member
  alive := rfl
  names := rfl
  small := Nat.zero_le _
  fresh _ member := by cases member
  retried _ _ _ _ member := by cases member
  attempts _ _ member := by cases member

/-- New writes take their places behind all the others. -/
theorem Sound.enqueue (sound : Sound ledger) {writes : List QuicWrite}
    (fresh : ∀ write ∈ writes, write.Fresh) {app : App setting}
    (queue : app.pendingWrites ++ app.outbound.queue =
      ledger.app.pendingWrites ++ ledger.app.outbound.queue ++ writes)
    (alive : app.outbound.receiverAlive = true)
    (names : app.nextUniStreamId = ledger.app.nextUniStreamId) :
    Sound { ledger.enqueue writes with app := app } where
  tagged := by
    refine Eq.trans ?_ queue.symm
    rw [← sound.tagged]
    simp only [Ledger.enqueue, List.map_append, tagFrom_snd]
  balanced := by
    have longer := sound.balanced.enqueue (tagFrom ledger.enqueued.length writes)
    simp only [Ledger.enqueue]
    rwa [tagFrom_append, Nat.zero_add]
  given := sound.given
  alive := alive
  names := names.trans sound.names
  small := sound.small
  fresh write member := by
    rcases List.mem_append.mp member with earlier | later
    · exact sound.fresh write earlier
    · exact fresh write later
  retried tag assocId streamId data member := by
    rcases List.mem_append.mp member with earlier | later
    · exact sound.retried tag assocId streamId data earlier
    · exact absurd later (tagFrom_fresh fresh)
  attempts := sound.attempts

/-- A change of the connection that leaves the order of the writes alone. -/
theorem Sound.of_queue (sound : Sound ledger) {app : App setting}
    (queue : app.pendingWrites ++ app.outbound.queue =
      ledger.app.pendingWrites ++ ledger.app.outbound.queue)
    (alive : app.outbound.receiverAlive = true)
    (names : app.nextUniStreamId = ledger.app.nextUniStreamId) :
    Sound { ledger with app := app } :=
  { sound with
    tagged := sound.tagged.trans queue.symm
    alive := alive
    names := names.trans sound.names }

theorem App.settles_pending (app : App setting) (rest : List QuicWrite) (index tag : Nat)
    (write : QuicWrite) (answer : App.SendAnswer) :
    { app with pendingWrites := rest }.settles index tag write answer =
      app.settles index tag write answer := by
  cases write with
  | uniStream assocId streamId data => cases streamId <;> rfl
  | close streamId => cases answer <;> rfl
  | _ => rfl

theorem takenBy_accepted (streamId : UInt64) (data : List UInt8) (fin : Bool)
    (answer : App.SendAnswer) : Mark.GivesUpFins (takenBy streamId data fin answer) := by
  intro mark member
  cases answer with
  | sent count =>
      obtain ⟨other, _, same⟩ := List.mem_map.mp member
      cases same
  | _ => cases member

theorem App.settles_given (app : App setting) (index tag : Nat) (write : QuicWrite)
    (answer : App.SendAnswer) : Mark.GivesUpFins (app.settles index tag write answer) := by
  intro mark member
  cases write with
  | data streamId data fin =>
      simp only [App.settles] at member
      split at member
      · cases List.mem_singleton.mp member
        exact ⟨streamId, rfl⟩
      · exact takenBy_accepted streamId data fin answer mark member
  | datagram assocId data => cases member
  | uniStream assocId streamId data =>
      cases streamId with
      | none =>
          rcases List.mem_cons.mp member with noted | taken
          · cases noted
          · exact takenBy_accepted app.nextUniStreamId data true answer mark taken
      | some streamId => exact takenBy_accepted streamId data true answer mark member
  | close streamId =>
      refine ⟨streamId, ?_⟩
      cases answer <;> cases List.mem_singleton.mp member
      all_goals rfl

/-- A stream that the library has not refused has an id of 62 bits. -/
theorem App.writeUniStream_bounded {app : App setting} {assocId : Option UInt16}
    {streamId : Option UInt64} {data : List UInt8}
    (performed : app.writeUniStream now assocId streamId data answer = (after, flow))
    (succeeded : ∀ reason, flow ≠ .fail reason)
    (lawful : LawfulAnswer (streamId.getD app.nextUniStreamId) data answer) :
    (streamId.getD app.nextUniStreamId).toNat < 2 ^ 62 := by
  cases answer with
  | sent count => exact lawful.2
  | done => exact lawful
  | bufferTooShort length | failed text =>
      unfold App.writeUniStream at performed
      cases performed
      exact absurd rfl (succeeded _)

/-- The first write of the connection is the first one of the ledger. -/
theorem Sound.aligned (sound : Sound ledger) {other : QuicWrite} {rest : List QuicWrite} {tag : Nat}
    {behind : List (Nat × QuicWrite)} (pending : ledger.app.pendingWrites = write :: rest)
    (first : ledger.tagged = (tag, other) :: behind) :
    other = write ∧ behind.map Prod.snd = rest ++ ledger.app.outbound.queue := by
  have aligned := sound.tagged
  rw [first, pending, List.map_cons, List.cons_append] at aligned
  exact List.cons.inj aligned

theorem Ledger.settle_tagged (ledger : Ledger setting) {left rest : List QuicWrite}
    (moved : after.pendingWrites = left ++ rest) (tag : Nat) (write : QuicWrite)
    (answer : App.SendAnswer) (behind : List (Nat × QuicWrite)) :
    (ledger.settle tag write answer rest behind after).tagged =
      left.map (tag, ·) ++ behind := by
  have front : after.pendingWrites.take (after.pendingWrites.length - rest.length) = left := by
    rw [moved]
    simp
  simp only [Ledger.settle, front]

/-- The stream that the next packet is given has an id of 62 bits. -/
theorem Sound.packet_bounded (sound : Sound ledger) {rest : List QuicWrite}
    (performed : { ledger.app with pendingWrites := rest }.performWrite now write answer =
      (after, flow))
    (succeeded : ∀ reason, flow ≠ .fail reason)
    (lawful : { ledger.app with pendingWrites := rest }.LawfulSend write answer)
    {assocId : Option UInt16} {data : List UInt8} (packet : write = .uniStream assocId none data) :
    3 + 4 * ledger.index < 2 ^ 62 := by
  subst packet
  have fits := App.writeUniStream_bounded performed succeeded lawful
  have names : ({ ledger.app with pendingWrites := rest } : App setting).nextUniStreamId =
      packetStream ledger.index := sound.names
  rw [Option.getD_none, names, packetStream_toNat sound.small] at fits
  exact fits

theorem next_small {index tag : Nat} (small : 4 * index ≤ 2 ^ 62)
    (bounded : ∀ assocId data, write = .uniStream assocId none data →
      3 + 4 * index < 2 ^ 62) :
    4 * writeMeaning.next index (tag, write) ≤ 2 ^ 62 := by
  cases write with
  | uniStream assocId streamId data =>
      cases streamId with
      | none =>
          have fits := bounded assocId data rfl
          change 4 * (index + 1) ≤ 2 ^ 62
          omega
      | some streamId => exact small
  | _ => exact small

/-- A try uses the stream that was noted for its packet, or notes one. -/
theorem Sound.settle_attempts (sound : Sound ledger) {tag : Nat} {behind : List (Nat × QuicWrite)}
    (first : ledger.tagged = (tag, write) :: behind)
    (bounded : ∀ assocId data, write = .uniStream assocId none data →
      3 + 4 * ledger.index < 2 ^ 62)
    (answer : App.SendAnswer) (rest : List QuicWrite) (after : App setting) {tag' : Nat}
    {streamId : UInt64}
    (tried : (tag', streamId) ∈ (ledger.settle tag write answer rest behind after).attempts) :
    ∃ index, 3 + 4 * index < 2 ^ 62 ∧ streamId = packetStream index ∧
      (.note (tag', index), true) ∈
        (ledger.settle tag write answer rest behind after).record := by
  have known : (tag', streamId) ∈ ledger.attempts → ∃ index, 3 + 4 * index < 2 ^ 62 ∧
      streamId = packetStream index ∧ (.note (tag', index), true) ∈
        (ledger.settle tag write answer rest behind after).record := by
    intro earlier
    obtain ⟨index, fits, same, noted⟩ := sound.attempts tag' streamId earlier
    exact ⟨index, fits, same, List.mem_append_left _ noted⟩
  rcases List.mem_append.mp tried with earlier | now
  · exact known earlier
  · cases write with
    | uniStream assocId chosen data =>
        cases List.mem_singleton.mp now
        cases chosen with
        | none =>
            refine ⟨ledger.index, bounded assocId data rfl, sound.names, ?_⟩
            exact List.mem_append_right _ List.mem_cons_self
        | some chosen =>
            exact known (sound.retried tag assocId chosen data (first ▸ List.mem_cons_self))
    | _ => cases now

theorem Sound.settle (sound : Sound ledger) {rest : List QuicWrite} {tag : Nat} {other : QuicWrite}
    {behind : List (Nat × QuicWrite)} (pending : ledger.app.pendingWrites = write :: rest)
    (first : ledger.tagged = (tag, other) :: behind)
    (performed : { ledger.app with pendingWrites := rest }.performWrite now write answer =
      (after, flow))
    (succeeded : ∀ reason, flow ≠ .fail reason)
    (lawful : { ledger.app with pendingWrites := rest }.LawfulSend write answer) :
    Sound (ledger.settle tag write answer rest behind after) := by
  obtain ⟨rfl, remaining⟩ := sound.aligned pending first
  have names : ({ ledger.app with pendingWrites := rest } : App setting).nextUniStreamId =
      packetStream ledger.index := sound.names
  obtain ⟨left, moved, outbound, next, carries, retried⟩ :=
    App.performWrite_performed tag names performed succeeded
  rw [App.settles_pending] at carries
  have balanced := sound.balanced
  rw [first] at balanced
  have bounded : ∀ assocId data, other = .uniStream assocId none data →
      3 + 4 * ledger.index < 2 ^ 62 :=
    fun _ _ packet => sound.packet_bounded performed succeeded lawful packet
  have tagged := ledger.settle_tagged moved tag other answer behind
  refine ⟨?_, ?_, ?_, ?_, next, next_small sound.small bounded, sound.fresh, ?_,
    fun _ _ => sound.settle_attempts first bounded answer rest after⟩
  · change _ = after.pendingWrites ++ after.outbound.queue
    rw [tagged, moved, outbound, List.map_append, List.map_map, remaining, List.append_assoc]
    exact congrArg (· ++ _) (List.map_id _)
  · rw [tagged]
    simp only [Ledger.settle, List.map_append]
    exact balanced.carry carries
  · intro mark member
    rcases List.mem_append.mp member with earlier | settled
    · exact sound.given mark earlier
    · exact ledger.app.settles_given ledger.index tag other answer mark settled
  · change after.outbound.receiverAlive = true
    rw [outbound]
    exact sound.alive
  · intro tag' assocId streamId data member
    rw [tagged] at member
    rcases List.mem_append.mp member with put | later
    · obtain ⟨packet, inside, same⟩ := List.mem_map.mp put
      cases same
      exact List.mem_append_right _ (retried assocId streamId data inside)
    · exact List.mem_append_left _
        (sound.retried tag' assocId streamId data (first ▸ List.mem_cons_of_mem _ later))

/-- The ledger along a pass that returns no error. -/
theorem Sound.pass (sound : Sound ledger) {answers : List App.SendAnswer}
    (succeeded : (ledger.app.writeLoop now answers).2 = .ok ())
    (lawful : ledger.app.LawfulAnswers now answers) :
    Sound (ledger.pass now answers) ∧
      (ledger.pass now answers).app = (ledger.app.writeLoop now answers).1 := by
  induction answers generalizing ledger with
  | nil => exact ⟨sound, rfl⟩
  | cons answer answers ih =>
      unfold App.writeLoop at succeeded ⊢
      unfold Ledger.pass
      cases pending : ledger.app.pendingWrites with
      | nil => exact ⟨sound, rfl⟩
      | cons write rest =>
          cases first : ledger.tagged with
          | nil =>
              have aligned := sound.tagged
              rw [first, pending] at aligned
              cases aligned
          | cons entry behind =>
              obtain ⟨tag, other⟩ := entry
              simp only [pending] at succeeded
              cases performed : { ledger.app with pendingWrites := rest }.performWrite now write
                answer with
              | mk after flow =>
                  simp only [performed] at succeeded ⊢
                  obtain ⟨admitted, lawful⟩ :=
                    (App.LawfulAnswers.cons_iff pending performed).mp lawful
                  cases flow with
                  | proceed =>
                      have settled := sound.settle pending first performed
                        (fun _ impossible => by cases impossible) admitted
                      exact ih settled succeeded (lawful rfl)
                  | pause =>
                      exact ⟨sound.settle pending first performed
                        (fun _ impossible => by cases impossible) admitted, rfl⟩
                  | fail reason => cases succeeded

/-- The library keeps to its contract, and no pass returns an error. -/
def Ledger.Proceeds (ledger : Ledger setting) : Event → Prop
  | .enqueue write => write.Fresh
  | .processWrites now late answers =>
      (∀ write ∈ late, write.Fresh) ∧ (ledger.app.processWrites now late answers).2 = .ok () ∧
        ((ledger.app.maybeCleanupUdpState now).drainOutbound late).LawfulAnswers now answers
  | _ => True

instance decidableProceeds (ledger : Ledger setting) :
    (event : Event) → Decidable (ledger.Proceeds event)
  | .enqueue write => decidableFresh write
  | .processWrites _ _ _ => inferInstanceAs (Decidable (_ ∧ _ ∧ _))
  | .established _ | .beginReads _ | .uniStream _ _ _ _ _ | .streamData _ _ _ _ | .datagram _ _
  | .waitForData _ _ _ | .relayReceives _ | .relayEnds _ | .udpRelayReceives _
  | .udpRelayEnds _ => .isTrue trivial

theorem App.maybeCleanupUdpState_writes (app : App setting) (now : Nat) :
    (app.maybeCleanupUdpState now).writes = app.writes := by
  unfold App.maybeCleanupUdpState
  split <;> rfl

theorem Sound.enqueues (sound : Sound ledger) (fresh : write.Fresh) :
    Sound (ledger.step (.enqueue write)) ∧
      (ledger.step (.enqueue write)).app = (ledger.app.step (.enqueue write)).1 := by
  cases sent : ledger.app.outbound.trySend write with
  | error reason =>
      have same : (ledger.app.step (.enqueue write)).1 = ledger.app := by
        simp only [App.step, App.enqueue, sent]
      have unchanged : ledger.step (.enqueue write) = ledger := by
        simp only [Ledger.step, sent]
      rw [unchanged, same]
      exact ⟨sound, rfl⟩
  | ok outbound =>
      obtain ⟨queue, alive⟩ := Channel.trySend_eq_ok sent
      have stepped : ledger.step (.enqueue write) =
          { ledger.enqueue [write] with app := ledger.app.enqueue write } := by
        simp only [Ledger.step, sent]
      have moved : ledger.app.enqueue write = { ledger.app with outbound := outbound } := by
        simp only [App.enqueue, sent]
      rw [stepped]
      refine ⟨sound.enqueue (fun other member => List.mem_singleton.mp member ▸ fresh) ?_ ?_ ?_,
        rfl⟩
      · rw [moved]
        simp only [queue, List.append_assoc]
      · rw [moved]
        exact alive.trans sound.alive
      · rw [moved]

theorem Sound.passes (sound : Sound ledger) {late : List QuicWrite}
    {answers : List App.SendAnswer}
    (proceeds : ledger.Proceeds (.processWrites now late answers)) :
    Sound (ledger.step (.processWrites now late answers)) ∧
      (ledger.step (.processWrites now late answers)).app =
        (ledger.app.step (.processWrites now late answers)).1 := by
  obtain ⟨fresh, succeeded, lawful⟩ := proceeds
  have cleaned := ledger.app.maybeCleanupUdpState_writes now
  simp only [App.writes, Prod.mk.injEq] at cleaned
  obtain ⟨sameNext, sameOutbound, samePending⟩ := cleaned
  unfold App.processWrites at succeeded
  cases timely : ledger.app.checkAuthenticationDeadline now with
  | error reason =>
      rw [timely, Attempt.andThen_error] at succeeded
      cases succeeded
  | ok done =>
      cases done
      rw [timely, Attempt.andThen_ok] at succeeded
      have drained : Sound { ledger.enqueue late with
          app := (ledger.app.maybeCleanupUdpState now).drainOutbound late } := by
        refine sound.enqueue fresh ?_ rfl sameNext
        simp only [App.drainOutbound, Channel.bounded, List.append_nil, sameOutbound, samePending]
      have passed := drained.pass succeeded lawful
      simp only [Ledger.step, App.step, App.processWrites, timely, Attempt.andThen_ok]
      exact passed

theorem Sound.waits (sound : Sound ledger) (later : Nat) (woken : Bool) :
    Sound (ledger.step (.waitForData now later woken)) := by
  have cleaned := ledger.app.maybeCleanupUdpState_writes now
  simp only [App.writes, Prod.mk.injEq] at cleaned
  obtain ⟨sameNext, sameOutbound, samePending⟩ := cleaned
  have tidy : Sound { ledger with app := ledger.app.maybeCleanupUdpState now } :=
    sound.of_queue (by rw [sameOutbound, samePending]) (by rw [sameOutbound]; exact sound.alive)
      sameNext
  simp only [Ledger.step, App.step, App.waitForData]
  cases ledger.app.checkAuthenticationDeadline now with
  | error reason => exact sound
  | ok done =>
      cases done
      simp only [Attempt.andThen_ok]
      split
      · unfold App.receiveOutbound
        split
        · exact tidy
        · next write rest waiting =>
            obtain ⟨queue, alive⟩ := Channel.recv_of_alive tidy.alive
            refine tidy.of_queue ?_ alive rfl
            simp only [queue, waiting, List.tail_cons, List.append_assoc, List.cons_append,
              List.nil_append]
      · exact tidy

theorem Sound.step (sound : Sound ledger) {event : Event} (proceeds : ledger.Proceeds event) :
    Sound (ledger.step event) ∧ (ledger.step event).app = (ledger.app.step event).1 := by
  have aside : ¬ event.OnWrites → Sound { ledger with app := (ledger.app.step event).1 } := by
    intro apart
    have kept := ledger.app.step_writes apart
    simp only [App.writes, Prod.mk.injEq] at kept
    obtain ⟨sameNext, sameOutbound, samePending⟩ := kept
    exact sound.of_queue (by rw [sameOutbound, samePending])
      (by rw [sameOutbound]; exact sound.alive) sameNext
  cases event with
  | enqueue write => exact sound.enqueues proceeds
  | processWrites now late answers => exact sound.passes proceeds
  | waitForData now later woken => exact ⟨sound.waits later woken, rfl⟩
  | _ => exact ⟨aside id, rfl⟩

end Runs

def ledgerMachine (setting : Setting) : Machine (Ledger setting) Event (Except Error Unit) :=
  ⟨fun ledger event => (ledger.step event, (ledger.app.step event).2)⟩

/-- The ledger stays sound, and follows the connection itself. -/
theorem run_sound {ledger : Ledger setting} (sound : Sound ledger) {events : List Event}
    (proceeds : (ledgerMachine setting).Meets Ledger.Proceeds ledger events) :
    Sound ((ledgerMachine setting).run ledger events) ∧
      ((ledgerMachine setting).run ledger events).app =
        (appMachine setting).run ledger.app events :=
  (ledgerMachine setting).run_follows (appMachine setting) Ledger.app
    (fun _ _ proceeds sound => sound.step proceeds) sound proceeds

theorem dataMarks_noted (streamId : UInt64) (data : List UInt8) (fin : Bool) :
    (dataMarks streamId data fin).filterMap Mark.noted = [] := by
  refine List.filterMap_eq_nil_iff.mpr fun mark member => ?_
  rcases List.mem_append.mp member with byte | ending
  · obtain ⟨value, _, rfl⟩ := List.mem_map.mp byte
    rfl
  · split at ending
    · rw [List.mem_singleton.mp ending]
      rfl
    · cases ending

/-- A write is noted when it is a packet without a stream, and only then. -/
theorem marks_noted {write : QuicWrite} (fresh : write.Fresh) (index tag : Nat) :
    ((writeMeaning.marks index (tag, write)).filterMap Mark.noted = [] ∧
      writeMeaning.next index (tag, write) = index) ∨
    ((writeMeaning.marks index (tag, write)).filterMap Mark.noted = [(tag, index)] ∧
      writeMeaning.next index (tag, write) = index + 1) := by
  cases write with
  | data streamId data fin => exact .inl ⟨dataMarks_noted streamId data fin, rfl⟩
  | datagram assocId data => exact .inl ⟨rfl, rfl⟩
  | close streamId => exact .inl ⟨rfl, rfl⟩
  | uniStream assocId streamId data =>
      have none : streamId = none := fresh
      subst none
      refine .inr ⟨?_, rfl⟩
      exact congrArg (List.cons _) (dataMarks_noted (packetStream index) data true)

/-- Later packets are noted with later places, among the writes and among the packets. -/
theorem notes_ordered {writes : List QuicWrite} (fresh : ∀ write ∈ writes, write.Fresh)
    (start index : Nat) :
    ((writeMeaning.flow index (tagFrom start writes)).filterMap Mark.noted).Pairwise
      (fun first second => first.1 < second.1 ∧ first.2 < second.2) ∧
    ∀ note ∈ (writeMeaning.flow index (tagFrom start writes)).filterMap Mark.noted,
      start ≤ note.1 ∧ index ≤ note.2 := by
  induction writes generalizing start index with
  | nil => exact ⟨List.Pairwise.nil, fun _ member => by cases member⟩
  | cons write writes ih =>
      have rest := ih fun other member => fresh other (List.mem_cons_of_mem write member)
      simp only [tagFrom, Meaning.flow, List.filterMap_append]
      rcases marks_noted (fresh write List.mem_cons_self) index start with
        ⟨silent, same⟩ | ⟨noted, next⟩
      · obtain ⟨ordered, beyond⟩ := rest (start + 1) index
        rw [silent, same, List.nil_append]
        refine ⟨ordered, fun note member => ?_⟩
        have bounds := beyond note member
        exact ⟨by omega, bounds.2⟩
      · obtain ⟨ordered, beyond⟩ := rest (start + 1) (index + 1)
        rw [noted, next, List.singleton_append]
        refine ⟨List.Pairwise.cons (fun note member => ?_) ordered, fun note member => ?_⟩
        · have bounds := beyond note member
          exact ⟨by omega, by omega⟩
        · rcases List.mem_cons.mp member with rfl | later
          · exact ⟨le_refl _, le_refl _⟩
          · have bounds := beyond note later
            exact ⟨by omega, by omega⟩

/-- A place among the writes belongs to one place among the packets. -/
theorem notes_agree {writes : List QuicWrite} (fresh : ∀ write ∈ writes, write.Fresh)
    {first second : Nat × Nat}
    (noted : first ∈ (writeMeaning.flow 0 (tagFrom 0 writes)).filterMap Mark.noted)
    (noted' : second ∈ (writeMeaning.flow 0 (tagFrom 0 writes)).filterMap Mark.noted) :
    first.1 = second.1 ↔ first.2 = second.2 := by
  let Agree : Nat × Nat → Nat × Nat → Prop :=
    fun first second => first.1 = second.1 ↔ first.2 = second.2
  have symmetric : Std.Symm Agree := ⟨fun first second agree =>
    ⟨fun same => (agree.mp same.symm).symm, fun same => (agree.mpr same.symm).symm⟩⟩
  have apart : ((writeMeaning.flow 0 (tagFrom 0 writes)).filterMap Mark.noted).Pairwise Agree :=
    (notes_ordered fresh 0 0).1.imp fun before =>
      ⟨fun same => absurd same before.1.ne, fun same => absurd same before.2.ne⟩
  exact apart.forall_of_forall (fun _ _ => ⟨fun _ => rfl, fun _ => rfl⟩) noted noted'

/-- The marks still to come, and all the marks that the tasks have asked for. -/
def Ledger.queued (ledger : Ledger setting) : List WriteMark :=
  writeMeaning.flow ledger.index ledger.tagged

def Ledger.promised (ledger : Ledger setting) : List WriteMark :=
  writeMeaning.flow 0 (tagFrom 0 ledger.enqueued)

/-- The writes of a connection, seen from its ledger: what is queued is what the
connection still holds, nothing is lost or overtaken, and a packet has one stream
to itself. -/
structure WritesKept (ledger : Ledger setting) : Prop where
  queue : ledger.tagged.map Prod.snd = ledger.app.pendingWrites ++ ledger.app.outbound.queue
  kept : Mark.Kept ledger.record ledger.queued ledger.promised
  packets : ∀ first ∈ ledger.attempts, ∀ second ∈ ledger.attempts,
    first.1 = second.1 ↔ first.2 = second.2

theorem Sound.writesKept {ledger : Ledger setting} (sound : Sound ledger) : WritesKept ledger where
  queue := sound.tagged
  kept := .of_balanced sound.balanced sound.given
  packets := by
    rintro ⟨tag, streamId⟩ tried ⟨tag', streamId'⟩ tried'
    obtain ⟨index, fits, rfl, noted⟩ := sound.attempts tag streamId tried
    obtain ⟨index', fits', rfl, noted'⟩ := sound.attempts tag' streamId' tried'
    have listed : ∀ {note : Nat × Nat}, (.note note, true) ∈ ledger.record →
        note ∈ ledger.promised.filterMap Mark.noted := by
      intro note member
      refine List.mem_filterMap.mpr ⟨.note note, ?_, rfl⟩
      have inside : Mark.note note ∈ ledger.record.map Prod.fst :=
        List.mem_map.mpr ⟨_, member, rfl⟩
      rw [Ledger.promised, ← sound.balanced.flow]
      exact List.mem_append_left _ inside
    have agree := notes_agree sound.fresh (listed noted) (listed noted')
    refine agree.trans ⟨congrArg packetStream, fun same => ?_⟩
    have numbers := congrArg UInt64.toNat same
    rw [packetStream_toNat (by omega), packetStream_toNat (by omega)] at numbers
    omega

end Rtunnel.Tuic.Inbound
