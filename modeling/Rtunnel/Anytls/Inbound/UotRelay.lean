import Rtunnel.Anytls.Inbound.Uot

namespace Rtunnel.Anytls.Inbound

open Rtunnel.Data Rtunnel.Anytls.Uot

/-! What the server's task does with a client's datagrams.

However the input is cut into frames, and whenever answers come in between, the
task has sent a front part of the datagrams, and all of them once the input has
arrived and it was polled often enough.
-/

/-- A request and the datagrams behind it.  The targets are such that the wire
carries all of them; in connect mode they are the requested one. -/
structure UotInput where
  mode : UInt8
  target : TargetAddr
  address : List UInt8
  datagrams : List (TargetAddr × List UInt8)
  body : List UInt8
  requested : encodeUotAddr target = .ok address
  encoded : encodeDatagrams (decide (mode = 1)) datagrams = .ok body
  portable : target.Portable ∧ ∀ datagram ∈ datagrams, datagram.1.Portable
  bound : mode = 1 → ∀ datagram ∈ datagrams, datagram.1 = target

namespace UotInput

def bytes (input : UotInput) : List UInt8 := input.mode :: (input.address ++ input.body)

def connect (input : UotInput) : Bool := decide (input.mode = 1)

end UotInput

theorem readDatagram_hungry (connect : Bool) (target : TargetAddr) :
    ((readDatagram connect target).advance []).1.waits = true := by
  cases connect <;> rfl

theorem reads_readDatagram {connect : Bool} {target : TargetAddr}
    {datagram : TargetAddr × List UInt8} {data : List UInt8}
    (encoded : encodeDatagram connect datagram = .ok data) (portable : datagram.1.Portable)
    (bound : connect = true → datagram.1 = target) :
    (readDatagram connect target).Reads data datagram := by
  obtain ⟨destination, payload⟩ := datagram
  cases connect with
  | true =>
      cases bound rfl
      exact (reads_lenPayload encoded).map fun payload => (destination, payload)
  | false =>
      have read := reads_readPacket encoded
      rw [destination.onWire_eq_iff.mpr portable] at read
      exact read

theorem spans_encodeDatagrams {connect : Bool} {target : TargetAddr}
    {datagrams : List (TargetAddr × List UInt8)} {body : List UInt8}
    (encoded : encodeDatagrams connect datagrams = .ok body)
    (portable : ∀ datagram ∈ datagrams, datagram.1.Portable)
    (bound : connect = true → ∀ datagram ∈ datagrams, datagram.1 = target) :
    (readDatagram connect target).Spans body datagrams := by
  induction datagrams generalizing body with
  | nil =>
      cases encoded
      exact .nil
  | cons datagram datagrams ih =>
      cases first : encodeDatagram connect datagram with
      | error reason =>
          rw [encodeDatagrams, first] at encoded
          cases encoded
      | ok data =>
          cases others : encodeDatagrams connect datagrams with
          | error reason =>
              rw [encodeDatagrams, first, others] at encoded
              cases encoded
          | ok rest =>
              rw [encodeDatagrams, first, others] at encoded
              cases encoded
              apply Demand.Spans.cons
              · exact reads_readDatagram first (portable datagram List.mem_cons_self)
                  fun mode => bound mode datagram List.mem_cons_self
              · exact ih others (fun other member => portable other (List.mem_cons_of_mem _ member))
                  fun mode other member => bound mode other (List.mem_cons_of_mem _ member)

namespace UotInput

open UotStream

variable (input : UotInput)

theorem reads : readRequest.Reads (input.mode :: input.address) (input.connect, input.target) := by
  have read := reads_readRequest input.requested input.mode
  rw [input.target.onWire_eq_iff.mpr input.portable.1] at read
  exact read

theorem spans : (readDatagram input.connect input.target).Spans input.body input.datagrams :=
  spans_encodeDatagrams input.encoded input.portable.2 fun mode =>
    input.bound (of_decide_eq_true mode)

/-- A request at the front of the input is the input's own. -/
theorem request_unique {request later : List UInt8} {connect : Bool} {target : TargetAddr}
    (reads : readRequest.Reads request (connect, target))
    (front : request ++ later = input.bytes) :
    connect = input.connect ∧ target = input.target ∧ later = input.body := by
  have own := input.reads input.body
  have read := reads later
  rw [front] at read
  have same := read.symm.trans own
  simp only [Prod.mk.injEq, Demand.done.injEq] at same
  exact ⟨same.1.1, same.1.2, same.2⟩

theorem not_malformed {front : List UInt8} (start : front <+: input.bytes) :
    ¬ Malformed front := by
  obtain ⟨future, whole⟩ := start
  intro malformed
  have wholly := malformed.append future
  rw [whole] at wholly
  rcases wholly with ⟨reason, left, gaveUp⟩ |
    ⟨connect, target, request, body, rest, values, reason, left, split, reads, spans, gaveUp⟩
  · have own := input.reads input.body
    rw [bytes, ← List.cons_append, own] at gaveUp
    cases gaveUp
  · obtain ⟨rfl, rfl, same⟩ := input.request_unique reads split.symm
    have all := input.spans
    rw [← same] at all
    obtain ⟨later, _, spans⟩ := spans.split (readDatagram_hungry _ _) all
    exact spans.not_fail (readDatagram_hungry _ _) reason gaveUp

/-- What the task has sent is what the input holds first. -/
theorem sent_of_relayed {tag : String} {streamId : UInt32} {stream : UotStream} {connect : Bool}
    {target : TargetAddr} {rest future : List UInt8}
    (relayed : stream.Relayed tag streamId connect target rest)
    (whole : stream.received ++ future = input.bytes) :
    connect = input.connect ∧ target = input.target ∧
    ∃ later, input.datagrams = stream.sent ++ later ∧
      (readDatagram input.connect input.target).Spans (rest ++ future) later := by
  obtain ⟨request, body, received, reads, spans⟩ := relayed.reached
  rw [received, List.append_assoc] at whole
  obtain ⟨rfl, rfl, same⟩ := input.request_unique reads whole
  have all := input.spans
  rw [← same, List.append_assoc] at all
  exact ⟨rfl, rfl, spans.split (readDatagram_hungry _ _) all⟩

def session (tag : String) : Session :=
  { inbound := tag, command := .udpAssociate, target := input.target }

/-- The task has handled the whole input. -/
def Handled (tag : String) (stream : UotStream) : Prop :=
  stream.sent = input.datagrams ∧ stream.dialled = [input.session tag]

/-- Frames, datagrams and the request that are still ahead. -/
def load (stream : UotStream) : Nat :=
  stream.rx.length + (input.datagrams.length - stream.sent.length) +
    match stream.stage with
    | .request _ => 1
    | _ => 0

variable {input} {tag : String} {streamId : UInt32} {stream : UotStream}

theorem poll_progress_request (standing : stream.Standing tag streamId)
    (whole : stream.received = input.bytes) {pending : Demand Failure (Bool × TargetAddr)}
    (current : stream.stage = .request pending) :
    input.load (stream.poll tag (.ok ()) (.ok ())) < input.load stream := by
  have fine : ¬ Malformed stream.received := input.not_malformed (whole ▸ List.prefix_rfl)
  obtain ⟨isOpen, facts⟩ := standing
  rw [current] at facts
  have advanced := (advance_read isOpen pending).trans facts.2
  obtain ⟨shorter, progress⟩ := stream.read_progress pending
  obtain ⟨kept, rx, left, result⟩ := stream.read_frame pending
  have own := input.reads input.body
  rw [List.cons_append, ← bytes, ← whole] at own
  rw [facts.2, own] at progress
  rw [result] at advanced shorter progress
  simp only [poll, load, current, result]
  cases kept with
  | fail reason => exact absurd (.inl ⟨reason, _, advanced.symm⟩) fine
  | need width ended next =>
      have taken : rx.length < stream.rx.length :=
        (progress rfl).resolve_right (by simp [Demand.waits])
      simp only [enter]
      omega
  | done found =>
      simp only [dial, enter]
      dsimp only at shorter
      omega

theorem poll_progress_relaying (standing : stream.Standing tag streamId)
    (whole : stream.received = input.bytes) {connect : Bool} {target : TargetAddr}
    {pending : Demand Failure (TargetAddr × List UInt8)}
    (current : stream.stage = .relaying connect target pending) :
    input.Handled tag stream ∨
      input.load (stream.poll tag (.ok ()) (.ok ())) < input.load stream := by
  obtain ⟨isOpen, facts⟩ := standing
  rw [current] at facts
  obtain ⟨rest, relayed, same⟩ := facts
  obtain ⟨rfl, rfl, later, all, spans⟩ :=
    input.sent_of_relayed relayed ((List.append_nil _).trans whole)
  rw [List.append_nil] at spans
  have advanced := (advance_read isOpen pending).trans same
  obtain ⟨shorter, progress⟩ := stream.read_progress pending
  obtain ⟨kept, rx, left, result⟩ := stream.read_frame pending
  rw [same, result] at progress
  rw [result] at advanced shorter
  simp only [poll, load, current, result]
  cases kept with
  | fail reason => exact absurd advanced.symm (spans.not_fail (readDatagram_hungry _ _) reason)
  | need width ended next =>
      rcases progress rfl with taken | waits
      · exact .inr (Nat.add_lt_add_right taken _)
      · refine .inl ⟨?_, relayed.dialled⟩
        rw [all, spans.eq_nil waits, List.append_nil]
  | done datagram =>
      have more := List.length_pos_iff.mpr
        (spans.ne_nil (readDatagram_hungry _ _) advanced.symm)
      refine .inr ?_
      simp only [sendTo, enter, all, List.length_append, List.length_singleton]
      dsimp only at shorter
      omega

theorem poll_progress (standing : stream.Standing tag streamId)
    (whole : stream.received = input.bytes) :
    input.Handled tag stream ∨
      input.load (stream.poll tag (.ok ()) (.ok ())) < input.load stream := by
  cases current : stream.stage with
  | request pending => exact .inr (poll_progress_request standing whole current)
  | relaying connect target pending => exact poll_progress_relaying standing whole current
  | ended reason =>
      have malformed := standing.2
      rw [current] at malformed
      exact absurd malformed (input.not_malformed (whole ▸ List.prefix_rfl))

def polls (count : Nat) : List UotEvent := List.replicate count (.poll (.ok ()) (.ok ()))

/-- Once the input has arrived, the task handles all of it. -/
theorem handled_after_polls (standing : stream.Standing tag streamId)
    (whole : stream.received = input.bytes) :
    ∃ count, input.Handled tag ((uotMachine tag streamId).run stream (polls count)) := by
  induction ahead : input.load stream using Nat.strong_induction_on generalizing stream with
  | _ size ih =>
      rcases poll_progress standing whole with handled | smaller
      · exact ⟨0, handled⟩
      · have received : (stream.poll tag (.ok ()) (.ok ())).received = input.bytes :=
          (stream.poll_logs (.ok ()) (.ok ())).1.trans whole
        rw [ahead] at smaller
        obtain ⟨count, handled⟩ := ih _ smaller standing.poll received rfl
        exact ⟨count + 1, handled⟩

/-- In every run around which nothing fails, the task has sent a front part of
the datagrams and written all answers. -/
theorem standing_relays (standing : stream.Standing tag streamId)
    (front : stream.received <+: input.bytes) :
    stream.sent <+: input.datagrams ∧ stream.dialled <+: [input.session tag] ∧
    stream.wrote.map (fun frame => Except.ok frame.data) =
      stream.answered.map (encodeDatagram input.connect) ∧
    ∀ frame ∈ stream.wrote, frame.command = .psh ∧ frame.streamId = streamId := by
  have facts := standing.2
  cases current : stream.stage with
  | request pending =>
      rw [current] at facts
      obtain ⟨untouched, _⟩ := facts
      rw [untouched.sent, untouched.dialled, untouched.wrote, untouched.answered]
      exact ⟨List.nil_prefix, List.nil_prefix, rfl, by simp⟩
  | relaying connect target pending =>
      rw [current] at facts
      obtain ⟨rest, relayed, _⟩ := facts
      obtain ⟨future, whole⟩ := front
      obtain ⟨rfl, rfl, later, all, _⟩ := input.sent_of_relayed relayed whole
      refine ⟨⟨later, all.symm⟩, ?_, relayed.wrote, relayed.framed⟩
      rw [relayed.dialled]
      exact List.prefix_rfl
  | ended reason =>
      rw [current] at facts
      exact absurd facts (input.not_malformed front)

end UotInput

end Rtunnel.Anytls.Inbound
