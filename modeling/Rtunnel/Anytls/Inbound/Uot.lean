import Rtunnel.Anytls.Inbound.ChunkReader
import Rtunnel.Data.Machine

namespace Rtunnel.Anytls.Inbound

open Rtunnel.Data Rtunnel.Anytls.Uot

/-! The server's side of UDP over TCP.

The session loop hands the data of a stream's frames to a task of its own, which
reads datagrams from them, sends them on, and writes the answers back.  A read is
kept when its bytes have not all arrived, and goes on when the next frame has.
Answers are written in between.
-/

/-- The next datagram; a stream in connect mode has one destination. -/
def readDatagram (connect : Bool) (target : TargetAddr) :
    Demand Failure (TargetAddr × List UInt8) :=
  if connect then readLenPayload >>= fun payload => .done (target, payload) else readPacket

inductive UotStage where
  | request (pending : Demand Failure (Bool × TargetAddr))
  | relaying (connect : Bool) (target : TargetAddr)
      (pending : Demand Failure (TargetAddr × List UInt8))
  | ended (reason : Failure)

/-- A stream's task, with all it was handed and all it did, each in its order. -/
structure UotStream where
  rx : List (List UInt8)
  closed : Bool
  input : ChunkReader
  stage : UotStage
  received : List UInt8
  dialled : List Session
  sent : List (TargetAddr × List UInt8)
  answered : List (TargetAddr × List UInt8)
  wrote : List Frame

inductive UotEvent where
  | arrive (chunk : List UInt8)
  | hangUp
  | poll (dial send : Except Failure Unit)
  | respond (received : Except Failure (TargetAddr × List UInt8)) (write : Except Failure Unit)

namespace UotStream

def new : UotStream where
  rx := []
  closed := false
  input := .new
  stage := .request readRequest
  received := []
  dialled := []
  sent := []
  answered := []
  wrote := []

def enter (stream : UotStream) (stage : UotStage) : UotStream := { stream with stage := stage }

/-- Go on with a read; at most one frame is taken from the channel. -/
def read {Value : Type} (stream : UotStream) (pending : Demand Failure Value) :
    Demand Failure Value × UotStream :=
  let (pending, input) := ChunkReader.readOn pending stream.input
  match pending, stream.rx with
  | .need width ended next, chunk :: rest =>
      let (pending, input) := ChunkReader.readOn (.need width ended next) (input.push chunk)
      (pending, { stream with rx := rest, input := input })
  | .need width ended next, [] =>
      (if stream.closed then .fail "uot stream closed" else .need width ended next,
        { stream with input := input })
  | pending, _ => (pending, { stream with input := input })

/-- The request is complete: the target is dialled. -/
def dial (tag : String) (stream : UotStream) (answer : Except Failure Unit) (connect : Bool)
    (target : TargetAddr) : UotStream :=
  let session : Session := { inbound := tag, command := .udpAssociate, target := target }
  let stream := { stream with dialled := stream.dialled ++ [session] }
  match answer with
  | .ok () => stream.enter (.relaying connect target (readDatagram connect target))
  | .error reason => stream.enter (.ended reason)

/-- A datagram is complete: it is sent, and the next one is read. -/
def sendTo (stream : UotStream) (answer : Except Failure Unit) (connect : Bool)
    (target : TargetAddr) (datagram : TargetAddr × List UInt8) : UotStream :=
  let stream := { stream with sent := stream.sent ++ [datagram] }
  match answer with
  | .ok () => stream.enter (.relaying connect target (readDatagram connect target))
  | .error reason => stream.enter (.ended reason)

def poll (tag : String) (stream : UotStream) (dial send : Except Failure Unit) : UotStream :=
  match stream.stage with
  | .ended _ => stream
  | .request pending =>
      match stream.read pending with
      | (.done (connect, target), stream) => stream.dial tag dial connect target
      | (.fail reason, stream) => stream.enter (.ended reason)
      | (pending, stream) => stream.enter (.request pending)
  | .relaying connect target pending =>
      match stream.read pending with
      | (.done datagram, stream) => stream.sendTo send connect target datagram
      | (.fail reason, stream) => stream.enter (.ended reason)
      | (pending, stream) => stream.enter (.relaying connect target pending)

/-- An answer goes back in a frame of its own. -/
def writeAnswer (streamId : UInt32) (stream : UotStream) (connect : Bool)
    (response : TargetAddr × List UInt8) (write : Except Failure Unit) : UotStream :=
  match encodeDatagram connect response with
  | .error reason => stream.enter (.ended reason)
  | .ok data =>
      if fits : data.length ≤ u16Max then
        match write with
        | .ok () => { stream with wrote := stream.wrote ++ [⟨.psh, streamId, data, fits⟩] }
        | .error reason => stream.enter (.ended reason)
      else stream.enter (.ended "anytls frame is too large")

/-- Answers are received while datagrams are relayed. -/
def respond (streamId : UInt32) (stream : UotStream)
    (received : Except Failure (TargetAddr × List UInt8)) (write : Except Failure Unit) :
    UotStream :=
  match received with
  | .error reason =>
      match stream.stage with
      | .relaying _ _ _ => stream.enter (.ended reason)
      | _ => stream
  | .ok response =>
      let stream := { stream with answered := stream.answered ++ [response] }
      match stream.stage with
      | .relaying connect _ _ => stream.writeAnswer streamId connect response write
      | _ => stream

def step (tag : String) (streamId : UInt32) (stream : UotStream) : UotEvent → UotStream
  | .arrive chunk =>
      if stream.closed then stream
      else { stream with rx := stream.rx ++ [chunk], received := stream.received ++ chunk }
  | .hangUp => { stream with closed := true }
  | .poll dial send => stream.poll tag dial send
  | .respond received write => stream.respond streamId received write

end UotStream

def uotMachine (tag : String) (streamId : UInt32) : Machine UotStream UotEvent Unit :=
  ⟨fun stream event => (stream.step tag streamId event, ())⟩

namespace UotStream

/-- The bytes that were handed over and are not read yet. -/
def unread (stream : UotStream) : List UInt8 := stream.input.content ++ stream.rx.flatten

/-- A read goes on as if all bytes that were handed over were there at once. -/
theorem advance_read {Value : Type} {stream : UotStream} (isOpen : stream.closed = false)
    (pending : Demand Failure Value) :
    (stream.read pending).1.advance (stream.read pending).2.unread =
      pending.advance stream.unread := by
  have resumed := ChunkReader.readOn_resume pending stream.input stream.rx.flatten
  unfold read unread
  generalize ChunkReader.readOn pending stream.input = result at resumed ⊢
  obtain ⟨kept, input⟩ := result
  dsimp only at resumed ⊢
  cases kept with
  | done value => exact resumed
  | fail reason => exact resumed
  | need width ended next =>
      cases queued : stream.rx with
      | nil =>
          rw [queued] at resumed
          simp only [isOpen, Bool.false_eq_true, if_false]
          exact resumed
      | cons chunk rest =>
          have later := ChunkReader.readOn_resume (.need width ended next) (input.push chunk)
            rest.flatten
          rw [queued, List.flatten_cons] at resumed
          rw [ChunkReader.content_push, List.append_assoc] at later
          exact later.trans resumed

/-- A read touches the channel and the reader only. -/
theorem read_frame {Value : Type} (stream : UotStream) (pending : Demand Failure Value) :
    ∃ kept rx input, stream.read pending = (kept, { stream with rx := rx, input := input }) := by
  unfold read
  generalize ChunkReader.readOn pending stream.input = result
  obtain ⟨kept, input⟩ := result
  dsimp only
  split <;> exact ⟨_, _, _, rfl⟩

/-- A read that still waits has taken a frame, or there was none to take. -/
theorem read_progress {Value : Type} (stream : UotStream) (pending : Demand Failure Value) :
    (stream.read pending).2.rx.length ≤ stream.rx.length ∧
    ((stream.read pending).1.waits = true → (stream.read pending).2.rx.length < stream.rx.length ∨
      (pending.advance stream.unread).1.waits = true) := by
  have refines := ChunkReader.readOn_refines pending stream.input
  unfold read unread
  generalize ChunkReader.readOn pending stream.input = result at refines ⊢
  obtain ⟨kept, input⟩ := result
  dsimp only at refines ⊢
  cases kept with
  | done value => exact ⟨Nat.le_refl _, fun waits => by cases waits⟩
  | fail reason => exact ⟨Nat.le_refl _, fun waits => by cases waits⟩
  | need width ended next =>
      cases queued : stream.rx with
      | nil =>
          refine ⟨Nat.le_refl _, fun _ => .inr ?_⟩
          rw [List.flatten_nil, List.append_nil, refines]
          rfl
      | cons chunk rest => exact ⟨Nat.le_succ _, fun _ => .inl (Nat.lt_succ_self _)⟩

end UotStream

namespace UotStream

structure Untouched (stream : UotStream) : Prop where
  dialled : stream.dialled = []
  sent : stream.sent = []
  answered : stream.answered = []
  wrote : stream.wrote = []

/-- The task has dialled the target and handled what came before `rest`. -/
structure Relayed (tag : String) (streamId : UInt32) (stream : UotStream) (connect : Bool)
    (target : TargetAddr) (rest : List UInt8) : Prop where
  reached : ∃ request body, stream.received = request ++ (body ++ rest) ∧
    readRequest.Reads request (connect, target) ∧
    (readDatagram connect target).Spans body stream.sent
  dialled : stream.dialled = [⟨tag, .udpAssociate, target⟩]
  wrote : stream.wrote.map (fun frame => Except.ok frame.data) =
    stream.answered.map (encodeDatagram connect)
  framed : ∀ frame ∈ stream.wrote, frame.command = .psh ∧ frame.streamId = streamId

/-- Bytes that no client writes. -/
def Malformed (bytes : List UInt8) : Prop :=
  (∃ reason left, readRequest.advance bytes = (.fail reason, left)) ∨
  ∃ connect target request body rest values reason left, bytes = request ++ (body ++ rest) ∧
    readRequest.Reads request (connect, target) ∧
    (readDatagram connect target).Spans body values ∧
    (readDatagram connect target).advance rest = (.fail reason, left)

/-- The pending read stands for all that was handed over and is not handled. -/
def Standing (tag : String) (streamId : UInt32) (stream : UotStream) : Prop :=
  stream.closed = false ∧
  match stream.stage with
  | .request pending =>
      stream.Untouched ∧ pending.advance stream.unread = readRequest.advance stream.received
  | .relaying connect target pending =>
      ∃ rest, stream.Relayed tag streamId connect target rest ∧
        pending.advance stream.unread = (readDatagram connect target).advance rest
  | .ended _ => Malformed stream.received

theorem Malformed.append {bytes : List UInt8} (malformed : Malformed bytes) (more : List UInt8) :
    Malformed (bytes ++ more) := by
  rcases malformed with ⟨reason, left, gaveUp⟩ |
    ⟨connect, target, request, body, rest, values, reason, left, rfl, reads, spans, gaveUp⟩
  · exact .inl ⟨reason, _, Demand.advance_append_of_fail gaveUp more⟩
  · refine .inr ⟨connect, target, request, body, rest ++ more, values, reason, _, ?_, reads, spans,
      Demand.advance_append_of_fail gaveUp more⟩
    simp only [List.append_assoc]

variable {tag : String} {streamId : UInt32} {stream : UotStream}

theorem Standing.arrive (standing : stream.Standing tag streamId) (chunk : List UInt8) :
    (stream.step tag streamId (.arrive chunk)).Standing tag streamId := by
  obtain ⟨isOpen, standing⟩ := standing
  have stepped : stream.step tag streamId (.arrive chunk) =
      { stream with rx := stream.rx ++ [chunk], received := stream.received ++ chunk } := by
    simp only [step, isOpen, Bool.false_eq_true, if_false]
  have unread : (stream.step tag streamId (.arrive chunk)).unread = stream.unread ++ chunk := by
    rw [stepped]
    simp [UotStream.unread]
  rw [Standing, unread, stepped]
  refine ⟨isOpen, ?_⟩
  cases current : stream.stage with
  | request pending =>
      rw [current] at standing
      obtain ⟨untouched, same⟩ := standing
      exact ⟨⟨untouched.dialled, untouched.sent, untouched.answered, untouched.wrote⟩,
        Demand.advance_append_congr same chunk⟩
  | relaying connect target pending =>
      rw [current] at standing
      obtain ⟨rest, relayed, same⟩ := standing
      obtain ⟨request, body, received, reads, spans⟩ := relayed.reached
      refine ⟨rest ++ chunk, ⟨⟨request, body, ?_, reads, spans⟩, relayed.dialled,
        relayed.wrote, relayed.framed⟩, Demand.advance_append_congr same chunk⟩
      simp only [received, List.append_assoc]
  | ended reason =>
      rw [current] at standing
      exact Malformed.append standing chunk

theorem Standing.poll_request (isOpen : stream.closed = false)
    {pending : Demand Failure (Bool × TargetAddr)} (current : stream.stage = .request pending)
    (untouched : stream.Untouched)
    (same : pending.advance stream.unread = readRequest.advance stream.received) :
    (stream.poll tag (.ok ()) (.ok ())).Standing tag streamId := by
  have advanced := (advance_read isOpen pending).trans same
  obtain ⟨kept, rx, input, result⟩ := stream.read_frame pending
  rw [result] at advanced
  simp only [poll, current, result]
  cases kept with
  | fail reason => exact ⟨isOpen, .inl ⟨reason, _, advanced.symm⟩⟩
  | need width ended next =>
      exact ⟨isOpen, ⟨untouched.dialled, untouched.sent, untouched.answered, untouched.wrote⟩,
        advanced⟩
  | done found =>
      obtain ⟨connect, target⟩ := found
      obtain ⟨request, received, reads⟩ := Demand.Reads.of_advance advanced.symm
      refine ⟨isOpen, _, ⟨⟨request, [], received, reads, ?_⟩, ?_, ?_, ?_⟩, rfl⟩
      · change Demand.Spans _ [] stream.sent
        rw [untouched.sent]
        exact .nil
      · change stream.dialled ++ _ = _
        rw [untouched.dialled]
        rfl
      · change stream.wrote.map _ = stream.answered.map _
        rw [untouched.wrote, untouched.answered]
        rfl
      · change ∀ frame ∈ stream.wrote, _
        rw [untouched.wrote]
        simp

theorem Standing.poll_relaying (isOpen : stream.closed = false) {connect : Bool}
    {target : TargetAddr} {pending : Demand Failure (TargetAddr × List UInt8)}
    (current : stream.stage = .relaying connect target pending) {rest : List UInt8}
    (relayed : stream.Relayed tag streamId connect target rest)
    (same : pending.advance stream.unread = (readDatagram connect target).advance rest) :
    (stream.poll tag (.ok ()) (.ok ())).Standing tag streamId := by
  have advanced := (advance_read isOpen pending).trans same
  obtain ⟨kept, rx, input, result⟩ := stream.read_frame pending
  obtain ⟨request, body, received, reads, spans⟩ := relayed.reached
  rw [result] at advanced
  simp only [poll, current, result]
  cases kept with
  | fail reason =>
      exact ⟨isOpen, .inr ⟨connect, target, request, body, rest, _, reason, _, received, reads,
        spans, advanced.symm⟩⟩
  | need width ended next =>
      exact ⟨isOpen, rest, ⟨⟨request, body, received, reads, spans⟩, relayed.dialled,
        relayed.wrote, relayed.framed⟩, advanced⟩
  | done datagram =>
      obtain ⟨used, front, read⟩ := Demand.Reads.of_advance advanced.symm
      refine ⟨isOpen, _, ⟨⟨request, body ++ used, ?_, reads, spans.snoc read⟩, relayed.dialled,
        relayed.wrote, relayed.framed⟩, rfl⟩
      rw [List.append_assoc]
      exact received.trans (congrArg (fun later => request ++ (body ++ later)) front)

theorem Standing.poll (standing : stream.Standing tag streamId) :
    (stream.poll tag (.ok ()) (.ok ())).Standing tag streamId := by
  obtain ⟨isOpen, facts⟩ := standing
  cases current : stream.stage with
  | request pending =>
      rw [current] at facts
      exact poll_request isOpen current facts.1 facts.2
  | relaying connect target pending =>
      rw [current] at facts
      obtain ⟨rest, relayed, same⟩ := facts
      exact poll_relaying isOpen current relayed same
  | ended reason =>
      simp only [UotStream.poll, current]
      exact ⟨isOpen, by rw [current] at facts ⊢; exact facts⟩

/-- The answer fits a frame in the stream's mode. -/
def Fits (connect : Bool) (response : TargetAddr × List UInt8) : Prop :=
  ∃ data, encodeDatagram connect response = .ok data ∧ data.length ≤ u16Max

/-- Nothing fails around the task, and it is not asked to stop.  Answers come
from an outbound that was dialled, and each fits a frame. -/
def Fine (stream : UotStream) : UotEvent → Prop
  | .arrive _ => True
  | .hangUp => False
  | .poll dial send => dial = .ok () ∧ send = .ok ()
  | .respond received write => write = .ok () ∧ ∃ response, received = .ok response ∧
      match stream.stage with
      | .request _ => False
      | .relaying connect _ _ => Fits connect response
      | .ended _ => True

theorem Standing.respond (standing : stream.Standing tag streamId)
    {received : Except Failure (TargetAddr × List UInt8)} {write : Except Failure Unit}
    (fine : stream.Fine (.respond received write)) :
    (stream.respond streamId received write).Standing tag streamId := by
  obtain ⟨rfl, response, rfl, fits⟩ := fine
  obtain ⟨isOpen, facts⟩ := standing
  simp only [UotStream.respond]
  cases current : stream.stage with
  | request pending =>
      rw [current] at fits
      exact fits.elim
  | ended reason =>
      rw [current] at facts
      exact ⟨isOpen, facts⟩
  | relaying connect target pending =>
      rw [current] at fits facts
      obtain ⟨rest, relayed, same⟩ := facts
      obtain ⟨data, encoded, short⟩ := fits
      simp only [writeAnswer, encoded, dif_pos short]
      refine ⟨isOpen, rest, ⟨relayed.reached, relayed.dialled, ?_, ?_⟩, same⟩
      · rw [List.map_append, List.map_append, relayed.wrote, List.map_singleton,
          List.map_singleton, encoded]
      · intro frame member
        rcases List.mem_append.mp member with earlier | latest
        · exact relayed.framed frame earlier
        · rw [List.mem_singleton.mp latest]
          exact ⟨rfl, rfl⟩

theorem Standing.step (standing : stream.Standing tag streamId) {event : UotEvent}
    (fine : stream.Fine event) : (stream.step tag streamId event).Standing tag streamId := by
  cases event with
  | arrive chunk => exact standing.arrive chunk
  | hangUp => exact fine.elim
  | poll dial send =>
      obtain ⟨rfl, rfl⟩ := fine
      exact standing.poll
  | respond received write => exact standing.respond fine

theorem Standing.new : UotStream.new.Standing tag streamId :=
  ⟨rfl, ⟨rfl, rfl, rfl, rfl⟩, rfl⟩

end UotStream

def UotEvent.arrival : UotEvent → List UInt8
  | .arrive chunk => chunk
  | _ => []

def UotEvent.response : UotEvent → Option (TargetAddr × List UInt8)
  | .respond (.ok response) _ => some response
  | _ => none

/-- All frames of a run, one after the other. -/
def arrivals (events : List UotEvent) : List UInt8 := events.flatMap UotEvent.arrival

def responses (events : List UotEvent) : List (TargetAddr × List UInt8) :=
  events.filterMap UotEvent.response

namespace UotStream

variable {tag : String} {streamId : UInt32} {stream : UotStream}

theorem poll_logs (stream : UotStream) (dial send : Except Failure Unit) :
    (stream.poll tag dial send).received = stream.received ∧
    (stream.poll tag dial send).answered = stream.answered := by
  unfold poll
  split
  · exact ⟨rfl, rfl⟩
  · rename_i pending _
    obtain ⟨kept, rx, input, result⟩ := stream.read_frame pending
    rw [result]
    cases kept with
    | done found => cases dial <;> exact ⟨rfl, rfl⟩
    | fail reason => exact ⟨rfl, rfl⟩
    | need width ended next => exact ⟨rfl, rfl⟩
  · rename_i connect target pending _
    obtain ⟨kept, rx, input, result⟩ := stream.read_frame pending
    rw [result]
    cases kept with
    | done found => cases send <;> exact ⟨rfl, rfl⟩
    | fail reason => exact ⟨rfl, rfl⟩
    | need width ended next => exact ⟨rfl, rfl⟩

theorem respond_logs (stream : UotStream) (received : Except Failure (TargetAddr × List UInt8))
    (write : Except Failure Unit) :
    (stream.respond streamId received write).received = stream.received ∧
    (stream.respond streamId received write).answered =
      stream.answered ++ (UotEvent.response (.respond received write)).toList := by
  unfold respond
  cases received with
  | error reason =>
      dsimp only
      split <;> exact ⟨rfl, (List.append_nil _).symm⟩
  | ok response =>
      dsimp only
      split
      · unfold writeAnswer
        split
        · exact ⟨rfl, rfl⟩
        · split
          · split <;> exact ⟨rfl, rfl⟩
          · exact ⟨rfl, rfl⟩
      · exact ⟨rfl, rfl⟩

theorem step_logs (tag : String) (streamId : UInt32) (isOpen : stream.closed = false)
    (event : UotEvent) :
    (stream.step tag streamId event).received = stream.received ++ event.arrival ∧
    (stream.step tag streamId event).answered = stream.answered ++ event.response.toList := by
  cases event with
  | arrive chunk =>
      simp only [step, isOpen, Bool.false_eq_true, if_false]
      exact ⟨rfl, (List.append_nil _).symm⟩
  | hangUp => exact ⟨(List.append_nil _).symm, (List.append_nil _).symm⟩
  | poll dial send =>
      obtain ⟨received, answered⟩ := stream.poll_logs dial send
      exact ⟨received.trans (List.append_nil _).symm, answered.trans (List.append_nil _).symm⟩
  | respond received write =>
      obtain ⟨received, answered⟩ := stream.respond_logs received write
      exact ⟨received.trans (List.append_nil _).symm, answered⟩

/-- A run in which nothing fails leaves the task standing, with all it was handed. -/
theorem Standing.run (standing : stream.Standing tag streamId) {events : List UotEvent}
    (fine : (uotMachine tag streamId).Meets Fine stream events) :
    ((uotMachine tag streamId).run stream events).Standing tag streamId ∧
    ((uotMachine tag streamId).run stream events).received =
      stream.received ++ arrivals events ∧
    ((uotMachine tag streamId).run stream events).answered =
      stream.answered ++ responses events := by
  induction events generalizing stream with
  | nil => exact ⟨standing, (List.append_nil _).symm, (List.append_nil _).symm⟩
  | cons event events ih =>
      obtain ⟨received, answered⟩ := step_logs tag streamId standing.1 event
      obtain ⟨stands, allReceived, allAnswered⟩ := ih (standing.step fine.1) fine.2
      refine ⟨stands, allReceived.trans ?_, allAnswered.trans ?_⟩
      · rw [received, List.append_assoc]
        rfl
      · rw [answered, List.append_assoc]
        cases found : event.response <;> simp [responses, found]

end UotStream

end Rtunnel.Anytls.Inbound
