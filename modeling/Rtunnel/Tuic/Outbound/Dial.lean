import Rtunnel.Tuic.Outbound.Client

namespace Rtunnel.Tuic.Outbound

open Rtunnel.Data
open Rtunnel.Tuic.Inbound.App (SendAnswer)

/-! The two tasks of `dial`, between the application and the connection.

One reads from the application and queues what it reads; the end of the
application's stream, or a read that fails, is a `Close`.  The other one writes
what the connection has received and shuts the application's side down when
there is no more.
-/

/-- The reading task: what it has read, and what the queue has taken from it. -/
structure AppReader where
  running : Bool
  read : List UInt8
  sent : List QuicWrite

namespace AppReader

def new : AppReader := ⟨true, [], []⟩

/-- One turn of its loop; `alive` tells whether the connection still receives. -/
def turn (reader : AppReader) (read : Except Error (List UInt8)) (alive : Bool) : AppReader :=
  match read with
  | .ok (byte :: rest) =>
      { running := alive
        read := reader.read ++ byte :: rest
        sent := if alive then reader.sent ++ [.data (byte :: rest)] else reader.sent }
  | _ =>
      { reader with
        running := false
        sent := if alive then reader.sent ++ [.close] else reader.sent }

def step (reader : AppReader) (event : Except Error (List UInt8) × Bool) : AppReader :=
  if reader.running then reader.turn event.1 event.2 else reader

end AppReader

def appReaderMachine : Machine AppReader (Except Error (List UInt8) × Bool) Unit :=
  ⟨fun reader event => (reader.step event, ())⟩

/-- The queue has been sent pieces of what was read, and a `Close` behind all of it. -/
structure AppReader.Sends (reader : AppReader) (pieces : List (List UInt8)) (closed : Bool) :
    Prop where
  sent : reader.sent = pieces.map QuicWrite.data ++ if closed then [.close] else []
  within : pieces.flatten <+: reader.read
  whole : reader.running = true ∨ closed = true → pieces.flatten = reader.read
  ended : closed = true → reader.running = false

namespace AppReader.Sends

variable {reader : AppReader} {pieces : List (List UInt8)} {closed : Bool}

theorem new : AppReader.new.Sends [] false where
  sent := rfl
  within := List.prefix_rfl
  whole := fun _ => rfl
  ended := fun closed => by cases closed

/-- A task in its loop has sent all it has read. -/
theorem running (sends : reader.Sends pieces closed) (running : reader.running = true) :
    reader.sent = pieces.map QuicWrite.data ∧ pieces.flatten = reader.read := by
  have unclosed : closed = false := by
    cases closed with
    | false => rfl
    | true => exact absurd (sends.ended rfl) (by simp [running])
  subst unclosed
  have sent := sends.sent
  simp only [Bool.false_eq_true, if_false, List.append_nil] at sent
  exact ⟨sent, sends.whole (.inl running)⟩

/-- The application has ended its stream, or cannot be read. -/
theorem close (sends : reader.Sends pieces closed) (running : reader.running = true)
    (alive : Bool) :
    AppReader.Sends
      { reader with
        running := false
        sent := if alive then reader.sent ++ [.close] else reader.sent } pieces alive := by
  obtain ⟨sent, whole⟩ := sends.running running
  refine ⟨?_, sends.within, fun _ => whole, fun _ => rfl⟩
  cases alive with
  | true => simp [sent]
  | false => simp [sent]

theorem step (sends : reader.Sends pieces closed) (event : Except Error (List UInt8) × Bool) :
    ∃ pieces closed, (reader.step event).Sends pieces closed := by
  obtain ⟨read, alive⟩ := event
  unfold AppReader.step
  split
  · rename_i running
    unfold AppReader.turn
    split
    · rename_i byte rest _
      obtain ⟨sent, whole⟩ := sends.running running
      cases alive with
      | true =>
          refine ⟨pieces ++ [byte :: rest], false, ?_, ?_, ?_, by simp⟩
          · simp [sent]
          · simp [whole]
          · simp [whole]
      | false =>
          refine ⟨pieces, false, by simp [sent], ?_, by simp, by simp⟩
          rw [whole]
          exact List.prefix_append _ _
    · exact ⟨pieces, alive, sends.close running alive⟩
  · exact ⟨pieces, closed, sends⟩

theorem run (reads : List (Except Error (List UInt8) × Bool)) :
    ∃ pieces closed, (appReaderMachine.run .new reads).Sends pieces closed := by
  have step : ∀ (reader : AppReader) (event : Except Error (List UInt8) × Bool),
      (∃ pieces closed, reader.Sends pieces closed) →
        ∃ pieces closed, (appReaderMachine.next reader event).Sends pieces closed := by
    intro reader event kept
    obtain ⟨pieces, closed, sends⟩ := kept
    exact sends.step event
  exact appReaderMachine.run_invariant step ⟨[], false, .new⟩ reads

end AppReader.Sends

/-- What an event brings on the stream of the application. -/
def ClientEvent.bytes : ClientEvent → List UInt8
  | .readStream streamId data _ => if streamId = connectStreamId then data else []
  | _ => []

def ClientEvent.ends : ClientEvent → Bool
  | .readStream streamId _ fin => fin && decide (streamId = connectStreamId)
  | _ => false

namespace ClientApp

/-- What the connection puts into the channel of the writing task. -/
def hands (app : ClientApp) : ClientEvent → List (List UInt8)
  | .readStream streamId data _ =>
      match app.streamTx with
      | some streamTx =>
          if streamId = connectStreamId ∧ data ≠ [] ∧ (streamTx.trySend data).isOk then [data]
          else []
      | none => []
  | _ => []

def handed (setting : ClientSetting) : ClientApp → List ClientEvent → List (List UInt8)
  | _, [] => []
  | app, event :: events => app.hands event ++ handed setting (app.step setting event).1 events

/-- The calls of the connection that have not failed. -/
def Succeeds (setting : ClientSetting) (app : ClientApp) (event : ClientEvent) : Prop :=
  (app.step setting event).2 = .ok ()

instance (setting : ClientSetting) (app : ClientApp) (event : ClientEvent) :
    Decidable (app.Succeeds setting event) :=
  inferInstanceAs (Decidable (_ = _))

variable {setting : ClientSetting} {app : ClientApp} {event : ClientEvent}

theorem writeLoop_streamTx (app : ClientApp) (answers : List SendAnswer) :
    (app.writeLoop setting answers).1.streamTx = app.streamTx := by
  induction answers generalizing app with
  | nil => rfl
  | cons answer answers ih =>
      have tried : ∀ (rest : List QuicWrite) (write : QuicWrite),
          ({ app with pendingWrites := rest }.performWrite setting write answer).1.streamTx =
            app.streamTx := by
        intro rest write
        unfold performWrite
        repeat' split
        all_goals rfl
      unfold writeLoop
      split
      · rfl
      · rename_i write rest _
        have same := tried rest write
        split
        all_goals
          rename_i performed
          rw [performed] at same
        · exact (ih _).trans same
        · exact same
        · exact same

theorem step_streamTx (succeeded : app.Succeeds setting event) :
    (app.step setting event).1.streamTx.isSome = (app.streamTx.isSome && !event.ends) := by
  cases event with
  | waitForData wake =>
      simp only [step, waitForData, ClientEvent.ends, Bool.not_false, Bool.and_true]
      repeat' split
      all_goals rfl
  | readStream streamId data fin =>
      simp only [Succeeds, step, readStream] at succeeded ⊢
      split
      · rename_i failed
        rw [failed] at succeeded
        cases succeeded
      · rename_i streamTx sent
        split
        · rename_i ended
          simp [ClientEvent.ends, ended]
        · rename_i open_
          have goesOn : (fin && decide (streamId = connectStreamId)) = false := by
            simpa using open_
          simp only [ClientEvent.ends, goesOn, Bool.not_false, Bool.and_true]
          cases held : app.streamTx with
          | none =>
              rw [held] at sent
              cases sent
              rfl
          | some channel =>
              rw [held] at sent
              simp only at sent
              split at sent
              · cases result : channel.trySend data with
                | error reason =>
                    rw [result] at sent
                    cases sent
                | ok after =>
                    rw [result] at sent
                    cases sent
                    rfl
              · cases sent
                rfl
  | processWrites late answers =>
      simp only [step, processWrites, writeLoop_streamTx, ClientEvent.ends, Bool.not_false,
        Bool.and_true]
      rfl
  | enqueue write =>
      simp only [step, enqueue, ClientEvent.ends, Bool.not_false, Bool.and_true]
      split <;> rfl
  | streamReceives | streamEnds => simp [step, ClientEvent.ends]

/-- A call that succeeds hands over all that it has read, unless the stream is over. -/
theorem hands_flatten (succeeded : app.Succeeds setting event)
    (held : app.streamTx.isSome = true) : (app.hands event).flatten = event.bytes := by
  cases event with
  | readStream streamId data fin =>
      obtain ⟨streamTx, present⟩ := Option.isSome_iff_exists.mp held
      simp only [hands, ClientEvent.bytes, present]
      by_cases own : streamId = connectStreamId
      · by_cases empty : data = []
        · simp [empty]
        · have sent : (streamTx.trySend data).isOk = true := by
            simp only [Succeeds, step, readStream, present, own, empty, ne_eq, not_false_iff,
              and_self, if_true] at succeeded
            cases result : streamTx.trySend data with
            | ok after => rfl
            | error reason =>
                rw [result] at succeeded
                cases succeeded
          simp [own, empty, sent]
      · simp [own]
  | waitForData _ | processWrites _ _ | enqueue _ | streamReceives | streamEnds => rfl

variable {events : List ClientEvent}

theorem run_streamTx (succeeded : (clientMachine setting).Meets (Succeeds setting) app events) :
    ((clientMachine setting).run app events).streamTx.isSome =
      (app.streamTx.isSome && !events.any ClientEvent.ends) := by
  induction events generalizing app with
  | nil => simp
  | cons event events ih =>
      obtain ⟨first, rest⟩ := succeeded
      refine (ih rest).trans ?_
      rw [show ((clientMachine setting).next app event).streamTx.isSome = _ from
        step_streamTx first]
      simp [Bool.and_assoc]

theorem handed_of_closed (succeeded : (clientMachine setting).Meets (Succeeds setting) app events)
    (closed : app.streamTx.isSome = false) : handed setting app events = [] := by
  induction events generalizing app with
  | nil => rfl
  | cons event events ih =>
      obtain ⟨first, rest⟩ := succeeded
      have still := step_streamTx first
      rw [closed, Bool.false_and] at still
      have nothing : app.hands event = [] := by
        cases event with
        | readStream streamId data fin =>
            have gone : app.streamTx = none := by simpa using closed
            simp only [hands, gone]
        | waitForData _ | processWrites _ _ | enqueue _ | streamReceives | streamEnds => rfl
      rw [handed, nothing, List.nil_append]
      exact ih rest still

/-- The writing task is handed all that arrives on the stream. -/
theorem handed_flatten (succeeded : (clientMachine setting).Meets (Succeeds setting) app events)
    (held : app.streamTx.isSome = true)
    (orderly : events.Pairwise fun earlier later => earlier.ends = true → later.bytes = []) :
    (handed setting app events).flatten = events.flatMap ClientEvent.bytes := by
  induction events generalizing app with
  | nil => rfl
  | cons event events ih =>
      obtain ⟨first, rest⟩ := succeeded
      obtain ⟨behind, orderly⟩ := List.pairwise_cons.mp orderly
      have after := step_streamTx first
      rw [held, Bool.true_and] at after
      rw [handed, List.flatten_append, hands_flatten first held, List.flatMap_cons]
      refine congrArg (_ ++ ·) ?_
      cases ended : event.ends with
      | false => exact ih rest (after.trans (by rw [ended]; rfl)) orderly
      | true =>
          have closed : (app.step setting event).1.streamTx.isSome = false :=
            after.trans (by rw [ended]; rfl)
          have nothing : handed setting (app.step setting event).1 events = [] :=
            handed_of_closed rest closed
          rw [nothing]
          refine (List.flatMap_eq_nil_iff.mpr fun later member => ?_).symm
          exact behind later member ended

end ClientApp

inductive AppWriterStage where
  | receiving
  | writing (data : List UInt8)
  | shuttingDown
  | ended
deriving DecidableEq

/-- The writing task with its channel: what the connection has given it, and what the
application has been written.  `connected` tells whether the connection holds the
sending half. -/
structure AppWriter where
  stage : AppWriterStage
  streamRx : Channel (List UInt8)
  connected : Bool
  failed : Bool
  given : List (List UInt8)
  written : List UInt8

inductive AppWriterEvent where
  | give (data : List UInt8)
  | hangUp
  | recv
  | wrote (failure : Option Nat)
  | shutdown

namespace AppWriter

def new : AppWriter where
  stage := .receiving
  streamRx := .bounded channelCapacity
  connected := true
  failed := false
  given := []
  written := []

def give (writer : AppWriter) (data : List UInt8) : AppWriter :=
  if writer.connected then
    match writer.streamRx.trySend data with
    | .ok streamRx => { writer with streamRx := streamRx, given := writer.given ++ [data] }
    | .error _ => writer
  else writer

def recv (writer : AppWriter) : AppWriter :=
  match writer.streamRx.queue with
  | data :: _ => { writer with stage := .writing data, streamRx := writer.streamRx.recv }
  | [] => if writer.connected then writer else { writer with stage := .shuttingDown }

/-- A write that fails ends the loop; it may have taken some bytes. -/
def wrote (writer : AppWriter) (data : List UInt8) : Option Nat → AppWriter
  | none => { writer with stage := .receiving, written := writer.written ++ data }
  | some taken =>
      { writer with
        stage := .shuttingDown
        failed := true
        written := writer.written ++ data.take taken }

def step (writer : AppWriter) (event : AppWriterEvent) : AppWriter :=
  match event, writer.stage with
  | .give data, _ => writer.give data
  | .hangUp, _ => { writer with connected := false }
  | .recv, .receiving => writer.recv
  | .wrote failure, .writing data => writer.wrote data failure
  | .shutdown, .shuttingDown =>
      { writer with stage := .ended, streamRx := writer.streamRx.dropReceiver }
  | _, _ => writer

end AppWriter

def appWriterMachine : Machine AppWriter AppWriterEvent Unit :=
  ⟨fun writer event => (writer.step event, ())⟩

/-- The bytes the task has taken over and not written yet. -/
def AppWriterStage.hand : AppWriterStage → List UInt8
  | .writing data => data
  | _ => []

/-- The task has left its loop. -/
def AppWriterStage.Left : AppWriterStage → Prop
  | .shuttingDown | .ended => True
  | _ => False

theorem AppWriterStage.Left.hand {stage : AppWriterStage} (left : stage.Left) :
    stage.hand = [] := by
  cases stage with
  | receiving | writing _ => exact left.elim
  | shuttingDown | ended => rfl

/-- The application is written what the connection has received, in order, and sees
the end only behind all of it, unless it cannot be written to. -/
structure AppWriter.Writes (writer : AppWriter) : Prop where
  within : writer.written <+: writer.given.flatten
  whole : writer.failed = false →
    writer.written ++ writer.stage.hand ++ writer.streamRx.queue.flatten = writer.given.flatten
  left : writer.stage.Left → writer.failed = false →
    writer.connected = false ∧ writer.streamRx.queue = []
  alive : writer.stage ≠ .ended → writer.streamRx.receiverAlive = true
  stopped : writer.failed = true → writer.stage.Left

namespace AppWriter.Writes

variable {writer : AppWriter}

theorem new : AppWriter.new.Writes where
  within := List.prefix_rfl
  whole := fun _ => rfl
  left := fun left => left.elim
  alive := fun _ => rfl
  stopped := fun failed => by cases failed

theorem give (writes : writer.Writes) (data : List UInt8) : (writer.give data).Writes := by
  unfold AppWriter.give
  split
  · rename_i connected
    cases sent : writer.streamRx.trySend data with
    | error reason => exact writes
    | ok streamRx =>
        obtain ⟨queue, alive⟩ := Channel.trySend_eq_ok sent
        have longer : (writer.given ++ [data]).flatten = writer.given.flatten ++ data := by simp
        refine ⟨?_, ?_, ?_, ?_, writes.stopped⟩
        · rw [longer]
          exact writes.within.trans (List.prefix_append _ _)
        · intro sound
          rw [longer, ← writes.whole sound, queue]
          simp
        · intro left sound
          exact absurd connected (by simp [(writes.left left sound).1])
        · exact fun running => alive.trans (writes.alive running)
  · exact writes

theorem sound (writes : writer.Writes) (inLoop : ¬ writer.stage.Left) : writer.failed = false := by
  cases failed : writer.failed with
  | false => rfl
  | true => exact absurd (writes.stopped failed) inLoop

theorem recv (writes : writer.Writes) (receiving : writer.stage = .receiving) :
    writer.recv.Writes := by
  have alive := writes.alive (by simp [receiving])
  have sound := writes.sound (by simp [receiving, AppWriterStage.Left])
  have account := writes.whole sound
  rw [receiving] at account
  simp only [AppWriterStage.hand, List.append_nil] at account
  unfold AppWriter.recv
  split
  · rename_i data rest queue
    obtain ⟨shorter, still⟩ := Channel.recv_of_alive alive
    refine ⟨writes.within, fun _ => ?_, fun left => left.elim, fun _ => still,
      fun failed => absurd failed (by simp [sound])⟩
    rw [← account, shorter, queue]
    simp [AppWriterStage.hand]
  · rename_i empty
    split
    · exact writes
    · rename_i apart
      refine ⟨writes.within, fun _ => ?_, fun _ _ => ⟨by simpa using apart, empty⟩, fun _ => alive,
        fun _ => trivial⟩
      simpa [AppWriterStage.hand] using account

theorem wrote (writes : writer.Writes) {data : List UInt8} (writing : writer.stage = .writing data)
    (failure : Option Nat) : (writer.wrote data failure).Writes := by
  have alive := writes.alive (by simp [writing])
  have sound := writes.sound (by simp [writing, AppWriterStage.Left])
  have account := writes.whole sound
  rw [writing] at account
  simp only [AppWriterStage.hand] at account
  cases failure with
  | none =>
      refine ⟨?_, fun _ => ?_, fun left => left.elim, fun _ => alive,
        fun failed => absurd failed (by simp [AppWriter.wrote, sound])⟩
      · exact ⟨_, account⟩
      · simpa [AppWriter.wrote, AppWriterStage.hand] using account
  | some taken =>
      have partly : writer.written ++ data.take taken <+: writer.given.flatten := by
        rw [← account]
        exact ((List.prefix_append_right_inj _).mpr (List.take_prefix taken data)).trans
          (List.prefix_append _ _)
      constructor
      case within => exact partly
      case whole => simp [AppWriter.wrote]
      case left => simp [AppWriter.wrote]
      case alive => exact fun _ => alive
      case stopped => exact fun _ => trivial

theorem step (writes : writer.Writes) (event : AppWriterEvent) : (writer.step event).Writes := by
  unfold AppWriter.step
  split
  · exact writes.give _
  · exact ⟨writes.within, writes.whole, fun left sound => ⟨rfl, (writes.left left sound).2⟩,
      writes.alive, writes.stopped⟩
  · rename_i receiving
    exact writes.recv receiving
  · rename_i writing
    exact writes.wrote writing _
  · rename_i closing
    have account := writes.whole
    rw [closing] at account
    refine ⟨writes.within, account, fun _ sound => ?_, fun running => absurd rfl running,
      fun _ => trivial⟩
    exact writes.left (by rw [closing]; trivial) sound
  · exact writes

theorem run (events : List AppWriterEvent) : (appWriterMachine.run .new events).Writes :=
  appWriterMachine.run_invariant (fun _ event writes => writes.step event) .new events

end AppWriter.Writes

end Rtunnel.Tuic.Outbound
