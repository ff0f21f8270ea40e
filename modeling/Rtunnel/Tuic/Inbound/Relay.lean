import Rtunnel.Tuic.Inbound.App

namespace Rtunnel.Tuic.Inbound

open Rtunnel.Data

/-! The task of one stream: `spawn_relay`.

The task dials the target and writes the bytes that came with the header.  Its
loop then waits for the client and for the target together, the client first.
Either side may end before the other: the task goes on with the other one until
both have ended.  An error of any call ends it at once, with a `Close` for the
client.  Every access to what the task shares with others is an event.
-/

/-- The arguments of `spawn_relay` besides its two queues. -/
structure RelayCall where
  session : Session
  streamId : UInt64
  initial : List UInt8

/-- The call that the task is in. -/
inductive RelayStage where
  | dialling
  | writing (data : List UInt8)
  | selecting
  | shuttingDown
  | sending (write : QuicWrite)
  | reporting
  | ended
deriving DecidableEq

/-- A task with its queues: what the connection has given it, what the outbound has
taken and handed out, and what the task has queued for the client.  `connected` tells
whether the connection holds the sending half of `clientRx`, `quicAlive` whether it
still holds the receiving half of the other queue. -/
structure Relay where
  stage : RelayStage
  clientRx : Channel (List UInt8)
  connected : Bool
  quicAlive : Bool
  clientClosed : Bool
  remoteClosed : Bool
  failed : Bool
  given : List (List UInt8)
  dialled : List Session
  written : List UInt8
  read : List UInt8
  queued : List QuicWrite

/-- How writing to the outbound ends; a write that fails may have taken some bytes. -/
inductive WriteAnswer where
  | whole
  | failed (taken : Nat)
deriving DecidableEq

inductive RelayEvent where
  | give (data : List UInt8)
  | hangUp
  | quicEnds
  | dial (answer : Except Error Unit)
  | wrote (answer : WriteAnswer)
  | poll (read : Option (Except Error (List UInt8)))
  | shutdown (answer : Except Error Unit)
  | sent

namespace Relay

/-- A task whose channel the connection keeps, unless the client has ended the stream. -/
def new (connected : Bool) : Relay where
  stage := .dialling
  clientRx := .bounded channelCapacity
  connected := connected
  quicAlive := true
  clientClosed := false
  remoteClosed := false
  failed := false
  given := []
  dialled := []
  written := []
  read := []
  queued := []

/-- The connection puts a message into the channel. -/
def give (relay : Relay) (data : List UInt8) : Relay :=
  if relay.connected then
    match relay.clientRx.trySend data with
    | .ok clientRx => { relay with clientRx := clientRx, given := relay.given ++ [data] }
    | .error _ => relay
  else relay

def fail (relay : Relay) : Relay := { relay with stage := .reporting, failed := true }

/-- The end of the task drops its half of the channel. -/
def leave (relay : Relay) : Relay :=
  { relay with stage := .ended, clientRx := relay.clientRx.dropReceiver }

/-- The condition of the loop. -/
def continueLoop (relay : Relay) : Relay :=
  if relay.clientClosed = true ∧ relay.remoteClosed = true then relay.leave
  else { relay with stage := .selecting }

def dial (call : RelayCall) (relay : Relay) (answer : Except Error Unit) : Relay :=
  let relay := { relay with dialled := relay.dialled ++ [call.session] }
  match answer with
  | .error _ => relay.fail
  | .ok () =>
      if call.initial = [] then { relay with stage := .selecting }
      else { relay with stage := .writing call.initial }

def wrote (relay : Relay) (data : List UInt8) : WriteAnswer → Relay
  | .whole => { relay with stage := .selecting, written := relay.written ++ data }
  | .failed taken => { relay with written := relay.written ++ data.take taken }.fail

/-- The arm of the target; without a result it stays pending. -/
def readRemote (call : RelayCall) (relay : Relay) :
    Option (Except Error (List UInt8)) → Relay
  | none => relay
  | some read =>
      if relay.remoteClosed then relay
      else
        match read with
        | .error _ => relay.fail
        | .ok data =>
            { relay with
              stage := .sending (.data call.streamId data (decide (data = [])))
              remoteClosed := decide (data = [])
              read := relay.read ++ data }

/-- One turn of the biased `select!`: the target has its turn only while the client
keeps the task waiting or has ended. -/
def poll (call : RelayCall) (relay : Relay) (read : Option (Except Error (List UInt8))) :
    Relay :=
  if relay.clientClosed then relay.readRemote call read
  else
    match relay.clientRx.queue with
    | data :: _ => { relay with stage := .writing data, clientRx := relay.clientRx.recv }
    | [] =>
        if relay.connected then relay.readRemote call read
        else { relay with stage := .shuttingDown }

def shutdown (relay : Relay) : Except Error Unit → Relay
  | .error _ => relay.fail
  | .ok () => { relay with clientClosed := true }.continueLoop

def sent (relay : Relay) (write : QuicWrite) : Relay :=
  if relay.quicAlive then { relay with queued := relay.queued ++ [write] }.continueLoop
  else relay.fail

/-- The error of the last send is ignored. -/
def report (call : RelayCall) (relay : Relay) : Relay :=
  if relay.quicAlive then
    { relay with queued := relay.queued ++ [QuicWrite.close call.streamId] }.leave
  else relay.leave

def step (call : RelayCall) (relay : Relay) (event : RelayEvent) : Relay :=
  match event, relay.stage with
  | .give data, _ => relay.give data
  | .hangUp, _ => { relay with connected := false }
  | .quicEnds, _ => { relay with quicAlive := false }
  | .dial answer, .dialling => relay.dial call answer
  | .wrote answer, .writing data => relay.wrote data answer
  | .poll read, .selecting => relay.poll call read
  | .shutdown answer, .shuttingDown => relay.shutdown answer
  | .sent, .sending write => relay.sent write
  | .sent, .reporting => relay.report call
  | _, _ => relay

end Relay

def relayMachine (call : RelayCall) : Machine Relay RelayEvent Unit :=
  ⟨fun relay event => (relay.step call event, ())⟩

/-- The bytes the task has taken over and not written yet. -/
def RelayStage.hand (call : RelayCall) : RelayStage → List UInt8
  | .dialling => call.initial
  | .writing data => data
  | _ => []

/-- Everything the task is given it writes in order, and it passes on the end of the
stream only behind the last byte. -/
structure Relay.Forwards (call : RelayCall) (relay : Relay) : Prop where
  within : relay.written <+: call.initial ++ relay.given.flatten
  whole : relay.failed = false →
    relay.written ++ relay.stage.hand call ++ relay.clientRx.queue.flatten =
      call.initial ++ relay.given.flatten
  closing : relay.stage = .shuttingDown → relay.connected = false ∧ relay.clientRx.queue = []
  closed : relay.clientClosed = true → relay.connected = false ∧ relay.clientRx.queue = [] ∧
    relay.stage ≠ .dialling ∧ (∀ data, relay.stage ≠ .writing data) ∧
    relay.written = call.initial ++ relay.given.flatten
  alive : relay.stage ≠ .ended → relay.clientRx.receiverAlive = true
  stopped : relay.failed = true → relay.stage = .reporting ∨ relay.stage = .ended

namespace Relay.Forwards

variable {call : RelayCall} {relay : Relay}

theorem new (call : RelayCall) (connected : Bool) : (Relay.new connected).Forwards call where
  within := List.nil_prefix
  whole := fun _ => by simp [Relay.new, RelayStage.hand, Channel.bounded]
  closing := fun stage => by cases stage
  closed := fun closed => by cases closed
  alive := fun _ => rfl
  stopped := fun failed => by cases failed

/-- A task that is still taking what the client sends. -/
theorem of_open
    (account : relay.written ++ relay.stage.hand call ++ relay.clientRx.queue.flatten =
      call.initial ++ relay.given.flatten)
    (unclosed : relay.clientClosed = false) (running : relay.failed = false)
    (elsewhere : relay.stage ≠ .shuttingDown) (alive : relay.clientRx.receiverAlive = true) :
    relay.Forwards call where
  within := by
    rw [← account, List.append_assoc]
    exact List.prefix_append _ _
  whole := fun _ => account
  closing := fun stage => absurd stage elsewhere
  closed := fun closed => absurd closed (by simp [unclosed])
  alive := fun _ => alive
  stopped := fun failed => absurd failed (by simp [running])

/-- A task that waits for one of its calls has not failed. -/
theorem running (forwards : relay.Forwards call) (reporting : relay.stage ≠ .reporting)
    (ended : relay.stage ≠ .ended) : relay.failed = false := by
  cases failed : relay.failed with
  | false => rfl
  | true => exact ((forwards.stopped failed).elim reporting ended).elim

theorem unclosed (forwards : relay.Forwards call)
    (busy : relay.stage = .dialling ∨ ∃ data, relay.stage = .writing data) :
    relay.clientClosed = false := by
  cases closed : relay.clientClosed with
  | false => rfl
  | true =>
      obtain ⟨-, -, dialling, writing, -⟩ := forwards.closed closed
      rcases busy with busy | ⟨data, busy⟩
      · exact absurd busy dialling
      · exact absurd busy (writing data)

theorem give (forwards : relay.Forwards call) (data : List UInt8) :
    (relay.give data).Forwards call := by
  unfold Relay.give
  split
  · rename_i connected
    cases sent : relay.clientRx.trySend data with
    | error reason => exact forwards
    | ok clientRx =>
        obtain ⟨queue, alive⟩ := Channel.trySend_eq_ok sent
        have longer : (relay.given ++ [data]).flatten = relay.given.flatten ++ data := by simp
        refine ⟨?_, ?_, ?_, ?_, ?_, forwards.stopped⟩
        · rw [longer, ← List.append_assoc]
          exact forwards.within.trans (List.prefix_append _ _)
        · intro running
          rw [longer, ← List.append_assoc, ← forwards.whole running, queue]
          simp
        · intro stage
          exact absurd connected (by simp [(forwards.closing stage).1])
        · intro closed
          exact absurd connected (by simp [(forwards.closed closed).1])
        · exact fun open_ => alive.trans (forwards.alive open_)
  · exact forwards

/-- The task goes on to another call with nothing in its hands. -/
theorem turn (forwards : relay.Forwards call) (stage : RelayStage)
    (free : relay.stage.hand call = []) (idle : stage.hand call = [])
    (elsewhere : stage ≠ .dialling ∧ (∀ data, stage ≠ .writing data) ∧ stage ≠ .shuttingDown)
    (alive : relay.clientRx.receiverAlive = true) (running : relay.failed = false) :
    { relay with stage := stage }.Forwards call where
  within := forwards.within
  whole := by
    intro running
    rw [← forwards.whole running, free, idle]
  closing := fun closing => absurd closing elsewhere.2.2
  closed := by
    intro closed
    obtain ⟨apart, empty, -, -, all⟩ := forwards.closed closed
    exact ⟨apart, empty, elsewhere.1, elsewhere.2.1, all⟩
  alive := fun _ => alive
  stopped := fun failed => absurd failed (by simp [running])

theorem fail (forwards : relay.Forwards call) (alive : relay.clientRx.receiverAlive = true) :
    relay.fail.Forwards call where
  within := forwards.within
  whole := fun failed => by cases failed
  closing := fun stage => by cases stage
  closed := by
    intro closed
    obtain ⟨apart, empty, -, -, all⟩ := forwards.closed closed
    exact ⟨apart, empty, by simp [Relay.fail], by simp [Relay.fail], all⟩
  alive := fun _ => alive
  stopped := fun _ => .inl rfl

theorem leave (forwards : relay.Forwards call) (free : relay.stage.hand call = []) :
    relay.leave.Forwards call where
  within := forwards.within
  whole := by
    intro running
    have before := forwards.whole running
    rwa [free] at before
  closing := fun stage => by cases stage
  closed := by
    intro closed
    obtain ⟨apart, empty, -, -, all⟩ := forwards.closed closed
    exact ⟨apart, empty, by simp [Relay.leave], by simp [Relay.leave], all⟩
  alive := fun stage => absurd rfl stage
  stopped := fun _ => .inr rfl

theorem continueLoop (forwards : relay.Forwards call) (free : relay.stage.hand call = [])
    (alive : relay.clientRx.receiverAlive = true) (running : relay.failed = false) :
    relay.continueLoop.Forwards call := by
  unfold Relay.continueLoop
  split
  · exact forwards.leave free
  · exact forwards.turn .selecting free rfl (by simp) alive running

theorem dial (forwards : relay.Forwards call) (dialling : relay.stage = .dialling)
    (answer : Except Error Unit) : (relay.dial call answer).Forwards call := by
  have alive := forwards.alive (by simp [dialling])
  have running := forwards.running (by simp [dialling]) (by simp [dialling])
  have unclosed := forwards.unclosed (.inl dialling)
  have logged : { relay with dialled := relay.dialled ++ [call.session] }.Forwards call :=
    { forwards with }
  have account := forwards.whole running
  rw [dialling] at account
  unfold Relay.dial
  cases answer with
  | error reason => exact logged.fail alive
  | ok done =>
      simp only
      split
      · rename_i empty
        exact logged.turn .selecting (by simp [dialling, RelayStage.hand, empty]) rfl (by simp)
          alive running
      · exact .of_open account unclosed running (by simp) alive

theorem wrote (forwards : relay.Forwards call) {data : List UInt8}
    (writing : relay.stage = .writing data) (answer : WriteAnswer) :
    (relay.wrote data answer).Forwards call := by
  have alive := forwards.alive (by simp [writing])
  have running := forwards.running (by simp [writing]) (by simp [writing])
  have unclosed := forwards.unclosed (.inr ⟨data, writing⟩)
  have account := forwards.whole running
  rw [writing] at account
  simp only [RelayStage.hand] at account
  cases answer with
  | whole =>
      refine .of_open ?_ unclosed running (by simp [Relay.wrote]) alive
      simpa [Relay.wrote, RelayStage.hand] using account
  | failed taken =>
      have partly : { relay with written := relay.written ++ data.take taken }.fail.written <+:
          call.initial ++ relay.given.flatten := by
        rw [← account]
        exact ((List.prefix_append_right_inj _).mpr (List.take_prefix taken data)).trans
          (List.prefix_append _ _)
      constructor
      case within => exact partly
      case whole => simp [Relay.wrote, Relay.fail]
      case closing => simp [Relay.wrote, Relay.fail]
      case closed => simp [Relay.wrote, Relay.fail, unclosed]
      case alive => exact fun _ => alive
      case stopped => exact fun _ => .inl rfl

theorem readRemote (forwards : relay.Forwards call) (selecting : relay.stage = .selecting)
    (read : Option (Except Error (List UInt8))) : (relay.readRemote call read).Forwards call := by
  have alive := forwards.alive (by simp [selecting])
  have running := forwards.running (by simp [selecting]) (by simp [selecting])
  unfold Relay.readRemote
  split
  · exact forwards
  · split
    · exact forwards
    · split
      · exact forwards.fail alive
      · rename_i data
        have turned := forwards.turn (.sending (.data call.streamId data (decide (data = []))))
          (by rw [selecting]; rfl) rfl (by simp) alive running
        exact { turned with }

theorem poll (forwards : relay.Forwards call) (selecting : relay.stage = .selecting)
    (read : Option (Except Error (List UInt8))) : (relay.poll call read).Forwards call := by
  have alive := forwards.alive (by simp [selecting])
  have running := forwards.running (by simp [selecting]) (by simp [selecting])
  have account := forwards.whole running
  rw [selecting] at account
  simp only [RelayStage.hand, List.append_nil] at account
  unfold Relay.poll
  split
  · exact forwards.readRemote selecting read
  · rename_i unclosed
    split
    · rename_i data rest queue
      obtain ⟨shorter, still⟩ := Channel.recv_of_alive alive
      refine .of_open ?_ (by simpa using unclosed) running (by simp) still
      rw [← account, shorter, queue]
      simp [RelayStage.hand]
    · rename_i empty
      split
      · exact forwards.readRemote selecting read
      · rename_i apart
        exact ⟨forwards.within, fun _ => by simpa [RelayStage.hand] using account,
          fun _ => ⟨by simpa using apart, empty⟩, fun closed => absurd closed unclosed,
          fun _ => alive, fun failed => absurd failed (by simp [running])⟩

theorem shutdown (forwards : relay.Forwards call) (closing : relay.stage = .shuttingDown)
    (answer : Except Error Unit) : (relay.shutdown answer).Forwards call := by
  have alive := forwards.alive (by simp [closing])
  have running := forwards.running (by simp [closing]) (by simp [closing])
  obtain ⟨apart, empty⟩ := forwards.closing closing
  have account := forwards.whole running
  rw [closing, empty] at account
  simp only [RelayStage.hand, List.append_nil, List.flatten_nil] at account
  cases answer with
  | error reason => exact forwards.fail alive
  | ok done =>
      have closed : { relay with clientClosed := true }.Forwards call :=
        ⟨forwards.within, forwards.whole, forwards.closing,
          fun _ => ⟨apart, empty, by simp [closing], by simp [closing], account⟩, forwards.alive,
          forwards.stopped⟩
      exact closed.continueLoop (by rw [closing]; rfl) alive running

theorem sent (forwards : relay.Forwards call) {write : QuicWrite}
    (sending : relay.stage = .sending write) : (relay.sent write).Forwards call := by
  have alive := forwards.alive (by simp [sending])
  have running := forwards.running (by simp [sending]) (by simp [sending])
  unfold Relay.sent
  split
  · have queued : { relay with queued := relay.queued ++ [write] }.Forwards call :=
      { forwards with }
    exact queued.continueLoop (by rw [sending]; rfl) alive running
  · exact forwards.fail alive

theorem report (forwards : relay.Forwards call) (reporting : relay.stage = .reporting) :
    (relay.report call).Forwards call := by
  have left := forwards.leave (by rw [reporting]; rfl)
  unfold Relay.report
  split
  · exact { left with }
  · exact left

theorem step (forwards : relay.Forwards call) (event : RelayEvent) :
    (relay.step call event).Forwards call := by
  unfold Relay.step
  split
  · exact forwards.give _
  · refine ⟨forwards.within, forwards.whole, fun stage => ?_, fun closed => ?_, forwards.alive,
      forwards.stopped⟩
    · exact ⟨rfl, (forwards.closing stage).2⟩
    · exact ⟨rfl, (forwards.closed closed).2⟩
  · exact { forwards with }
  · rename_i dialling
    exact forwards.dial dialling _
  · rename_i writing
    exact forwards.wrote writing _
  · rename_i selecting
    exact forwards.poll selecting _
  · rename_i closing
    exact forwards.shutdown closing _
  · rename_i sending
    exact forwards.sent sending
  · rename_i reporting
    exact forwards.report reporting
  · exact forwards

end Relay.Forwards

/-- The write that the task waits to queue. -/
def RelayStage.outgoing : RelayStage → List QuicWrite
  | .sending write => [write]
  | _ => []

/-- What the pieces read from the target are to the client, with the target's end. -/
def answerWrites (streamId : UInt64) (pieces : List (List UInt8)) (ended : Bool) :
    List QuicWrite :=
  pieces.map (fun piece => .data streamId piece false) ++
    if ended then [.data streamId [] true] else []

/-- What concerns the way to the client. -/
def Relay.answering (relay : Relay) : List QuicWrite × Bool × Bool × Bool × Bool × Bool × Bool ×
    List UInt8 × List QuicWrite :=
  (relay.stage.outgoing, decide (relay.stage = .ended), decide (relay.stage = .reporting),
    relay.failed, relay.quicAlive, relay.clientClosed, relay.remoteClosed, relay.read,
    relay.queued)

/-- The pieces are queued in order and the end behind them; only a connection that
has gone loses any.  The task ends when both sides have, or with a `Close`. -/
structure Relay.Answers (call : RelayCall) (relay : Relay) (pieces : List (List UInt8)) :
    Prop where
  nonempty : ∀ piece ∈ pieces, piece ≠ []
  read : pieces.flatten = relay.read
  whole : relay.failed = false → relay.queued ++ relay.stage.outgoing =
    answerWrites call.streamId pieces relay.remoteClosed
  within : relay.failed = true → relay.queued <+:
    answerWrites call.streamId pieces relay.remoteClosed ++ [.close call.streamId]
  told : relay.failed = true → relay.quicAlive = true → relay.queued =
    answerWrites call.streamId pieces relay.remoteClosed ++
      if relay.stage = .ended then [.close call.streamId] else []
  ended : relay.stage = .ended →
    relay.failed = true ∨ relay.clientClosed = true ∧ relay.remoteClosed = true
  stopped : relay.failed = true → relay.stage = .reporting ∨ relay.stage = .ended
  reports : relay.stage = .reporting → relay.failed = true

namespace Relay.Answers

variable {call : RelayCall} {relay : Relay} {pieces : List (List UInt8)}

theorem new (call : RelayCall) (connected : Bool) : (Relay.new connected).Answers call [] where
  nonempty := by simp
  read := rfl
  whole := fun _ => rfl
  within := fun failed => by cases failed
  told := fun failed => by cases failed
  ended := fun stage => by cases stage
  stopped := fun failed => by cases failed
  reports := fun stage => by cases stage

theorem running (answers : relay.Answers call pieces) (reporting : relay.stage ≠ .reporting)
    (ended : relay.stage ≠ .ended) : relay.failed = false := by
  cases failed : relay.failed with
  | false => rfl
  | true => exact ((answers.stopped failed).elim reporting ended).elim

/-- A task that has not failed and has queued what it has read. -/
theorem of_running (nonempty : ∀ piece ∈ pieces, piece ≠ []) (read : pieces.flatten = relay.read)
    (running : relay.failed = false)
    (whole : relay.queued ++ relay.stage.outgoing =
      answerWrites call.streamId pieces relay.remoteClosed)
    (ended : relay.stage = .ended → relay.clientClosed = true ∧ relay.remoteClosed = true)
    (elsewhere : relay.stage ≠ .reporting) :
    relay.Answers call pieces where
  nonempty := nonempty
  read := read
  whole := fun _ => whole
  within := fun failed => absurd failed (by simp [running])
  told := fun failed => absurd failed (by simp [running])
  ended := fun stage => .inr (ended stage)
  stopped := fun failed => absurd failed (by simp [running])
  reports := fun stage => absurd stage elsewhere

theorem fail (answers : relay.Answers call pieces) (running : relay.failed = false)
    (silent : relay.stage.outgoing = [] ∨ relay.quicAlive = false) :
    relay.fail.Answers call pieces where
  nonempty := answers.nonempty
  read := answers.read
  whole := fun failed => by cases failed
  within := by
    intro _
    have whole := answers.whole running
    exact List.IsPrefix.trans ⟨_, whole⟩ (List.prefix_append _ _)
  told := by
    intro _ alive
    rcases silent with silent | gone
    · have whole := answers.whole running
      rw [silent, List.append_nil] at whole
      simpa [Relay.fail] using whole
    · exact absurd alive (by simp [Relay.fail, gone])
  ended := fun stage => by cases stage
  stopped := fun _ => .inl rfl
  reports := fun _ => rfl

/-- Whatever the task has to do with the client's bytes. -/
theorem aside (answers : relay.Answers call pieces) {after : Relay}
    (same : after.answering = relay.answering) : after.Answers call pieces := by
  simp only [Relay.answering, Prod.mk.injEq, decide_eq_decide] at same
  obtain ⟨outgoing, ended, reporting, failed, alive, client, remote, read, queued⟩ := same
  constructor
  case nonempty => exact answers.nonempty
  case read => rw [read, answers.read]
  case whole => rw [failed, queued, outgoing, remote]; exact answers.whole
  case within => rw [failed, queued, remote]; exact answers.within
  case told => simp only [failed, alive, queued, remote, ended]; exact answers.told
  case ended => rw [ended, failed, client, remote]; exact answers.ended
  case stopped => rw [failed, ended, reporting]; exact answers.stopped
  case reports => rw [failed, reporting]; exact answers.reports

theorem continueLoop (nonempty : ∀ piece ∈ pieces, piece ≠ [])
    (read : pieces.flatten = relay.read) (running : relay.failed = false)
    (whole : relay.queued = answerWrites call.streamId pieces relay.remoteClosed) :
    relay.continueLoop.Answers call pieces := by
  unfold Relay.continueLoop
  split
  · rename_i both
    exact .of_running nonempty read running
      (by simpa [Relay.leave, RelayStage.outgoing] using whole) (fun _ => both)
      (by simp [Relay.leave])
  · exact .of_running nonempty read running (by simpa [RelayStage.outgoing] using whole)
      (by simp) (by simp)

theorem give (answers : relay.Answers call pieces) (data : List UInt8) :
    (relay.give data).Answers call pieces := by
  unfold Relay.give
  split
  · split
    · exact answers.aside rfl
    · exact answers
  · exact answers

theorem dial (answers : relay.Answers call pieces) (dialling : relay.stage = .dialling)
    (answer : Except Error Unit) : (relay.dial call answer).Answers call pieces := by
  have running := answers.running (by simp [dialling]) (by simp [dialling])
  unfold Relay.dial
  cases answer with
  | error reason =>
      have logged : { relay with dialled := relay.dialled ++ [call.session] }.Answers call pieces :=
        answers.aside rfl
      exact logged.fail running (.inl (by rw [dialling]; rfl))
  | ok done =>
      simp only
      split
      · exact answers.aside (by simp [Relay.answering, RelayStage.outgoing, dialling])
      · exact answers.aside (by simp [Relay.answering, RelayStage.outgoing, dialling])

theorem wrote (answers : relay.Answers call pieces) {data : List UInt8}
    (writing : relay.stage = .writing data) (answer : WriteAnswer) :
    (relay.wrote data answer).Answers call pieces := by
  have running := answers.running (by simp [writing]) (by simp [writing])
  cases answer with
  | whole =>
      exact answers.aside (by simp [Relay.wrote, Relay.answering, RelayStage.outgoing, writing])
  | failed taken =>
      have logged :
          { relay with written := relay.written ++ data.take taken }.Answers call pieces :=
        answers.aside rfl
      exact logged.fail running (.inl (by rw [writing]; rfl))

/-- A read adds a piece, or the end once there are no more pieces. -/
theorem readRemote (answers : relay.Answers call pieces) (selecting : relay.stage = .selecting)
    (read : Option (Except Error (List UInt8))) :
    ∃ pieces, (relay.readRemote call read).Answers call pieces := by
  have running := answers.running (by simp [selecting]) (by simp [selecting])
  have whole := answers.whole running
  rw [selecting] at whole
  unfold Relay.readRemote
  split
  · exact ⟨pieces, answers⟩
  · split
    · exact ⟨pieces, answers⟩
    · rename_i remote
      rw [Bool.not_eq_true] at remote
      rw [remote] at whole
      simp only [RelayStage.outgoing, answerWrites, Bool.false_eq_true, if_false,
        List.append_nil] at whole
      split
      · exact ⟨pieces, answers.fail running (.inl (by rw [selecting]; rfl))⟩
      · rename_i data
        by_cases empty : data = []
        · subst empty
          refine ⟨pieces, .of_running answers.nonempty ?_ running ?_ (by simp) (by simp)⟩
          · simpa using answers.read
          · simp [RelayStage.outgoing, answerWrites, whole]
        · refine ⟨pieces ++ [data], .of_running ?_ ?_ running ?_ (by simp) (by simp)⟩
          · intro piece member
            rcases List.mem_append.mp member with earlier | last
            · exact answers.nonempty piece earlier
            · exact List.mem_singleton.mp last ▸ empty
          · simp [answers.read]
          · simp [RelayStage.outgoing, answerWrites, whole, empty]

theorem poll (answers : relay.Answers call pieces) (selecting : relay.stage = .selecting)
    (read : Option (Except Error (List UInt8))) :
    ∃ pieces, (relay.poll call read).Answers call pieces := by
  unfold Relay.poll
  split
  · exact answers.readRemote selecting read
  · split
    · exact ⟨pieces, answers.aside (by simp [Relay.answering, RelayStage.outgoing, selecting])⟩
    · split
      · exact answers.readRemote selecting read
      · exact ⟨pieces, answers.aside (by simp [Relay.answering, RelayStage.outgoing, selecting])⟩

theorem shutdown (answers : relay.Answers call pieces) (closing : relay.stage = .shuttingDown)
    (answer : Except Error Unit) : (relay.shutdown answer).Answers call pieces := by
  have running := answers.running (by simp [closing]) (by simp [closing])
  have whole := answers.whole running
  rw [closing] at whole
  cases answer with
  | error reason => exact answers.fail running (.inl (by rw [closing]; rfl))
  | ok done =>
      exact continueLoop answers.nonempty answers.read running
        (by simpa [RelayStage.outgoing] using whole)

theorem sent (answers : relay.Answers call pieces) {write : QuicWrite}
    (sending : relay.stage = .sending write) : (relay.sent write).Answers call pieces := by
  have running := answers.running (by simp [sending]) (by simp [sending])
  have whole := answers.whole running
  rw [sending] at whole
  unfold Relay.sent
  split
  · exact continueLoop answers.nonempty answers.read running whole
  · rename_i gone
    exact answers.fail running (.inr (by simpa using gone))

theorem report (answers : relay.Answers call pieces) (reporting : relay.stage = .reporting) :
    (relay.report call).Answers call pieces := by
  have failed := answers.reports reporting
  have within := answers.within failed
  have told := answers.told failed
  simp only [reporting, reduceCtorEq, if_false, List.append_nil] at told
  unfold Relay.report
  split
  · rename_i alive
    have queued : relay.queued ++ [.close call.streamId] =
        answerWrites call.streamId pieces relay.remoteClosed ++ [.close call.streamId] := by
      rw [told alive]
    exact ⟨answers.nonempty, answers.read, fun running => absurd failed (by simp_all [Relay.leave]),
      fun _ => queued ▸ List.prefix_rfl, fun _ _ => by simpa [Relay.leave] using queued,
      fun _ => .inl failed, fun _ => .inr rfl, fun _ => failed⟩
  · rename_i gone
    exact ⟨answers.nonempty, answers.read, fun running => absurd failed (by simp_all [Relay.leave]),
      fun _ => within, fun _ alive => absurd alive gone, fun _ => .inl failed, fun _ => .inr rfl,
      fun _ => failed⟩

theorem step (answers : relay.Answers call pieces) (event : RelayEvent) :
    ∃ pieces, (relay.step call event).Answers call pieces := by
  unfold Relay.step
  split
  · exact ⟨pieces, answers.give _⟩
  · exact ⟨pieces, answers.aside rfl⟩
  · exact ⟨pieces, answers.nonempty, answers.read, answers.whole, answers.within,
      fun _ alive => (by cases alive), answers.ended, answers.stopped, answers.reports⟩
  · rename_i dialling
    exact ⟨pieces, answers.dial dialling _⟩
  · rename_i writing
    exact ⟨pieces, answers.wrote writing _⟩
  · rename_i selecting
    exact answers.poll selecting _
  · rename_i closing
    exact ⟨pieces, answers.shutdown closing _⟩
  · rename_i sending
    exact ⟨pieces, answers.sent sending⟩
  · rename_i reporting
    exact ⟨pieces, answers.report reporting⟩
  · exact ⟨pieces, answers⟩

end Relay.Answers

/-- A call of the task fails, or the connection goes away. -/
def RelayEvent.Fails : RelayEvent → Prop
  | .quicEnds => True
  | .dial answer => answer ≠ .ok ()
  | .wrote answer => answer ≠ .whole
  | .poll read => ∃ reason, read = some (.error reason)
  | .shutdown answer => answer ≠ .ok ()
  | .give _ | .hangUp | .sent => False

/-- Nothing has gone wrong so far. -/
def Relay.Fine (relay : Relay) : Prop :=
  relay.failed = false ∧ relay.quicAlive = true ∧ relay.stage ≠ .reporting

namespace Relay.Fine

variable {call : RelayCall} {relay : Relay}

theorem continueLoop (fine : relay.Fine) : relay.continueLoop.Fine := by
  unfold Relay.continueLoop
  split
  · exact ⟨fine.1, fine.2.1, by simp [Relay.leave]⟩
  · exact ⟨fine.1, fine.2.1, by simp⟩

theorem readRemote (fine : relay.Fine) {read : Option (Except Error (List UInt8))}
    (sound : ¬ ∃ reason, read = some (.error reason)) : (relay.readRemote call read).Fine := by
  unfold Relay.readRemote
  split
  · exact fine
  · split
    · exact fine
    · split
      · rename_i reason
        exact absurd ⟨reason, rfl⟩ sound
      · exact ⟨fine.1, fine.2.1, by simp⟩

theorem step (fine : relay.Fine) {event : RelayEvent} (sound : ¬ event.Fails) :
    (relay.step call event).Fine := by
  unfold Relay.step
  split
  · unfold Relay.give
    split
    · split
      · exact fine
      · exact fine
    · exact fine
  · exact fine
  · exact absurd trivial sound
  · rename_i answer _
    cases answer with
    | error reason => exact absurd (by simp [RelayEvent.Fails]) sound
    | ok done =>
        simp only [Relay.dial]
        split
        · exact ⟨fine.1, fine.2.1, by simp⟩
        · exact ⟨fine.1, fine.2.1, by simp⟩
  · rename_i answer data _
    cases answer with
    | whole => exact ⟨fine.1, fine.2.1, by simp [Relay.wrote]⟩
    | failed taken => exact absurd (by simp [RelayEvent.Fails]) sound
  · unfold Relay.poll
    split
    · exact fine.readRemote sound
    · split
      · exact ⟨fine.1, fine.2.1, by simp⟩
      · split
        · exact fine.readRemote sound
        · exact ⟨fine.1, fine.2.1, by simp⟩
  · rename_i answer _
    cases answer with
    | error reason => exact absurd (by simp [RelayEvent.Fails]) sound
    | ok done =>
        have closed : { relay with clientClosed := true }.Fine := fine
        exact closed.continueLoop
  · rename_i write _
    have queued : { relay with queued := relay.queued ++ [write] }.Fine := fine
    unfold Relay.sent
    rw [if_pos fine.2.1]
    exact queued.continueLoop
  · rename_i reporting
    exact absurd reporting fine.2.2
  · exact fine

end Relay.Fine

/-- Whatever happens, the outbound gets the client's bytes in order and its end only
behind the last of them, and the client is queued the target's bytes and then its
end.  As long as no call fails, the task ends only when both sides have. -/
theorem relay_carries_both_ways (call : RelayCall) (connected : Bool) (events : List RelayEvent) :
    let relay := (relayMachine call).run (.new connected) events
    (relay.written <+: call.initial ++ relay.given.flatten ∧
      (relay.clientClosed = true →
        relay.connected = false ∧ relay.written = call.initial ++ relay.given.flatten)) ∧
    (∃ pieces : List (List UInt8), (∀ piece ∈ pieces, piece ≠ []) ∧ pieces.flatten = relay.read ∧
      let answers := answerWrites call.streamId pieces relay.remoteClosed ++
        if relay.failed then [.close call.streamId] else []
      relay.queued <+: answers ∧
        (relay.stage = .ended → relay.quicAlive = true → relay.queued = answers)) ∧
    ((∀ event ∈ events, ¬ event.Fails) → relay.failed = false ∧
      (relay.stage = .ended → relay.clientClosed = true ∧ relay.remoteClosed = true)) := by
  intro relay
  have forwards : relay.Forwards call :=
    (relayMachine call).run_invariant (fun _ event kept => kept.step event) (.new call connected)
      events
  have step : ∀ (state : Relay) (event : RelayEvent), (∃ pieces, state.Answers call pieces) →
      ∃ pieces, ((relayMachine call).next state event).Answers call pieces := by
    intro state event kept
    obtain ⟨pieces, answers⟩ := kept
    exact answers.step event
  obtain ⟨pieces, answers⟩ : ∃ pieces, relay.Answers call pieces :=
    (relayMachine call).run_invariant step ⟨[], .new call connected⟩ events
  refine ⟨⟨forwards.within, fun closed => ?_⟩, ⟨pieces, answers.nonempty, answers.read, ?_⟩, ?_⟩
  · obtain ⟨apart, -, -, -, all⟩ := forwards.closed closed
    exact ⟨apart, all⟩
  · cases failed : relay.failed with
    | false =>
        have whole := answers.whole failed
        simp only [Bool.false_eq_true, if_false, List.append_nil]
        refine ⟨⟨_, whole⟩, fun ended _ => ?_⟩
        rw [ended] at whole
        simpa [RelayStage.outgoing] using whole
    | true =>
        simp only [if_true]
        refine ⟨answers.within failed, fun ended alive => ?_⟩
        have told := answers.told failed alive
        rwa [if_pos ended] at told
  · intro sound
    have fine : relay.Fine :=
      (relayMachine call).run_invariant_of_forall (fun _ _ sound kept => kept.step sound)
        ⟨rfl, rfl, by simp [Relay.new]⟩ sound
    exact ⟨fine.1, fun ended => (answers.ended ended).resolve_left (by simp [fine.1])⟩

def sampleCall : RelayCall where
  session := ⟨"in", .connect, .ip (.v4 loopback 80)⟩
  streamId := 0
  initial := [1]

/-- The client ends its stream before the target has answered. -/
def halfClosed : List RelayEvent :=
  [.give [2, 3], .dial (.ok ()), .wrote .whole, .poll none, .wrote .whole, .hangUp, .poll none,
    .shutdown (.ok ()), .poll (some (.ok [7])), .sent, .poll (some (.ok [])), .sent]

/-- The answer still arrives. -/
theorem half_closed_relay_answers :
    let relay := (relayMachine sampleCall).run (.new true) halfClosed
    relay.written = [1, 2, 3] ∧ relay.queued = [.data 0 [7] false, .data 0 [] true] := by
  obtain ⟨⟨-, up⟩, -, -⟩ := relay_carries_both_ways sampleCall true halfClosed
  exact ⟨(up (by decide)).2.trans (by decide), by decide⟩

end Rtunnel.Tuic.Inbound
