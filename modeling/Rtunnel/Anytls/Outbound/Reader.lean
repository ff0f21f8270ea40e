import Mathlib.Data.List.TakeWhile
import Rtunnel.Anytls.PaddingScheme
import Rtunnel.Data.KeyedMap
import Rtunnel.Data.Machine
import Rtunnel.Data.Mailbox

namespace Rtunnel.Anytls.Outbound

open Rtunnel.Data

/-! The reading half of a client session.

One task reads the frames of a session and hands their data to the channels of
the streams; it waits while the channel of a stream is full.  Each stream has a
task of its own that writes to the application what comes out of the channel.
Both, the dials, the applications' closing and the session's shutdown share the
map of streams.  An event is one access of one of them; the map holds for each
stream the place of its dial among all dials.
-/

/-- The task that writes a stream's data to its application; before it starts,
the dial writes the connect frames. -/
inductive WriterTask where
  | dialling
  | receiving
  | writing (data : List UInt8)
  | shutdown
  | removing
  | ended
deriving DecidableEq

namespace WriterTask

/-- What was taken out of the channel and is not written yet. -/
def hand : WriterTask → List (List UInt8)
  | .writing data => [data]
  | _ => []

/-- The task will write no more. -/
def Left : WriterTask → Prop
  | .shutdown => True
  | .removing => True
  | .ended => True
  | _ => False

end WriterTask

/-- A dialled stream as far as its answers matter.  `failed` records that its
dial or a write to its application failed, `born` how many frames had been read
when it was entered in the map. -/
structure Inlet where
  streamId : UInt32
  mailbox : Mailbox (List UInt8)
  task : WriterTask
  written : List (List UInt8)
  failed : Bool
  born : Nat

def channelCapacity : Nat := 32

def Inlet.new (streamId : UInt32) (born : Nat) : Inlet where
  streamId := streamId
  mailbox := .bounded channelCapacity
  task := .dialling
  written := []
  failed := false
  born := born

/-- The frame reader: between two frames, or in the middle of one. -/
inductive ReaderTask where
  | reading
  | sending (index : Nat) (streamId : UInt32)
  | removing (streamId : UInt32)
  | closing
  | exited
deriving DecidableEq

namespace ReaderTask

/-- The reader holds a sender of this channel. -/
def sendsTo (index : Nat) : ReaderTask → Bool
  | .sending other _ => decide (other = index)
  | _ => false

def InLoop (reader : ReaderTask) : Prop := reader ≠ .closing ∧ reader ≠ .exited

end ReaderTask

structure Downlink where
  streams : KeyedMap UInt32 Nat
  inlets : List Inlet
  reader : ReaderTask
  state : ClientState
  replies : List Frame
  log : List Frame

inductive DownlinkEvent where
  | insert (streamId : UInt32)
  | dialled (index : Nat) (connected : Bool)
  | frame (frame : Frame)
  | readFails
  | reader
  | receive (index : Nat)
  | write (index : Nat) (taken : Bool)
  | finish (index : Nat)
  | closeStream (streamId : UInt32)
  | clearStreams

namespace Downlink

def new (state : ClientState) : Downlink where
  streams := ∅
  inlets := []
  reader := .reading
  state := state
  replies := []
  log := []

def removeStream (down : Downlink) (streamId : UInt32) : Downlink :=
  { down with streams := down.streams.erase streamId }

def clearStreams (down : Downlink) : Downlink := { down with streams := ∅ }

def change (down : Downlink) (index : Nat) (inlet : Inlet) : Downlink :=
  { down with inlets := down.inlets.set index inlet }

/-- `dial` enters its channel in the map. -/
def insert (down : Downlink) (streamId : UInt32) : Downlink :=
  { down with
    streams := down.streams.insert streamId down.inlets.length
    inlets := down.inlets ++ [.new streamId down.log.length] }

/-- Data for a stream: the reader clones the sender and waits for room. -/
def offer (down : Downlink) (index : Nat) (frame : Frame) : Downlink :=
  match down.inlets[index]? with
  | none => down
  | some inlet =>
      { down.change index { inlet with mailbox := inlet.mailbox.send frame.data } with
        reader := .sending index frame.streamId }

def handleFrame (upstream : PaddingUpstream) (down : Downlink) (frame : Frame) : Downlink :=
  let down := { down with log := down.log ++ [frame] }
  match frame.command with
  | .psh =>
      match down.streams.lookup frame.streamId with
      | some index => down.offer index frame
      | none => down
  | .fin => down.removeStream frame.streamId
  | .synack => if frame.data = [] then down else down.removeStream frame.streamId
  | .heartRequest =>
      { down with
        replies := down.replies ++ [⟨.heartResponse, frame.streamId, [], Nat.zero_le _⟩] }
  | .updatePaddingScheme =>
      { down with state := down.state.updatePaddingScheme upstream frame.data }
  | .alert => { down with reader := .closing }
  | _ => down

/-- The reader's next access after it has read a frame or has left its loop. -/
def continueReader (down : Downlink) : Downlink :=
  match down.reader with
  | .reading => down
  | .sending index streamId =>
      match down.inlets[index]? with
      | none => down
      | some inlet =>
          if inlet.mailbox.receiverAlive = false then { down with reader := .removing streamId }
          else if inlet.mailbox.HasRoom then
            { down.change index { inlet with mailbox := inlet.mailbox.letIn } with
              reader := .reading }
          else down
  | .removing streamId => { down.removeStream streamId with reader := .reading }
  | .closing => { down.clearStreams with reader := .exited }
  | .exited => down

/-- Some sender of the channel is alive: the map's or the reader's. -/
def hasSender (down : Downlink) (index : Nat) (inlet : Inlet) : Bool :=
  decide (down.streams.lookup inlet.streamId = some index) || down.reader.sendsTo index

/-- The end of the dial: with the connect frames written the writer task starts,
otherwise the channel is dropped. -/
def dialled (down : Downlink) (index : Nat) (inlet : Inlet) (connected : Bool) : Downlink :=
  match inlet.task with
  | .dialling =>
      if connected then down.change index { inlet with task := .receiving }
      else down.change index { inlet with
        mailbox := inlet.mailbox.dropReceiver
        task := .ended
        failed := true }
  | _ => down

def receive (down : Downlink) (index : Nat) (inlet : Inlet) : Downlink :=
  match inlet.task, inlet.mailbox.queue with
  | .receiving, data :: _ =>
      down.change index { inlet with mailbox := inlet.mailbox.recv, task := .writing data }
  | .receiving, [] =>
      if down.hasSender index inlet then down
      else down.change index { inlet with task := .shutdown }
  | _, _ => down

def write (down : Downlink) (index : Nat) (inlet : Inlet) (taken : Bool) : Downlink :=
  match inlet.task with
  | .writing data =>
      if taken then
        down.change index { inlet with written := inlet.written ++ [data], task := .receiving }
      else down.change index { inlet with failed := true, task := .shutdown }
  | _ => down

/-- The end of the writer task: it shuts down the application's side, removes the
stream and drops the channel. -/
def finish (down : Downlink) (index : Nat) (inlet : Inlet) : Downlink :=
  match inlet.task with
  | .shutdown => down.change index { inlet with task := .removing }
  | .removing =>
      (down.removeStream inlet.streamId).change index { inlet with
        mailbox := inlet.mailbox.dropReceiver
        task := .ended }
  | _ => down

/-- An access of the task or the dial of one stream. -/
def onInlet (down : Downlink) (index : Nat) (access : Inlet → Downlink) : Downlink :=
  match down.inlets[index]? with
  | none => down
  | some inlet => access inlet

def step (upstream : PaddingUpstream) (down : Downlink) : DownlinkEvent → Downlink
  | .insert streamId => down.insert streamId
  | .dialled index connected => down.onInlet index (down.dialled index · connected)
  | .frame frame => if down.reader = .reading then down.handleFrame upstream frame else down
  | .readFails => if down.reader = .reading then { down with reader := .closing } else down
  | .reader => down.continueReader
  | .receive index => down.onInlet index (down.receive index ·)
  | .write index taken => down.onInlet index (down.write index · taken)
  | .finish index => down.onInlet index (down.finish index ·)
  | .closeStream streamId => down.removeStream streamId
  | .clearStreams => down.clearStreams

end Downlink

def downlinkMachine (upstream : PaddingUpstream) : Machine Downlink DownlinkEvent Unit :=
  ⟨fun down event => (down.step upstream event, ())⟩

/-- The server ends a stream with a FIN or a SYNACK that holds a message. -/
def endsStream (streamId : UInt32) (frame : Frame) : Bool :=
  decide (frame.streamId = streamId ∧
    (frame.command = .fin ∨ frame.command = .synack ∧ frame.data ≠ []))

def carriesFor (streamId : UInt32) (frame : Frame) : Bool :=
  decide (frame.streamId = streamId ∧ frame.command = .psh)

def dataFor (streamId : UInt32) (read : List Frame) : List (List UInt8) :=
  (read.filter (carriesFor streamId)).map Frame.data

/-- The data of a stream up to its end. -/
def heard (streamId : UInt32) (read : List Frame) : List (List UInt8) :=
  dataFor streamId (read.takeWhile fun frame => !endsStream streamId frame)

section Heard

variable {streamId : UInt32} {read : List Frame} {frame : Frame}

theorem dataFor_append (first second : List Frame) :
    dataFor streamId (first ++ second) = dataFor streamId first ++ dataFor streamId second := by
  simp only [dataFor, List.filter_append, List.map_append]

theorem not_endsStream_of_carriesFor (carries : carriesFor streamId frame = true) :
    endsStream streamId frame = false := by
  simp only [carriesFor, decide_eq_true_eq] at carries
  simp [endsStream, carries.2]

theorem heard_eq_dataFor (unended : ∀ other ∈ read, endsStream streamId other = false) :
    heard streamId read = dataFor streamId read := by
  have whole : read.takeWhile (fun frame => !endsStream streamId frame) = read :=
    List.takeWhile_eq_self_iff.mpr fun other member => by simp [unended other member]
  rw [heard, whole]

theorem heard_append_of_ended (ended : ∃ other ∈ read, endsStream streamId other = true)
    (later : List Frame) : heard streamId (read ++ later) = heard streamId read := by
  obtain ⟨other, member, ends⟩ := ended
  rw [heard, heard, List.takeWhile_append, if_neg]
  intro whole
  have same := (List.takeWhile_sublist fun frame => !endsStream streamId frame).eq_of_length whole
  have unended := List.takeWhile_eq_self_iff.mp same other member
  simp [ends] at unended

theorem heard_append_of_unended (unended : ∀ other ∈ read, endsStream streamId other = false)
    (later : List Frame) :
    heard streamId (read ++ later) = dataFor streamId read ++ heard streamId later := by
  rw [heard, List.takeWhile_append_of_pos (by simpa using unended), dataFor_append]
  rfl

theorem heard_append (first second : List Frame) :
    heard streamId first <+: heard streamId (first ++ second) := by
  by_cases ended : ∃ other ∈ first, endsStream streamId other = true
  · rw [heard_append_of_ended ended]
  · have unended : ∀ other ∈ first, endsStream streamId other = false := by
      intro other member
      simpa using fun ends => ended ⟨other, member, ends⟩
    rw [heard_append_of_unended unended, heard_eq_dataFor unended]
    exact List.prefix_append _ _

theorem heard_append_other (other : carriesFor streamId frame = false) :
    heard streamId (read ++ [frame]) = heard streamId read := by
  by_cases ended : ∃ other ∈ read, endsStream streamId other = true
  · exact heard_append_of_ended ended _
  · have unended : ∀ other ∈ read, endsStream streamId other = false := by
      intro other member
      simpa using fun ends => ended ⟨other, member, ends⟩
    have nothing : heard streamId [frame] = [] := by
      simp only [heard, dataFor, List.map_eq_nil_iff, List.filter_eq_nil_iff]
      intro kept member
      rw [List.mem_singleton.mp ((List.takeWhile_sublist _).subset member), other]
      exact Bool.false_ne_true
    rw [heard_append_of_unended unended, heard_eq_dataFor unended, nothing, List.append_nil]

end Heard

end Rtunnel.Anytls.Outbound
