import Mathlib.Data.List.DropRight
import Rtunnel.Anytls.Padding
import Rtunnel.Data.Attempt
import Rtunnel.Data.Machine

namespace Rtunnel.Anytls.Outbound

open Rtunnel.Data

/-! The writing half of a client session.

Every step runs under the writer's mutex, so a run is a list of whole steps.
Buffered frames leave with the next written one; the padding plan is the one in
force when a frame is written.  The connection accepts what is written to it.
-/

structure ClientWriter where
  inner : List UInt8
  buffer : List UInt8
  packetCounter : UInt32
  sendPadding : Bool
deriving DecidableEq

namespace ClientWriter

def new (initialBuffer : List UInt8) : ClientWriter where
  inner := []
  buffer := initialBuffer
  packetCounter := 0
  sendPadding := true

def writeAll (writer : ClientWriter) (data : List UInt8) : ClientWriter :=
  { writer with inner := writer.inner ++ data }

def bufferFrame (writer : ClientWriter) (command : FrameCommand) (streamId : UInt32)
    (data : List UInt8) : Attempt ClientWriter Failure :=
  match encodeFrame command streamId data with
  | .error reason => (writer, .error reason)
  | .ok frame => ({ writer with buffer := writer.buffer ++ frame }, .ok ())

/-- A packet whose shaping fails is lost together with what was buffered. -/
def writeShaped (writer : ClientWriter) (data : List UInt8) (padding : PaddingPlan) :
    Attempt ClientWriter Failure :=
  match shapePacketPayload data writer.packetCounter padding with
  | .error reason => (writer, .error reason)
  | .ok records => (writer.writeAll records.flatten, .ok ())

def writeConn (writer : ClientWriter) (data : List UInt8) (padding : PaddingPlan) :
    Attempt ClientWriter Failure :=
  let data := writer.buffer ++ data
  let writer := { writer with buffer := [] }
  if writer.sendPadding then
    let writer := { writer with packetCounter := writer.packetCounter + 1 }
    if writer.packetCounter < padding.stop then writer.writeShaped data padding
    else ({ writer with sendPadding := false }.writeAll data, .ok ())
  else (writer.writeAll data, .ok ())

def writeFrame (writer : ClientWriter) (command : FrameCommand) (streamId : UInt32)
    (data : List UInt8) (padding : PaddingPlan) : Attempt ClientWriter Failure :=
  match encodeFrame command streamId data with
  | .error reason => (writer, .error reason)
  | .ok frame => writer.writeConn frame padding

end ClientWriter

inductive WriterStep where
  | buffer (frame : Frame)
  | write (frame : Frame) (padding : PaddingPlan)

def WriterStep.frame : WriterStep → Frame
  | .buffer issued => issued
  | .write issued _ => issued

def ClientWriter.step (writer : ClientWriter) : WriterStep → Attempt ClientWriter Failure
  | .buffer frame => writer.bufferFrame frame.command frame.streamId frame.data
  | .write frame padding => writer.writeFrame frame.command frame.streamId frame.data padding

def writerMachine : Machine ClientWriter WriterStep (Except Failure Unit) := ⟨ClientWriter.step⟩

/-- A step whose frame stays in the buffer until the next write. -/
def WriterStep.waits : WriterStep → Bool
  | .buffer _ => true
  | .write _ _ => false

/-- The frames up to the last write. -/
def flushed (steps : List WriterStep) : List Frame :=
  (steps.rdropWhile WriterStep.waits).map WriterStep.frame

/-- The frames behind the last write. -/
def waiting (steps : List WriterStep) : List Frame :=
  (steps.rtakeWhile WriterStep.waits).map WriterStep.frame

theorem flushed_append_waiting (steps : List WriterStep) :
    flushed steps ++ waiting steps = steps.map WriterStep.frame := by
  rw [flushed, waiting, ← List.map_append, List.rdropWhile_append_rtakeWhile]

section Concat

variable (steps : List WriterStep) (frame : Frame) (padding : PaddingPlan)

theorem flushed_buffer : flushed (steps ++ [.buffer frame]) = flushed steps := by
  rw [flushed, List.rdropWhile_concat_pos WriterStep.waits _ _ rfl, flushed]

theorem waiting_buffer : waiting (steps ++ [.buffer frame]) = waiting steps ++ [frame] := by
  rw [waiting, List.rtakeWhile_concat_pos WriterStep.waits _ _ rfl, List.map_append, waiting]
  rfl

theorem waiting_write : waiting (steps ++ [.write frame padding]) = [] := by
  have writes : ¬ (WriterStep.write frame padding).waits = true := Bool.false_ne_true
  rw [waiting, List.rtakeWhile_concat_neg _ _ _ writes, List.map_nil]

theorem flushed_write :
    flushed (steps ++ [.write frame padding]) = flushed steps ++ (waiting steps ++ [frame]) := by
  have whole := flushed_append_waiting (steps ++ [.write frame padding])
  rw [waiting_write, List.append_nil, List.map_append, ← flushed_append_waiting,
    List.append_assoc] at whole
  exact whole

end Concat

/-- The connection holds whole frames, which without padding are those up to the
last write; the buffer holds the frames behind it. -/
def Carries (issued : List WriterStep) (writer : ClientWriter) : Prop :=
  ∃ sent : List Frame, writer.inner = frames.encodeAll sent ∧
    sent.filter isPayload = flushed issued ∧ writer.buffer = frames.encodeAll (waiting issued)

namespace Carries

variable {issued : List WriterStep} {writer : ClientWriter}

theorem bufferFrame (carries : Carries issued writer) (frame : Frame) :
    Carries (issued ++ [.buffer frame]) (writer.step (.buffer frame)).1 ∧
      (writer.step (.buffer frame)).2 = .ok () := by
  obtain ⟨sent, written, arrived, buffered⟩ := carries
  simp only [ClientWriter.step, ClientWriter.bufferFrame, encodeFrame_frame, and_true]
  refine ⟨sent, written, arrived.trans (flushed_buffer issued frame).symm, ?_⟩
  simp [buffered, frames, waiting_buffer]

/-- The buffer and one more frame are written, padding behind them. -/
theorem flush {inner data : List UInt8} {sent wastes : List Frame} {frame : Frame}
    {padding : PaddingPlan} {packetCounter : UInt32} {sendPadding : Bool}
    (written : inner = frames.encodeAll sent) (arrived : sent.filter isPayload = flushed issued)
    (wasted : ∀ waste ∈ wastes, waste.command = .waste ∧ waste.streamId = 0)
    (payload : ∀ other ∈ waiting issued ++ [frame], isPayload other = true)
    (shaped : data = frames.encodeAll (waiting issued ++ [frame]) ++ frames.encodeAll wastes) :
    Carries (issued ++ [.write frame padding])
      ⟨inner ++ data, [], packetCounter, sendPadding⟩ := by
  refine ⟨sent ++ (waiting issued ++ [frame] ++ wastes), ?_, ?_, ?_⟩
  · simp only [shaped, written, Framing.encodeAll_append]
  · have dropped : wastes.filter isPayload = [] := by
      refine List.filter_eq_nil_iff.mpr fun waste member => ?_
      simp [isPayload, (wasted waste member).1]
    have kept : (waiting issued ++ [frame]).filter isPayload = waiting issued ++ [frame] :=
      List.filter_eq_self.mpr payload
    rw [List.filter_append, List.filter_append (waiting issued ++ [frame]), dropped, kept,
      List.append_nil, arrived, flushed_write]
  · rw [waiting_write, Framing.encodeAll_nil]

theorem writeFrame (carries : Carries issued writer)
    (payload : ∀ step ∈ issued, isPayload step.frame = true) {frame : Frame}
    (own : isPayload frame = true) {padding : PaddingPlan} (bounded : padding.Bounded) :
    Carries (issued ++ [.write frame padding]) (writer.step (.write frame padding)).1 ∧
      (writer.step (.write frame padding)).2 = .ok () := by
  obtain ⟨sent, written, arrived, buffered⟩ := carries
  have whole : ∀ other ∈ waiting issued ++ [frame], isPayload other = true := by
    intro other member
    rcases List.mem_append.mp member with earlier | same
    · obtain ⟨step, behind, rfl⟩ := List.mem_map.mp earlier
      exact payload step ((issued.rtakeWhile_suffix _).subset behind)
    · rw [List.mem_singleton.mp same]
      exact own
  have data : writer.buffer ++ frame.toBytes = frames.encodeAll (waiting issued ++ [frame]) := by
    simp [buffered, frames]
  have unpadded : ∀ waste ∈ ([] : List Frame), waste.command = .waste ∧ waste.streamId = 0 :=
    fun _ member => nomatch member
  have plain : writer.buffer ++ frame.toBytes =
      frames.encodeAll (waiting issued ++ [frame]) ++ frames.encodeAll [] := by
    rw [data, Framing.encodeAll_nil, List.append_nil]
  simp only [ClientWriter.step, ClientWriter.writeFrame, encodeFrame_frame,
    ClientWriter.writeConn]
  split
  · split
    · obtain ⟨records, shaped, wastes, wasted, carried⟩ := shapePacketPayload_shapes bounded
        (writer.buffer ++ frame.toBytes) (writer.packetCounter + 1)
      simp only [ClientWriter.writeShaped, shaped, and_true]
      exact flush written arrived wasted whole (carried.trans (by rw [data]))
    · exact ⟨flush written arrived unpadded whole plain, rfl⟩
  · exact ⟨flush written arrived unpadded whole plain, rfl⟩

/-- Every step that issues a frame adds it. -/
theorem step (carries : Carries issued writer)
    (payload : ∀ step ∈ issued, isPayload step.frame = true) {step : WriterStep}
    (own : isPayload step.frame = true)
    (bounded : ∀ frame padding, step = .write frame padding → padding.Bounded) :
    Carries (issued ++ [step]) (writer.step step).1 ∧ (writer.step step).2 = .ok () := by
  cases step with
  | buffer frame => exact carries.bufferFrame frame
  | write frame padding => exact carries.writeFrame payload own (bounded frame padding rfl)

theorem run (carries : Carries issued writer)
    (payload : ∀ step ∈ issued, isPayload step.frame = true) {steps : List WriterStep}
    (own : ∀ step ∈ steps, isPayload step.frame = true)
    (bounded : ∀ frame padding, .write frame padding ∈ steps → padding.Bounded) :
    Carries (issued ++ steps) (writerMachine.run writer steps) ∧
      ∀ result ∈ writerMachine.outputs writer steps, result = .ok () := by
  induction steps generalizing issued writer with
  | nil => exact ⟨by rwa [List.append_nil], fun _ member => nomatch member⟩
  | cons step steps ih =>
      obtain ⟨ownStep, ownRest⟩ := List.forall_mem_cons.mp own
      obtain ⟨stepped, succeeded⟩ := carries.step payload ownStep fun frame padding same =>
        bounded frame padding (same ▸ List.mem_cons_self)
      have grown : ∀ other ∈ issued ++ [step], isPayload other.frame = true := by
        intro other member
        rcases List.mem_append.mp member with earlier | same
        · exact payload other earlier
        · rw [List.mem_singleton.mp same]
          exact ownStep
      obtain ⟨reached, all⟩ := ih stepped grown ownRest fun frame padding member =>
        bounded frame padding (List.mem_cons_of_mem _ member)
      refine ⟨?_, List.forall_mem_cons.mpr ⟨succeeded, all⟩⟩
      rw [List.append_cons]
      exact reached

/-- A new session: its settings wait for the first write. -/
theorem new (settings : Frame) : Carries [.buffer settings] (.new settings.toBytes) := by
  have held : waiting [.buffer settings] = [settings] := waiting_buffer [] settings
  exact ⟨[], rfl, rfl, by simp [ClientWriter.new, frames, held]⟩

end Carries

end Rtunnel.Anytls.Outbound
