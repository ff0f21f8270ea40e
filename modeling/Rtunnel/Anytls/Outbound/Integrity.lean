import Rtunnel.Anytls.Inbound.Steps
import Rtunnel.Anytls.Outbound.Writer

namespace Rtunnel.Anytls.Outbound

open Rtunnel.Data
open Rtunnel.Anytls.Inbound (SessionLoop)

/-! What arrives at the server.

Each stream of a session runs its own script: SYN, the target, data, at most one
FIN.  Their steps interleave as the writer's mutex admits them, heartbeats come
in between, and the padding plan may be another one at every write.
-/

/-- What one stream sends, if it gets to its end. -/
structure StreamScript where
  target : TargetAddr
  header : List UInt8
  encoded : encodeSocksaddr target = .ok header
  payloads : List { data : List UInt8 // data.length ≤ u16Max }
  closes : Bool

def StreamScript.frames (script : StreamScript) (streamId : UInt32) : List Frame :=
  ⟨.syn, streamId, [], Nat.zero_le _⟩ ::
    ⟨.psh, streamId, script.header,
      Nat.le_trans (encodeSocksaddr_length script.encoded) (by decide)⟩ ::
    (script.payloads.map fun payload => ⟨.psh, streamId, payload.1, payload.2⟩) ++
    if script.closes then [⟨.fin, streamId, [], Nat.zero_le _⟩] else []

/-- A frame that a stream's script issues. -/
def onStream (streamId : UInt32) (frame : Frame) : Bool :=
  decide (frame.streamId = streamId) &&
    decide (frame.command = .syn ∨ frame.command = .psh ∨ frame.command = .fin)

/-- A schedule: every step answers a heartbeat or is the next one of the script
of its stream. -/
structure Interleaves (script : UInt32 → StreamScript) (steps : List WriterStep) : Prop where
  belongs : ∀ step ∈ steps, step.frame.command = .heartResponse ∨
    onStream step.frame.streamId step.frame = true
  inOrder : ∀ streamId, (steps.map WriterStep.frame).filter (onStream streamId) <+:
    (script streamId).frames streamId

theorem isPayload_of_onStream {streamId : UInt32} {frame : Frame}
    (on : onStream streamId frame = true) : isPayload frame = true := by
  simp only [onStream, Bool.and_eq_true, decide_eq_true_eq] at on
  rcases on.2 with command | command | command <;> simp [isPayload, command]

namespace Interleaves

variable {script : UInt32 → StreamScript} {steps : List WriterStep}

theorem not_settings (interleaves : Interleaves script steps) {step : WriterStep}
    (member : step ∈ steps) : step.frame.command ≠ .settings := by
  intro settings
  rcases interleaves.belongs step member with heart | on
  · rw [settings] at heart
    cases heart
  · simp [onStream, settings] at on

theorem isPayload (interleaves : Interleaves script steps) {step : WriterStep}
    (member : step ∈ steps) : isPayload step.frame = true := by
  rcases interleaves.belongs step member with heart | on
  · simp [Anytls.isPayload, heart]
  · exact isPayload_of_onStream on

/-- A session's writer carries its settings and then the streams' frames. -/
theorem carries (interleaves : Interleaves script steps) {settings : Frame}
    (isSettings : settings.command = .settings)
    (bounded : ∀ frame padding, .write frame padding ∈ steps → padding.Bounded) :
    let writer := ClientWriter.new settings.toBytes
    Carries (.buffer settings :: steps) (writerMachine.run writer steps) ∧
      ∀ result ∈ writerMachine.outputs writer steps, result = .ok () := by
  refine (Carries.new settings).run ?_ (fun step => interleaves.isPayload) bounded
  intro step member
  rw [List.mem_singleton.mp member]
  simp [Anytls.isPayload, isSettings, WriterStep.frame]

end Interleaves

/-- What has been sent of a stream is the beginning of what its steps issued. -/
theorem filter_onStream_held {settings : Frame} (isSettings : settings.command = .settings)
    {sent issued : List Frame} (streamId : UInt32)
    (arrived : sent.filter isPayload <+: settings :: issued) :
    sent.filter (onStream streamId) <+: issued.filter (onStream streamId) := by
  have carried : (sent.filter isPayload).filter (onStream streamId) =
      sent.filter (onStream streamId) := by
    rw [List.filter_filter]
    refine List.filter_congr fun frame _ => ?_
    cases on : onStream streamId frame with
    | false => rfl
    | true => rw [isPayload_of_onStream on]; rfl
  have skipped : onStream streamId settings = false := by simp [onStream, isSettings]
  have within := arrived.filter (onStream streamId)
  rwa [carried, List.filter_cons, skipped] at within

theorem settingsFirst_of_held {settings : Frame} (isSettings : settings.command = .settings)
    {sent issued : List Frame} (arrived : sent.filter isPayload <+: settings :: issued) :
    Inbound.SettingsFirst sent := by
  intro frame first
  cases filtered : sent.filter isPayload with
  | nil =>
      rw [filtered] at first
      cases first
  | cons head rest =>
      rw [filtered] at first arrived
      obtain ⟨rfl, _⟩ := List.cons_prefix_cons.mp arrived
      cases first
      exact isSettings

/-- For every schedule of the streams, with a padding plan of bounded sizes at
each write: no step fails; the bytes on the connection and in the buffer are
whole frames.  Those on the connection are, without padding, the settings and
the frames of the steps up to the last write, in order; those behind it are in
the buffer.  So the settings come first and only once, each stream's frames
arrive in the order of its script, and the server's loop never raises an alert,
whatever its other dealings. -/
theorem client_frames_arrive_in_order (settings : Frame) (isSettings : settings.command = .settings)
    (script : UInt32 → StreamScript) (steps : List WriterStep)
    (interleaves : Interleaves script steps)
    (bounded : ∀ frame padding, .write frame padding ∈ steps → padding.Bounded) :
    let writer := writerMachine.run (.new settings.toBytes) steps
    let sent := frames.readAll writer.inner
    let held := frames.readAll writer.buffer
    (∀ result ∈ writerMachine.outputs (.new settings.toBytes) steps, result = .ok ()) ∧
    (sent.2 = [] ∧ held.2 = []) ∧
    sent.1.filter isPayload ++ held.1 = settings :: steps.map WriterStep.frame ∧
    (sent.1.filter isPayload = flushed (.buffer settings :: steps) ∧
      held.1 = waiting (.buffer settings :: steps)) ∧
    (∀ frame ∈ (sent.1.filter isPayload ++ held.1).tail, frame.command ≠ .settings) ∧
    (∀ streamId, sent.1.filter (onStream streamId) <+: (script streamId).frames streamId) ∧
    ∀ config events, events.filterMap Inbound.Event.carried = sent.1 →
      ∀ effect ∈ ((Inbound.sessionMachine config).run .new events).trace, ¬ effect.IsAlert := by
  intro writer sent held
  obtain ⟨⟨sentFrames, written, arrived, buffered⟩, succeeded⟩ :=
    interleaves.carries isSettings bounded
  have sentRead : sent = (sentFrames, []) := by
    rw [← frames.readAll_encodeAll sentFrames, ← written]
  have heldRead : held = (waiting (.buffer settings :: steps), []) := by
    rw [← frames.readAll_encodeAll (waiting _)]
    exact congrArg frames.readAll buffered
  have issued : sentFrames.filter isPayload ++ waiting (.buffer settings :: steps) =
      settings :: steps.map WriterStep.frame := by
    rw [arrived]
    exact flushed_append_waiting (.buffer settings :: steps)
  rw [sentRead, heldRead]
  refine ⟨succeeded, ⟨rfl, rfl⟩, issued, ⟨arrived, rfl⟩, ?_, ?_, ?_⟩
  · intro frame member
    rw [issued] at member
    obtain ⟨step, known, rfl⟩ := List.mem_map.mp member
    exact interleaves.not_settings known
  · exact fun streamId => (filter_onStream_held isSettings streamId ⟨_, issued⟩).trans
      (interleaves.inOrder streamId)
  · intro config events same
    have calm : SessionLoop.Calm .new := fun _ member => absurd member List.not_mem_nil
    apply calm.run_of_settingsFirst
    rw [same]
    exact settingsFirst_of_held isSettings ⟨_, issued⟩

/-- One stream to 127.0.0.1:80, under a plan that cuts its packets. -/
def sampleScript : StreamScript where
  target := .ip (.v4 loopback 80)
  header := [1, 127, 0, 0, 1, 0, 80]
  encoded := rfl
  payloads := [⟨[104, 105], by decide⟩]
  closes := true

def samplePlan : PaddingPlan := ⟨8, -1, fun _ => [5, -1, 60, 20]⟩

theorem samplePlan_bounded : samplePlan.Bounded := by
  intro packet size drawn
  have small : ∀ size ∈ ([5, -1, 60, 20] : List Int), size ≤ u16Max := by decide
  exact small size drawn

def sampleSettings : Frame := ⟨.settings, 0, [118, 61, 50], by decide⟩

/-- The SYN of a second stream waits in the buffer when the first has ended. -/
def sampleSteps : List WriterStep :=
  (sampleScript.frames 1).map (fun frame =>
      if frame.command = .syn then .buffer frame else .write frame samplePlan) ++
    [.buffer ⟨.syn, 2, [], Nat.zero_le _⟩]

theorem sampleSteps_interleave : Interleaves (fun _ => sampleScript) sampleSteps := by
  refine ⟨fun step member => ?_, fun streamId => ?_⟩
  · have on : ∀ step ∈ sampleSteps.map WriterStep.frame, onStream step.streamId step = true := by
      decide +kernel
    exact .inr (on _ (List.mem_map_of_mem member))
  · by_cases first : streamId = 1
    · subst first
      exact ⟨[], by decide +kernel⟩
    · by_cases second : streamId = 2
      · subst second
        exact ⟨(sampleScript.frames 2).tail, by decide +kernel⟩
      · have none : (sampleSteps.map WriterStep.frame).filter (onStream streamId) = [] := by
          simp [sampleSteps, sampleScript, StreamScript.frames, WriterStep.frame, onStream,
            Ne.symm first, Ne.symm second]
        rw [none]
        exact List.nil_prefix

theorem sampleSteps_bounded {frame : Frame} {padding : PaddingPlan}
    (member : .write frame padding ∈ sampleSteps) : padding.Bounded := by
  have same : padding = samplePlan := by
    simp only [sampleSteps, List.mem_append, List.mem_map, List.mem_singleton, reduceCtorEq,
      or_false] at member
    obtain ⟨issued, -, same⟩ := member
    split at same <;> cases same
    rfl
  exact same ▸ samplePlan_bounded

/-- The stream leaves in packets that are cut in the middle of frames and padded;
the other SYN is held back. -/
theorem sample_packets_arrive :
    let writer := writerMachine.run (.new sampleSettings.toBytes) sampleSteps
    (frames.readAll writer.inner).1.filter isPayload = sampleSettings :: sampleScript.frames 1 ∧
      (frames.readAll writer.buffer).1 = [⟨.syn, 2, [], Nat.zero_le _⟩] := by
  obtain ⟨-, -, -, ⟨sent, held⟩, -⟩ := client_frames_arrive_in_order sampleSettings rfl
    (fun _ => sampleScript) sampleSteps sampleSteps_interleave fun _ _ => sampleSteps_bounded
  have last : flushed (.buffer sampleSettings :: sampleSteps) =
      sampleSettings :: sampleScript.frames 1 := by decide +kernel
  have behind : waiting (.buffer sampleSettings :: sampleSteps) =
      [⟨.syn, 2, [], Nat.zero_le _⟩] := by decide +kernel
  exact ⟨sent.trans last, held.trans behind⟩

end Rtunnel.Anytls.Outbound
