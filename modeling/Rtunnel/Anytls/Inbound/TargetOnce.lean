import Rtunnel.Anytls.Inbound.Steps

namespace Rtunnel.Anytls.Inbound

open Rtunnel.Data

/-! When the bytes of a stream are read as a target.

The loop takes data for a target exactly if it does not know the stream.  A
stream is forgotten on five paths, and on all of them a FIN is sent or received;
data that comes after that FIN is read as a target again.
-/

/-- Where a stream stands, as the history of the session tells: no target has
been read since its last SYN, a target has been read, or a FIN has followed. -/
inductive Phase where
  | idle
  | opened
  | finished
deriving DecidableEq

namespace Phase

def finish : Phase → Phase
  | .opened => .finished
  | phase => phase

def advance (streamId : UInt32) (phase : Phase) : Effect → Phase
  | .received frame =>
      if frame.streamId ≠ streamId then phase
      else
        match frame.command with
        | .syn => .idle
        | .fin => phase.finish
        | _ => phase
  | .reply frame =>
      if frame.streamId = streamId ∧ frame.command = .fin then phase.finish else phase
  | .decode other _ => if other = streamId then .opened else phase
  | _ => phase

end Phase

def phase (streamId : UInt32) (trace : List Effect) : Phase :=
  trace.foldl (Phase.advance streamId) .idle

theorem phase_append (streamId : UInt32) (trace : List Effect) (effect : Effect) :
    phase streamId (trace ++ [effect]) = (phase streamId trace).advance streamId effect := by
  simp [phase, List.foldl_append]

/-- The effects of reading a target: decoding it, dialling it, starting UDP. -/
def Effect.ReadsTarget (streamId : UInt32) : Effect → Prop
  | .decode other _ => other = streamId
  | .dial other _ => other = streamId
  | .spawnUotReader other => other = streamId
  | _ => False

/-- Effects that leave the phase of a stream alone. -/
def Effect.Neutral (streamId : UInt32) (effect : Effect) : Prop :=
  ¬ effect.ReadsTarget streamId ∧
    ∀ current : Phase, current.advance streamId effect = current

theorem phase_append_neutral {streamId : UInt32} (trace : List Effect) {added : List Effect}
    (neutral : ∀ effect ∈ added, effect.Neutral streamId) :
    phase streamId (trace ++ added) = phase streamId trace := by
  induction added generalizing trace with
  | nil => rw [List.append_nil]
  | cons effect added ih =>
      obtain ⟨now, later⟩ := List.forall_mem_cons.mp neutral
      rw [List.append_cons, ih _ later, phase_append, now.2]

/-- Nothing that one stream could notice has happened. -/
structure Quiet (streamId : UInt32) (before after : SessionLoop) : Prop where
  stream : after.streams.lookup streamId = before.streams.lookup streamId
  settings : before.settingsSeen = true → after.settingsSeen = true
  alive : after.ended = before.ended
  effects : ∃ added, after.trace = before.trace ++ added ∧
    ∀ effect ∈ added, effect.Neutral streamId

/-- A frame that is neither data nor the start or end of a stream, or belongs to
another one. -/
def Unrelated (streamId : UInt32) (frame : Frame) : Prop :=
  frame.streamId ≠ streamId ∨
    frame.command ≠ .syn ∧ frame.command ≠ .fin ∧ frame.command ≠ .psh

theorem neutral_received {streamId : UInt32} {frame : Frame}
    (unrelated : frame.streamId ≠ streamId ∨ frame.command ≠ .syn ∧ frame.command ≠ .fin) :
    (Effect.received frame).Neutral streamId := by
  refine ⟨id, fun current => ?_⟩
  unfold Phase.advance
  dsimp only
  split
  · rfl
  · next same =>
      obtain ⟨notSyn, notFin⟩ := unrelated.resolve_left same
      split
      · next isSyn => exact absurd isSyn notSyn
      · next isFin => exact absurd isFin notFin
      · rfl

theorem neutral_of_from {streamId : UInt32} {frame : Frame} {seen : Bool} {effect : Effect}
    (unrelated : Unrelated streamId frame) (caused : effect.From frame seen) :
    effect.Neutral streamId := by
  have elsewhere : ∀ other, frame.command = .psh ∧ other = frame.streamId →
      other ≠ streamId := by
    rintro other ⟨carries, rfl⟩
    exact unrelated.resolve_right fun quiet => quiet.2.2 carries
  cases effect with
  | received other =>
      cases caused
      exact neutral_received (unrelated.imp_right fun quiet => ⟨quiet.1, quiet.2.1⟩)
  | reply answer =>
      refine ⟨id, fun current => if_neg ?_⟩
      rintro ⟨same, isFin⟩
      simp only [Effect.From, isFin] at caused
      exact elsewhere answer.streamId caused same
  | decode other data => exact ⟨elsewhere other caused, fun _ => if_neg (elsewhere other caused)⟩
  | dial other session => exact ⟨elsewhere other caused, fun _ => rfl⟩
  | spawnUotReader other => exact ⟨elsewhere other caused, fun _ => rfl⟩
  | _ => exact ⟨id, fun _ => rfl⟩

namespace Quiet

variable {streamId : UInt32}

theorem of_step {frame : Frame} {before after : SessionLoop} (step : Step frame before after)
    (unrelated : Unrelated streamId frame) : Quiet streamId before after := by
  obtain ⟨added, grown, caused⟩ := step.effects
  refine ⟨step.streams streamId ?_, step.settings, step.alive, added, grown,
    fun effect member => neutral_of_from unrelated (caused effect member)⟩
  exact unrelated.imp Ne.symm fun quiet => ⟨quiet.2.2, quiet.2.1⟩

theorem emit (loop : SessionLoop) {effect : Effect} (neutral : effect.Neutral streamId) :
    Quiet streamId loop (loop.emit effect) :=
  ⟨rfl, id, rfl, [effect], rfl, fun _ member => List.mem_singleton.mp member ▸ neutral⟩

theorem phase_eq {before after : SessionLoop} (quiet : Quiet streamId before after) :
    phase streamId after.trace = phase streamId before.trace := by
  obtain ⟨added, grown, neutral⟩ := quiet.effects
  rw [grown]
  exact phase_append_neutral before.trace neutral

end Quiet

/-- A frame with the same stream and data that no stream notices. -/
def muted (frame : Frame) : Frame := { frame with command := .heartRequest }

theorem muted_unrelated (streamId : UInt32) (frame : Frame) :
    Unrelated streamId (muted frame) :=
  .inr (by simp [muted])

/-- Acknowledging a stream is noticed by none, nor is the refusal of a SYN. -/
theorem acknowledge_quiet (streamId : UInt32) (loop : SessionLoop) (answers : Answers)
    (other : UInt32) : Quiet streamId loop (loop.acknowledge answers other).1 := by
  let frame : Frame := ⟨.heartRequest, other, [], Nat.zero_le _⟩
  have step : Step frame loop (loop.acknowledge answers frame.streamId).1 :=
    loop.acknowledge_step answers
  exact .of_step step (muted_unrelated streamId frame)

theorem handleSyn_quiet (streamId : UInt32) (loop : SessionLoop) (answers : Answers)
    (frame : Frame) : Quiet streamId loop (loop.handleSyn answers frame).1 := by
  have step : Step (muted frame) loop (loop.handleSyn answers (muted frame)).1 :=
    loop.handleSyn_step answers
  exact .of_step step (muted_unrelated streamId frame)

/-- The loop knows a stream while its phase is open, and has forgotten it when
the phase is finished. -/
structure Consistent (streamId : UInt32) (loop : SessionLoop) : Prop where
  finished : phase streamId loop.trace = .finished → loop.streams.lookup streamId = none
  opened : phase streamId loop.trace = .opened →
    loop.ended = true ∨ (loop.streams.lookup streamId).isSome = true
  settings : phase streamId loop.trace ≠ .idle → loop.settingsSeen = true

/-- A frame was handled; a failure is about to end the loop. -/
structure Handled (streamId : UInt32) (outcome : Outcome) : Prop where
  finished : phase streamId outcome.1.trace = .finished →
    outcome.1.streams.lookup streamId = none
  opened : phase streamId outcome.1.trace = .opened →
    outcome.2 ≠ .ok () ∨ (outcome.1.streams.lookup streamId).isSome = true
  settings : phase streamId outcome.1.trace ≠ .idle → outcome.1.settingsSeen = true

namespace Handled

variable {streamId : UInt32} {loop : SessionLoop} {frame : Frame}

theorem conclude {outcome : Outcome} (handled : Handled streamId outcome) :
    Consistent streamId (SessionLoop.conclude outcome).1 := by
  obtain ⟨loop, reason | done⟩ := outcome
  · exact ⟨handled.finished, fun _ => .inl rfl, handled.settings⟩
  · refine ⟨handled.finished, fun opened => .inr ?_, handled.settings⟩
    exact (handled.opened opened).resolve_left fun failed => failed rfl

/-- Frames that leave the stream alone keep what was consistent. -/
theorem of_quiet {outcome : Outcome} (consistent : Consistent streamId loop)
    (alive : loop.ended = false) (quiet : Quiet streamId loop outcome.1) :
    Handled streamId outcome where
  finished finished := by
    rw [quiet.stream]
    exact consistent.finished (quiet.phase_eq ▸ finished)
  opened opened := by
    rw [quiet.stream]
    refine .inr ((consistent.opened (quiet.phase_eq ▸ opened)).resolve_left ?_)
    simp [alive]
  settings started := quiet.settings (consistent.settings (quiet.phase_eq ▸ started))

theorem of_idle {outcome : Outcome} (idle : phase streamId outcome.1.trace = .idle) :
    Handled streamId outcome where
  finished finished := by rw [idle] at finished; cases finished
  opened opened := by rw [idle] at opened; cases opened
  settings started := absurd idle started

theorem finish_ne_opened (current : Phase) : current.finish ≠ .opened := by
  cases current <;> decide

theorem finish_ne_idle {current : Phase} (started : current.finish ≠ .idle) : current ≠ .idle := by
  rintro rfl
  exact started rfl

/-- A forgotten stream is finished with the FIN for it. -/
theorem writeFin (forgotten : loop.streams.lookup streamId = none)
    (seen : loop.settingsSeen = true) (answers : Answers) :
    Handled streamId (loop.writeFin answers streamId) := by
  unfold SessionLoop.writeFin SessionLoop.writeFrame
  rw [dif_pos (show ([] : List UInt8).length ≤ u16Max from Nat.zero_le _)]
  cases answers.reply with
  | error reason =>
      exact ⟨fun _ => forgotten, fun _ => .inl (fun same => by cases same), fun _ => seen⟩
  | ok done =>
      refine ⟨fun _ => forgotten, fun opened => ?_, fun _ => seen⟩
      simp only [SessionLoop.emit, phase_append, Phase.advance, and_self, ↓reduceIte] at opened
      exact absurd opened (finish_ne_opened _)

/-- A stream that is put into the table while it is being opened. -/
theorem putStream (opened : phase streamId loop.trace = .opened)
    (seen : loop.settingsSeen = true) (stream : InboundStream) (answers : Answers)
    {effect : Effect} (still : ∀ current : Phase, current.advance streamId effect = current) :
    Handled streamId (((loop.putStream streamId stream).acknowledge answers streamId).andThen
      fun loop => (loop.emit effect, .ok ())) := by
  have quiet : Quiet streamId (loop.putStream streamId stream)
      ((loop.putStream streamId stream).acknowledge answers streamId).1 :=
    acknowledge_quiet streamId _ answers streamId
  generalize (loop.putStream streamId stream).acknowledge answers streamId = acknowledged at quiet
  obtain ⟨after, result⟩ := acknowledged
  have known : (after.streams.lookup streamId).isSome = true := by
    rw [quiet.stream]
    exact Option.isSome_iff_exists.mpr ⟨stream, AList.lookup_insert _⟩
  have stillOpened : phase streamId after.trace = .opened := quiet.phase_eq.trans opened
  have stillSeen : after.settingsSeen = true := quiet.settings seen
  cases result with
  | error reason =>
      refine ⟨fun finished => ?_, fun _ => .inr known, fun _ => stillSeen⟩
      rw [Attempt.andThen_error, stillOpened] at finished
      cases finished
  | ok done =>
      cases done
      refine ⟨fun finished => ?_, fun _ => .inr known, fun _ => stillSeen⟩
      simp only [Attempt.andThen_ok, SessionLoop.emit, phase_append, still, stillOpened] at finished
      cases finished

theorem readTarget (same : frame.streamId = streamId) (opened : phase streamId loop.trace = .opened)
    (forgotten : loop.streams.lookup streamId = none) (seen : loop.settingsSeen = true)
    (config : Config) (answers : Answers) :
    Handled streamId (loop.readTarget config answers frame) := by
  subst same
  have kept : ∀ effect, (∀ current : Phase, current.advance frame.streamId effect = current) →
      phase frame.streamId (loop.emit effect).trace = .opened := by
    intro effect still
    rw [SessionLoop.emit, phase_append, still, opened]
  unfold SessionLoop.readTarget
  split
  · exact writeFin forgotten seen answers
  · next target consumed decoded =>
      dsimp only
      split
      · unfold SessionLoop.openUot
        dsimp only
        split
        · exact putStream opened seen .udp answers fun _ => rfl
        · exact putStream (kept _ fun _ => rfl) seen .udp answers fun _ => rfl
      · unfold SessionLoop.openTcp
        dsimp only
        have dialled := kept (.dial frame.streamId ⟨config.tag, .connect, target⟩) fun _ => rfl
        have refused : Handled frame.streamId ((loop.emit
            (.dial frame.streamId ⟨config.tag, .connect, target⟩)).writeFin answers
            frame.streamId) := by
          refine writeFin ?_ ?_ answers
          · exact forgotten
          · exact seen
        split
        · exact refused
        · split
          · exact putStream dialled seen .tcp answers fun _ => rfl
          · split
            · exact refused
            · unfold SessionLoop.establish
              refine putStream ?_ ?_ .tcp answers ?_
              · rw [SessionLoop.emit, phase_append]
                exact dialled
              · exact seen
              · exact fun _ => rfl

theorem writePayload (same : frame.streamId = streamId) (consistent : Consistent streamId loop)
    (alive : loop.ended = false) (seen : loop.settingsSeen = true) (answers : Answers)
    (stream : InboundStream) :
    Handled streamId (loop.writePayload answers stream frame) := by
  subst same
  unfold SessionLoop.writePayload
  split
  · exact of_quiet consistent alive (.emit loop ⟨id, fun _ => rfl⟩)
  · split
    · exact of_quiet consistent alive (.emit loop ⟨id, fun _ => rfl⟩)
    · refine writeFin ?_ ?_ answers
      · exact AList.lookup_erase _ _
      · exact seen

end Handled

namespace Consistent

variable {streamId : UInt32} {loop : SessionLoop} {frame : Frame}

theorem emit (consistent : Consistent streamId loop) {effect : Effect}
    (still : ∀ current : Phase, current.advance streamId effect = current) :
    Consistent streamId (loop.emit effect) := by
  have same : phase streamId (loop.emit effect).trace = phase streamId loop.trace := by
    rw [SessionLoop.emit, phase_append, still]
  exact ⟨fun finished => consistent.finished (same ▸ finished),
    fun opened => consistent.opened (same ▸ opened),
    fun started => consistent.settings (same ▸ started)⟩

theorem handlePsh (consistent : Consistent streamId loop) (alive : loop.ended = false)
    (config : Config) (answers : Answers) (same : frame.streamId = streamId) :
    Handled streamId (loop.handlePsh config answers frame) := by
  unfold SessionLoop.handlePsh
  split
  · next unseen =>
      exact .of_quiet consistent alive
        (.of_step (loop.refuse_step unseen _ _ _) (muted_unrelated streamId frame))
  · next seen =>
      have settled : loop.settingsSeen = true := by simpa using seen
      split
      · exact .writePayload same consistent alive settled answers _
      · next forgotten =>
          rw [same] at forgotten
          unfold SessionLoop.openStream
          refine .readTarget same ?_ ?_ ?_ config answers
          · rw [SessionLoop.emit, phase_append]
            exact if_pos same
          · exact forgotten
          · exact settled

theorem handleFin (consistent : Consistent streamId loop) (isFin : frame.command = .fin)
    (same : frame.streamId = streamId) :
    Handled streamId ((loop.emit (.received frame)).handleFin frame) := by
  subst same
  have finished : phase frame.streamId (loop.trace ++ [.received frame]) =
      (phase frame.streamId loop.trace).finish := by
    rw [phase_append]
    simp [Phase.advance, isFin]
  refine ⟨fun _ => AList.lookup_erase _ _, fun opened => ?_, fun started => ?_⟩
  · exact absurd (finished.symm.trans opened) (Handled.finish_ne_opened _)
  · exact consistent.settings (Handled.finish_ne_idle (finished ▸ started))

theorem handleSyn (isSyn : frame.command = .syn) (same : frame.streamId = streamId)
    (answers : Answers) :
    Handled streamId ((loop.emit (.received frame)).handleSyn answers frame) := by
  refine .of_idle ((handleSyn_quiet streamId _ answers frame).phase_eq.trans ?_)
  rw [SessionLoop.emit, phase_append]
  simp [Phase.advance, same, isSyn]

theorem handleFrame (consistent : Consistent streamId loop) (alive : loop.ended = false)
    (config : Config) (answers : Answers) (frame : Frame) :
    Handled streamId (loop.handleFrame config answers frame) := by
  have quiet : Unrelated streamId frame →
      Handled streamId (loop.handleFrame config answers frame) := fun unrelated =>
    .of_quiet consistent alive (.of_step (loop.handleFrame_step config answers frame) unrelated)
  by_cases same : frame.streamId = streamId
  · cases command : frame.command with
    | syn =>
        simp only [SessionLoop.handleFrame, command]
        exact handleSyn command same answers
    | psh =>
        have received : (Effect.received frame).Neutral streamId :=
          neutral_received (.inr (by simp [command]))
        simp only [SessionLoop.handleFrame, command]
        exact (consistent.emit received.2).handlePsh alive config answers same
    | fin =>
        simp only [SessionLoop.handleFrame, command]
        exact consistent.handleFin command same
    | _ => exact quiet (.inr (by simp [command]))
  · exact quiet (.inl same)

theorem step (consistent : Consistent streamId loop) (config : Config) (event : Event) :
    Consistent streamId (loop.step config event).1 := by
  unfold SessionLoop.step
  split
  · exact consistent
  · next alive =>
      have running : loop.ended = false := by simpa using alive
      cases event with
      | readFails reason =>
          exact ⟨consistent.finished, fun _ => .inl rfl, consistent.settings⟩
      | frame frame answers => exact (consistent.handleFrame running config answers frame).conclude

theorem new (streamId : UInt32) : Consistent streamId .new :=
  ⟨fun _ => rfl, fun opened => (by cases opened), fun started => absurd rfl started⟩

end Consistent

/-- A PSH on the stream is handled. -/
def PayloadOn (streamId : UInt32) (loop : SessionLoop) : Event → Prop
  | .frame frame _ =>
      loop.ended = false ∧ frame.command = .psh ∧ frame.streamId = streamId
  | .readFails _ => False

def newEffects (config : Config) (loop : SessionLoop) (event : Event) : List Effect :=
  (loop.step config event).1.trace.drop loop.trace.length

/-- Once a target has been read on the stream, data is not read as one again
before the next SYN. -/
def TargetKept (config : Config) (streamId : UInt32) (loop : SessionLoop) (event : Event) : Prop :=
  PayloadOn streamId loop event → phase streamId loop.trace ≠ .idle →
    ∀ effect ∈ newEffects config loop event, ¬ effect.ReadsTarget streamId

/-- Data on an open stream goes to its relay. -/
theorem writePayload_reads_nothing (loop : SessionLoop) (answers : Answers)
    (stream : InboundStream) (frame : Frame) (streamId : UInt32) :
    ∃ added, (loop.writePayload answers stream frame).1.trace = loop.trace ++ added ∧
      ∀ effect ∈ added, ¬ effect.ReadsTarget streamId := by
  unfold SessionLoop.writePayload
  split
  · exact ⟨[_], rfl, fun effect member => List.mem_singleton.mp member ▸ id⟩
  · split
    · exact ⟨[_], rfl, fun effect member => List.mem_singleton.mp member ▸ id⟩
    · unfold SessionLoop.writeFin SessionLoop.writeFrame
      rw [dif_pos (show ([] : List UInt8).length ≤ u16Max from Nat.zero_le _)]
      cases answers.reply with
      | ok done => exact ⟨[_], rfl, fun effect member => List.mem_singleton.mp member ▸ id⟩
      | error reason => exact ⟨[], (List.append_nil _).symm, fun _ member => nomatch member⟩

/-- Data on an unknown stream is decoded as a target. -/
theorem openStream_decodes (config : Config) (loop : SessionLoop) (answers : Answers)
    {frame : Frame} (carries : frame.command = .psh) :
    ∃ added, (loop.openStream config answers frame).1.trace =
      loop.trace ++ .decode frame.streamId frame.data :: added := by
  obtain ⟨added, grown, _⟩ := (SessionLoop.readTarget_step carries config
    (loop.emit (.decode frame.streamId frame.data)) answers).effects
  refine ⟨added, grown.trans ?_⟩
  rw [SessionLoop.emit, List.append_assoc]
  rfl

section Payload

variable {config : Config} {streamId : UInt32} {loop : SessionLoop} {frame : Frame}
variable {answers : Answers}

theorem newEffects_of_payload (payload : PayloadOn streamId loop (.frame frame answers)) :
    newEffects config loop (.frame frame answers) =
      ((loop.emit (.received frame)).handlePsh config answers frame).1.trace.drop
        loop.trace.length := by
  simp only [newEffects, SessionLoop.step, payload.1, Bool.false_eq_true, ↓reduceIte,
    SessionLoop.conclude_trace, SessionLoop.handleFrame, payload.2.1]

/-- Data on a stream that the loop has forgotten is decoded. -/
theorem newEffects_of_forgotten (payload : PayloadOn streamId loop (.frame frame answers))
    (seen : loop.settingsSeen = true) (forgotten : loop.streams.lookup frame.streamId = none) :
    .decode frame.streamId frame.data ∈ newEffects config loop (.frame frame answers) := by
  obtain ⟨added, decoded⟩ :=
    openStream_decodes config (loop.emit (.received frame)) answers payload.2.1
  have routed : (loop.emit (.received frame)).handlePsh config answers frame =
      (loop.emit (.received frame)).openStream config answers frame := by
    simp only [SessionLoop.handlePsh, SessionLoop.emit, seen, Bool.true_eq_false, ↓reduceIte,
      forgotten]
  rw [newEffects_of_payload payload, routed, decoded, SessionLoop.emit, List.append_assoc,
    List.drop_left]
  simp

/-- Data on a stream that the loop knows is not. -/
theorem newEffects_of_known (payload : PayloadOn streamId loop (.frame frame answers))
    (seen : loop.settingsSeen = true) {stream : InboundStream}
    (found : loop.streams.lookup frame.streamId = some stream) :
    ∀ effect ∈ newEffects config loop (.frame frame answers),
      ¬ effect.ReadsTarget streamId := by
  intro effect member
  obtain ⟨added, grown, harmless⟩ := writePayload_reads_nothing
    (loop.emit (.received frame)) answers stream frame streamId
  have routed : (loop.emit (.received frame)).handlePsh config answers frame =
      (loop.emit (.received frame)).writePayload answers stream frame := by
    simp only [SessionLoop.handlePsh, SessionLoop.emit, seen, Bool.true_eq_false, ↓reduceIte,
      found]
  rw [newEffects_of_payload payload, routed, grown, SessionLoop.emit, List.append_assoc,
    List.drop_left] at member
  rcases List.mem_cons.mp member with rfl | later
  · exact id
  · exact harmless effect later

end Payload

/-- For a stream whose target has been read, the question is whether the loop
still knows the stream. -/
theorem targetKept_iff {config : Config} {streamId : UInt32} {loop : SessionLoop}
    (consistent : Consistent streamId loop) (event : Event) :
    TargetKept config streamId loop event ↔
      ¬ (PayloadOn streamId loop event ∧ phase streamId loop.trace = .finished) := by
  cases event with
  | readFails reason => exact ⟨fun _ late => late.1, fun _ payload => payload.elim⟩
  | frame frame answers =>
      constructor
      · rintro kept ⟨payload, finished⟩
        have own : frame.streamId = streamId := payload.2.2
        subst own
        have started : phase frame.streamId loop.trace ≠ .idle := by rw [finished]; decide
        refine kept payload started (.decode frame.streamId frame.data) ?_ rfl
        exact newEffects_of_forgotten payload (consistent.settings started)
          (consistent.finished finished)
      · intro early payload started
        have own : frame.streamId = streamId := payload.2.2
        subst own
        have opened : phase frame.streamId loop.trace = .opened := by
          cases current : phase frame.streamId loop.trace with
          | idle => exact absurd current started
          | opened => rfl
          | finished => exact absurd ⟨payload, current⟩ early
        have present := (consistent.opened opened).resolve_left (by simp [payload.1])
        obtain ⟨stream, found⟩ := Option.isSome_iff_exists.mp present
        exact newEffects_of_known payload (consistent.settings started) found

/-- Over every sequence of frames and every outcome of dials and writes, the
bytes of a stream are read as a target at most once per SYN exactly if no PSH on
it is handled after its target was read and a FIN for it was sent or received. -/
theorem target_read_once_iff (config : Config) (events : List Event) (streamId : UInt32) :
    (sessionMachine config).Meets (TargetKept config streamId) .new events ↔
      (sessionMachine config).Meets (fun loop event =>
        ¬ (PayloadOn streamId loop event ∧ phase streamId loop.trace = .finished)) .new events :=
  (sessionMachine config).meets_congr (Consistent streamId)
    (fun _ event consistent => consistent.step config event)
    (fun _ event consistent => targetKept_iff consistent event) (.new streamId) events

def sampleConfig : Config := ⟨"anytls-in", "e872e281aa5e28149c0f6b8d36e79199", []⟩

def sampleSettings : Frame := ⟨.settings, 0, utf8Bytes "v=2", by decide +kernel⟩

def sampleSyn : Frame := ⟨.syn, 1, [], by decide⟩

/-- 127.0.0.1:80 as a target, and payload that reads as 127.0.0.1:25. -/
def sampleTarget : Frame := ⟨.psh, 1, [1, 127, 0, 0, 1, 0, 80], by decide⟩

def samplePayload : Frame := ⟨.psh, 1, [1, 127, 0, 0, 1, 0, 25], by decide⟩

/-- The dial of a stream fails; its payload was already on the way. -/
def payloadInFlight : List Event :=
  [.frame sampleSettings .fine, .frame sampleSyn .fine,
    .frame sampleTarget { Answers.fine with dial := .error "connection refused" },
    .frame samplePayload .fine]

/-- The payload is decoded, and dialled, as a target. -/
theorem payload_in_flight_is_dialled :
    ¬ (sessionMachine sampleConfig).Meets (TargetKept sampleConfig 1) .new payloadInFlight ∧
      Effect.dial 1 ⟨"anytls-in", .connect, .ip (.v4 loopback 25)⟩ ∈
        ((sessionMachine sampleConfig).run .new payloadInFlight).trace := by
  refine ⟨?_, by decide +kernel⟩
  rintro ⟨_, _, _, kept, _⟩
  exact kept ⟨by decide +kernel, rfl, rfl⟩ (by decide +kernel)
    (.dial 1 ⟨"anytls-in", .connect, .ip (.v4 loopback 25)⟩) (by decide +kernel) rfl

end Rtunnel.Anytls.Inbound
