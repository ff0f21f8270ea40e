import Rtunnel.Anytls.Inbound.TargetOnce

namespace Rtunnel.Anytls.Inbound

open Rtunnel.Data

/-! Streams of one session do not notice each other.

Two loops agree but for one stream when nothing else tells them apart: the
table and the acknowledged streams at every other id, the flags, and the
effects once those for the stream are left out.  A frame of another stream is
handled alike by both, and a frame of the stream itself is invisible.
-/

/-- The frames that open, feed or end a stream. -/
def servesStream (streamId : UInt32) (frame : Frame) : Bool :=
  decide ((frame.command = .syn ∨ frame.command = .psh ∨ frame.command = .fin) ∧
    frame.streamId = streamId)

def Event.serves (streamId : UInt32) : Event → Bool
  | .frame read _ => servesStream streamId read
  | .readFails _ => false

/-- The effects that frames of a stream can have. -/
def Effect.serves (streamId : UInt32) : Effect → Bool
  | .received frame => servesStream streamId frame
  | .reply frame =>
      decide ((frame.command = .synack ∨ frame.command = .fin) ∧ frame.streamId = streamId)
  | .decode other _ => decide (other = streamId)
  | .dial other _ => decide (other = streamId)
  | .outboundWrite other _ => decide (other = streamId)
  | .spawnOutboundReader other => decide (other = streamId)
  | .uotSend other _ => decide (other = streamId)
  | .spawnUotReader other => decide (other = streamId)

structure SessionLoop.AgreeBut (streamId : UInt32) (first second : SessionLoop) : Prop where
  streams : ∀ other ≠ streamId, first.streams.lookup other = second.streams.lookup other
  acknowledged : ∀ other ≠ streamId,
    (other ∈ first.synackedStreams ↔ other ∈ second.synackedStreams)
  settings : first.settingsSeen = second.settingsSeen
  version : first.clientV2 = second.clientV2
  alive : first.ended = second.ended
  effects : (first.trace.filter fun effect => !effect.serves streamId) =
    second.trace.filter fun effect => !effect.serves streamId

/-- Handling a frame left both loops alike and ended the same way. -/
structure OutcomesAgree (streamId : UInt32) (first second : Outcome) : Prop where
  loops : first.1.AgreeBut streamId second.1
  results : first.2 = second.2

namespace OutcomesAgree

variable {streamId : UInt32}

theorem andThen {first second : Outcome} {firstRest secondRest : SessionLoop → Outcome}
    (agree : OutcomesAgree streamId first second)
    (rest : ∀ left right, left.AgreeBut streamId right →
      OutcomesAgree streamId (firstRest left) (secondRest right)) :
    OutcomesAgree streamId (first.andThen firstRest) (second.andThen secondRest) := by
  obtain ⟨left, result⟩ := first
  obtain ⟨right, sameResult⟩ := second
  obtain ⟨loops, results⟩ := agree
  dsimp only at loops results
  subst results
  cases result with
  | error reason => exact ⟨loops, rfl⟩
  | ok done => exact rest left right loops

/-- The second loop does not take part. -/
theorem andThen_own {first : Outcome} {second : SessionLoop} {rest : SessionLoop → Outcome}
    (agree : OutcomesAgree streamId first (second, .ok ()))
    (handled : ∀ left, left.AgreeBut streamId second →
      OutcomesAgree streamId (rest left) (second, .ok ())) :
    OutcomesAgree streamId (first.andThen rest) (second, .ok ()) := by
  obtain ⟨left, result⟩ := first
  obtain ⟨loops, results⟩ := agree
  dsimp only at loops results
  subst results
  exact handled left loops

theorem conclude {first second : Outcome} (agree : OutcomesAgree streamId first second) :
    OutcomesAgree streamId (SessionLoop.conclude first) (SessionLoop.conclude second) := by
  obtain ⟨left, result⟩ := first
  obtain ⟨right, sameResult⟩ := second
  obtain ⟨loops, results⟩ := agree
  dsimp only at loops results
  subst results
  cases result with
  | ok done => exact ⟨loops, rfl⟩
  | error reason =>
      exact ⟨⟨loops.streams, loops.acknowledged, loops.settings, loops.version, rfl,
        loops.effects⟩, rfl⟩

end OutcomesAgree

namespace SessionLoop.AgreeBut

variable {streamId : UInt32} {first second : SessionLoop}

theorem refl (loop : SessionLoop) : loop.AgreeBut streamId loop :=
  ⟨fun _ _ => rfl, fun _ _ => Iff.rfl, rfl, rfl, rfl, rfl⟩

theorem done (agree : first.AgreeBut streamId second) :
    OutcomesAgree streamId (first, .ok ()) (second, .ok ()) :=
  ⟨agree, rfl⟩

theorem emit (agree : first.AgreeBut streamId second) (effect : Effect) :
    (first.emit effect).AgreeBut streamId (second.emit effect) := by
  refine ⟨agree.streams, agree.acknowledged, agree.settings, agree.version, agree.alive, ?_⟩
  simp only [SessionLoop.emit, List.filter_append, agree.effects]

theorem emit_own (agree : first.AgreeBut streamId second) {effect : Effect}
    (own : effect.serves streamId = true) : (first.emit effect).AgreeBut streamId second := by
  refine ⟨agree.streams, agree.acknowledged, agree.settings, agree.version, agree.alive, ?_⟩
  simp [SessionLoop.emit, own, agree.effects]

theorem putStream (agree : first.AgreeBut streamId second) (target : UInt32)
    (stream : InboundStream) :
    (first.putStream target stream).AgreeBut streamId (second.putStream target stream) := by
  refine ⟨fun other different => ?_, agree.acknowledged, agree.settings, agree.version,
    agree.alive, agree.effects⟩
  by_cases same : other = target
  · subst same
    simp only [SessionLoop.putStream, AList.lookup_insert]
  · simp only [SessionLoop.putStream, AList.lookup_insert_ne same]
    exact agree.streams other different

theorem putStream_own (agree : first.AgreeBut streamId second) (stream : InboundStream) :
    (first.putStream streamId stream).AgreeBut streamId second := by
  refine ⟨fun other different => ?_, agree.acknowledged, agree.settings, agree.version,
    agree.alive, agree.effects⟩
  exact (AList.lookup_insert_ne different).trans (agree.streams other different)

theorem removeStream (agree : first.AgreeBut streamId second) (target : UInt32) :
    (first.removeStream target).AgreeBut streamId (second.removeStream target) := by
  refine ⟨fun other different => ?_, agree.acknowledged, agree.settings, agree.version,
    agree.alive, agree.effects⟩
  by_cases same : other = target
  · subst same
    simp only [SessionLoop.removeStream, AList.lookup_erase]
  · simp only [SessionLoop.removeStream, AList.lookup_erase_ne same]
    exact agree.streams other different

theorem removeStream_own (agree : first.AgreeBut streamId second) :
    (first.removeStream streamId).AgreeBut streamId second := by
  refine ⟨fun other different => ?_, agree.acknowledged, agree.settings, agree.version,
    agree.alive, agree.effects⟩
  exact (AList.lookup_erase_ne different).trans (agree.streams other different)

theorem writeFrame (agree : first.AgreeBut streamId second) (answer : Except Failure Unit)
    (command : FrameCommand) (target : UInt32) (data : List UInt8) :
    OutcomesAgree streamId (first.writeFrame answer command target data)
      (second.writeFrame answer command target data) := by
  unfold SessionLoop.writeFrame
  split
  · cases answer with
    | ok done => exact ⟨agree.emit _, rfl⟩
    | error reason => exact ⟨agree, rfl⟩
  · exact ⟨agree, rfl⟩

section Others

variable {target : UInt32} (other : target ≠ streamId)
include other

theorem acknowledge (agree : first.AgreeBut streamId second) (answers : Answers) :
    OutcomesAgree streamId (first.acknowledge answers target)
      (second.acknowledge answers target) := by
  have same : (first.clientV2 = true ∧ target ∉ first.synackedStreams) ↔
      (second.clientV2 = true ∧ target ∉ second.synackedStreams) := by
    rw [agree.version, agree.acknowledged target other]
  unfold SessionLoop.acknowledge
  by_cases fresh : second.clientV2 = true ∧ target ∉ second.synackedStreams
  · rw [if_pos (same.mpr fresh), if_pos fresh]
    apply writeFrame
    refine ⟨agree.streams, ?_, agree.settings, agree.version, agree.alive, agree.effects⟩
    intro stream different
    simp only [Finset.mem_insert, agree.acknowledged stream different]
  · rw [if_neg (fun ready => fresh (same.mp ready)), if_neg fresh]
    exact agree.done

theorem openUot (agree : first.AgreeBut streamId second) (answers : Answers)
    (initial : List UInt8) :
    OutcomesAgree streamId (first.openUot answers target initial)
      (second.openUot answers target initial) := by
  have started : ∀ loops : SessionLoop × SessionLoop, loops.1.AgreeBut streamId loops.2 →
      OutcomesAgree streamId
        (((loops.1.putStream target .udp).acknowledge answers target).andThen fun loop =>
          (loop.emit (.spawnUotReader target), .ok ()))
        (((loops.2.putStream target .udp).acknowledge answers target).andThen fun loop =>
          (loop.emit (.spawnUotReader target), .ok ())) := by
    intro loops alike
    refine ((alike.putStream target .udp).acknowledge other answers).andThen ?_
    intro left right agree
    exact (agree.emit _).done
  unfold SessionLoop.openUot
  split
  · exact started (first, second) agree
  · exact started (first.emit _, second.emit _) (agree.emit (.uotSend target initial))

theorem establish (agree : first.AgreeBut streamId second) (answers : Answers) :
    OutcomesAgree streamId (first.establish answers target) (second.establish answers target) := by
  refine ((agree.putStream target .tcp).acknowledge other answers).andThen ?_
  intro left right agree
  exact (agree.emit _).done

theorem openTcp (agree : first.AgreeBut streamId second) (config : Config) (answers : Answers)
    (address : TargetAddr) (initial : List UInt8) :
    OutcomesAgree streamId (first.openTcp config answers target address initial)
      (second.openTcp config answers target address initial) := by
  have dialled := agree.emit (.dial target ⟨config.tag, .connect, address⟩)
  unfold SessionLoop.openTcp
  dsimp only
  split
  · exact dialled.writeFrame answers.reply .fin target []
  · split
    · exact dialled.establish other answers
    · split
      · exact dialled.writeFrame answers.reply .fin target []
      · exact (dialled.emit _).establish other answers

theorem handlePsh (agree : first.AgreeBut streamId second) (config : Config) (answers : Answers)
    {frame : Frame} (own : frame.streamId = target) :
    OutcomesAgree streamId (first.handlePsh config answers frame)
      (second.handlePsh config answers frame) := by
  subst own
  unfold SessionLoop.handlePsh
  rw [agree.settings, agree.streams frame.streamId other]
  split
  · refine (agree.writeFrame answers.reply .alert 0 _).andThen ?_
    intro left right agree
    exact ⟨agree, rfl⟩
  · split
    · unfold SessionLoop.writePayload
      split
      · exact (agree.emit _).done
      · split
        · exact (agree.emit _).done
        · exact (agree.removeStream _).writeFrame answers.reply .fin frame.streamId []
    · have decoded := agree.emit (.decode frame.streamId frame.data)
      unfold SessionLoop.openStream SessionLoop.readTarget
      split
      · exact decoded.writeFrame answers.reply .fin frame.streamId []
      · dsimp only
        split
        · exact decoded.openUot other answers _
        · exact decoded.openTcp other config answers _ _

theorem handleSyn (agree : first.AgreeBut streamId second) (answers : Answers) {frame : Frame}
    (own : frame.streamId = target) :
    OutcomesAgree streamId (first.handleSyn answers frame) (second.handleSyn answers frame) := by
  subst own
  unfold SessionLoop.handleSyn
  rw [agree.settings]
  split
  · refine (agree.writeFrame answers.reply .alert 0 _).andThen ?_
    intro left right agree
    exact ⟨agree, rfl⟩
  · exact agree.acknowledge other answers

end Others

theorem handleFin (agree : first.AgreeBut streamId second) (frame : Frame) :
    OutcomesAgree streamId (first.handleFin frame) (second.handleFin frame) := by
  have removed := agree.removeStream frame.streamId
  refine ⟨⟨removed.streams, ?_, agree.settings, agree.version, agree.alive, agree.effects⟩, rfl⟩
  intro stream different
  simp only [SessionLoop.handleFin, Finset.mem_erase, agree.acknowledged stream different]

theorem handleSettings (agree : first.AgreeBut streamId second) (config : Config)
    (answers : Answers) (frame : Frame) :
    OutcomesAgree streamId (first.handleSettings config answers frame)
      (second.handleSettings config answers frame) := by
  have noted : (first.noteSettings frame.data).AgreeBut streamId
      (second.noteSettings frame.data) :=
    ⟨agree.streams, agree.acknowledged, rfl, rfl, agree.alive, agree.effects⟩
  unfold SessionLoop.handleSettings
  refine OutcomesAgree.andThen ?_ ?_
  · rw [noted.version]
    split
    · exact noted.writeFrame answers.reply .serverSettings 0 serverSettings
    · exact noted.done
  · intro left right agree
    split
    · exact agree.writeFrame answers.secondReply .updatePaddingScheme 0 _
    · exact agree.done

/-- A frame that does not serve the stream is handled alike. -/
theorem handleFrame (agree : first.AgreeBut streamId second) (config : Config)
    (answers : Answers) {frame : Frame} (kept : servesStream streamId frame = false) :
    OutcomesAgree streamId (first.handleFrame config answers frame)
      (second.handleFrame config answers frame) := by
  have received := agree.emit (.received frame)
  have elsewhere : frame.command = .syn ∨ frame.command = .psh ∨ frame.command = .fin →
      frame.streamId ≠ streamId := by
    intro serving same
    simp [servesStream, serving, same] at kept
  unfold SessionLoop.handleFrame
  dsimp only
  split
  · exact received.handleSettings config answers frame
  · rename_i command
    exact received.handleSyn (elsewhere (.inl command)) answers rfl
  · rename_i command
    exact received.handlePsh (elsewhere (.inr (.inl command))) config answers rfl
  · exact received.handleFin frame
  · exact received.done
  · exact received.writeFrame answers.reply .heartResponse frame.streamId []
  · exact received.done

section Own

variable {answers : Answers} (written : answers.reply = .ok ())
include written

theorem writeFrame_own (agree : first.AgreeBut streamId second) {command : FrameCommand}
    (visible : command = .synack ∨ command = .fin) :
    OutcomesAgree streamId (first.writeFrame answers.reply command streamId [])
      (second, .ok ()) := by
  unfold SessionLoop.writeFrame
  rw [dif_pos (show ([] : List UInt8).length ≤ u16Max from Nat.zero_le _), written]
  refine ⟨agree.emit_own ?_, rfl⟩
  simp [Effect.serves, visible]

theorem acknowledge_own (agree : first.AgreeBut streamId second) :
    OutcomesAgree streamId (first.acknowledge answers streamId) (second, .ok ()) := by
  unfold SessionLoop.acknowledge
  split
  · apply writeFrame_own written _ (.inl rfl)
    refine ⟨agree.streams, ?_, agree.settings, agree.version, agree.alive, agree.effects⟩
    intro stream different
    simp only [Finset.mem_insert, different, false_or, agree.acknowledged stream different]
  · exact agree.done

theorem openUot_own (agree : first.AgreeBut streamId second) (initial : List UInt8) :
    OutcomesAgree streamId (first.openUot answers streamId initial) (second, .ok ()) := by
  have started : ∀ loop : SessionLoop, loop.AgreeBut streamId second →
      OutcomesAgree streamId
        (((loop.putStream streamId .udp).acknowledge answers streamId).andThen fun loop =>
          (loop.emit (.spawnUotReader streamId), .ok ())) (second, .ok ()) := by
    intro loop alike
    apply ((alike.putStream_own .udp).acknowledge_own written).andThen_own
    intro left agree
    exact (agree.emit_own (by simp [Effect.serves])).done
  unfold SessionLoop.openUot
  split
  · exact started first agree
  · exact started _ (agree.emit_own (by simp [Effect.serves]))

theorem establish_own (agree : first.AgreeBut streamId second) :
    OutcomesAgree streamId (first.establish answers streamId) (second, .ok ()) := by
  apply ((agree.putStream_own .tcp).acknowledge_own written).andThen_own
  intro left agree
  exact (agree.emit_own (by simp [Effect.serves])).done

theorem openTcp_own (agree : first.AgreeBut streamId second) (config : Config)
    (address : TargetAddr) (initial : List UInt8) :
    OutcomesAgree streamId (first.openTcp config answers streamId address initial)
      (second, .ok ()) := by
  have dialled : (first.emit (.dial streamId ⟨config.tag, .connect, address⟩)).AgreeBut streamId
      second := agree.emit_own (by simp [Effect.serves])
  unfold SessionLoop.openTcp
  dsimp only
  split
  · exact dialled.writeFrame_own written (.inr rfl)
  · split
    · exact dialled.establish_own written
    · split
      · exact dialled.writeFrame_own written (.inr rfl)
      · exact (dialled.emit_own (by simp [Effect.serves])).establish_own written

theorem handlePsh_own (agree : first.AgreeBut streamId second)
    (seen : first.settingsSeen = true) (config : Config) {frame : Frame}
    (own : frame.streamId = streamId) :
    OutcomesAgree streamId (first.handlePsh config answers frame) (second, .ok ()) := by
  subst own
  unfold SessionLoop.handlePsh
  rw [if_neg (by simp [seen])]
  split
  · unfold SessionLoop.writePayload
    split
    · exact (agree.emit_own (by simp [Effect.serves])).done
    · split
      · exact (agree.emit_own (by simp [Effect.serves])).done
      · exact agree.removeStream_own.writeFrame_own written (.inr rfl)
  · have decoded : (first.emit (.decode frame.streamId frame.data)).AgreeBut frame.streamId
        second := agree.emit_own (by simp [Effect.serves])
    unfold SessionLoop.openStream SessionLoop.readTarget
    split
    · exact decoded.writeFrame_own written (.inr rfl)
    · dsimp only
      split
      · exact decoded.openUot_own written _
      · exact decoded.openTcp_own written config _ _

/-- Once the settings have been seen, a frame of the stream is invisible. -/
theorem handleFrame_own (agree : first.AgreeBut streamId second)
    (seen : first.settingsSeen = true) (config : Config) {frame : Frame}
    (serving : servesStream streamId frame = true) :
    OutcomesAgree streamId (first.handleFrame config answers frame) (second, .ok ()) := by
  have received : (first.emit (.received frame)).AgreeBut streamId second :=
    agree.emit_own serving
  simp only [servesStream, decide_eq_true_eq] at serving
  obtain ⟨command, own⟩ := serving
  subst own
  rcases command with command | command | command
  · simp only [SessionLoop.handleFrame, command, SessionLoop.handleSyn]
    rw [if_neg (by simp [SessionLoop.emit, seen])]
    exact received.acknowledge_own written
  · simp only [SessionLoop.handleFrame, command]
    exact received.handlePsh_own written seen config rfl
  · simp only [SessionLoop.handleFrame, command]
    have removed := received.removeStream_own
    refine ⟨⟨removed.streams, ?_, removed.settings, removed.version, removed.alive,
      removed.effects⟩, rfl⟩
    intro stream different
    simp only [SessionLoop.handleFin, SessionLoop.emit, Finset.mem_erase, ne_eq, different,
      not_false_eq_true, true_and, agree.acknowledged stream different]

end Own

end SessionLoop.AgreeBut

/-- The TLS writer takes every frame that this event makes the loop write. -/
def Event.Written : Event → Prop
  | .frame _ answers => answers.reply = .ok () ∧ answers.secondReply = .ok ()
  | .readFails _ => True

/-- What the rest of the world sees of a stream: the targets dialled for it, the
bytes for its outbound or its UDP relay, and the frames that answer for it. -/
def Effect.visible (streamId : UInt32) : Effect → Bool
  | .dial other _ => decide (other = streamId)
  | .outboundWrite other _ => decide (other = streamId)
  | .uotSend other _ => decide (other = streamId)
  | .reply frame =>
      decide ((frame.command = .synack ∨ frame.command = .fin) ∧ frame.streamId = streamId)
  | _ => false

def SessionLoop.observed (loop : SessionLoop) (streamId : UInt32) : List Effect :=
  loop.trace.filter (Effect.visible streamId)

theorem Effect.not_serves_of_visible {streamId other : UInt32} (different : other ≠ streamId)
    {effect : Effect} (visible : effect.visible other = true) :
    effect.serves streamId = false := by
  cases effect <;> simp_all [Effect.visible, Effect.serves]

namespace SessionLoop.AgreeBut

variable {streamId : UInt32} {first second : SessionLoop}

theorem observed (agree : first.AgreeBut streamId second) {other : UInt32}
    (different : other ≠ streamId) : first.observed other = second.observed other := by
  have masked : ∀ trace : List Effect, trace.filter (Effect.visible other) =
      (trace.filter fun effect => !effect.serves streamId).filter (Effect.visible other) := by
    intro trace
    rw [List.filter_filter]
    apply List.filter_congr
    intro effect _
    cases visible : effect.visible other with
    | false => rfl
    | true => simp [Effect.not_serves_of_visible different visible]
  unfold SessionLoop.observed
  rw [masked first.trace, masked second.trace, agree.effects]

theorem step (agree : first.AgreeBut streamId second) (config : Config) {event : Event}
    (kept : event.serves streamId = false) :
    ((sessionMachine config).next first event).AgreeBut streamId
      ((sessionMachine config).next second event) := by
  cases ended : second.ended with
  | true =>
      rw [next_of_ended config (agree.alive.trans ended), next_of_ended config ended]
      exact agree
  | false =>
      have running := agree.alive.trans ended
      cases event with
      | readFails reason =>
          rw [next_readFails config running, next_readFails config ended]
          exact { agree with alive := rfl }
      | frame read answers =>
          rw [next_frame config running, next_frame config ended]
          exact (agree.handleFrame config answers kept).conclude.loops

theorem step_own (agree : first.AgreeBut streamId second) (seen : first.settingsSeen = true)
    (config : Config) {event : Event} (written : event.Written)
    (serving : event.serves streamId = true) :
    ((sessionMachine config).next first event).AgreeBut streamId second := by
  cases event with
  | readFails reason => cases serving
  | frame read answers =>
      cases ended : first.ended with
      | true =>
          rw [next_of_ended config ended]
          exact agree
      | false =>
          rw [next_frame config ended]
          exact (agree.handleFrame_own written.1 seen config serving).conclude.loops

end SessionLoop.AgreeBut

theorem SessionLoop.settingsSeen_step (config : Config) {loop : SessionLoop}
    (seen : loop.settingsSeen = true) (event : Event) :
    ((sessionMachine config).next loop event).settingsSeen = true := by
  cases ended : loop.ended with
  | true =>
      rw [next_of_ended config ended]
      exact seen
  | false =>
      cases event with
      | readFails reason =>
          rw [next_readFails config ended]
          exact seen
      | frame read answers =>
          rw [next_frame config ended, conclude_settingsSeen]
          exact (loop.handleFrame_step config answers read).settings seen

theorem SessionLoop.settingsSeen_of_settings (config : Config) {loop : SessionLoop}
    (alive : loop.ended = false) {read : Frame} (settings : read.command = .settings)
    (answers : Answers) :
    ((sessionMachine config).next loop (.frame read answers)).settingsSeen = true := by
  have noted := (loop.emit (.received read)).noteSettings_step config answers read
  rw [next_frame config alive, conclude_settingsSeen, handleFrame_settings config settings]
  exact noted.settings rfl

/-- A session that starts with the settings and whose TLS writes succeed shows
of every stream what it shows without the frames of another one. -/
theorem siblings_do_not_notice (config : Config) {events : List Event} {read : Frame}
    {answers : Answers} (starts : events.head? = some (.frame read answers))
    (settings : read.command = .settings) (written : ∀ event ∈ events, event.Written)
    (streamId : UInt32) {other : UInt32} (different : other ≠ streamId) :
    ((sessionMachine config).run .new events).observed other =
      ((sessionMachine config).run .new
        (events.filter fun event => !event.serves streamId)).observed other := by
  obtain ⟨rest, rfl⟩ : ∃ rest, events = .frame read answers :: rest := by
    cases events with
    | nil => cases starts
    | cons event rest => exact ⟨rest, by rw [Option.some.inj starts]⟩
  have kept : (Event.frame read answers).serves streamId = false := by
    simp [Event.serves, servesStream, settings]
  rw [List.filter_cons_of_pos (by simp [kept]), Machine.run_cons, Machine.run_cons]
  have seen : ((sessionMachine config).next .new (.frame read answers)).settingsSeen = true :=
    SessionLoop.settingsSeen_of_settings config rfl settings answers
  have later : ∀ event ∈ rest, event.Written :=
    fun event member => written event (List.mem_cons_of_mem _ member)
  let related (first second : SessionLoop) : Prop :=
    first.AgreeBut streamId second ∧ first.settingsSeen = true
  have agree : related _ _ := (sessionMachine config).related_run_filter related
    (fun event => !event.serves streamId)
    (fun first second event _ kept related =>
      ⟨related.1.step config (by simpa using kept), first.settingsSeen_step config related.2 event⟩)
    (fun first second event written dropped related =>
      ⟨related.1.step_own related.2 config written (by simpa using dropped),
        first.settingsSeen_step config related.2 event⟩)
    ⟨.refl _, seen⟩ later
  exact agree.1.observed different

/-- A second stream, and data for it. -/
def secondSyn : Frame := { sampleSyn with streamId := 2 }

def secondTarget : Frame := ⟨.psh, 2, [1, 127, 0, 0, 1, 0, 80, 42], by decide⟩

/-- The dial of the first stream fails between two frames of the second. -/
def failedSibling : List Event :=
  [.frame sampleSettings .fine, .frame sampleSyn .fine, .frame secondSyn .fine,
    .frame sampleTarget { Answers.fine with dial := .error "connection refused" },
    .frame secondTarget .fine]

theorem failed_sibling_is_not_noticed :
    let alone := failedSibling.filter fun event => !event.serves 1
    alone.length = 3 ∧ ((sessionMachine sampleConfig).run .new alone).observed 2 ≠ [] ∧
      ((sessionMachine sampleConfig).run .new failedSibling).observed 2 =
        ((sessionMachine sampleConfig).run .new alone).observed 2 := by
  refine ⟨by decide +kernel, by decide +kernel, ?_⟩
  have written : ∀ event ∈ failedSibling, event.Written := by
    intro event member
    simp only [failedSibling, List.mem_cons, List.not_mem_nil, or_false] at member
    rcases member with rfl | rfl | rfl | rfl | rfl <;> exact ⟨rfl, rfl⟩
  exact siblings_do_not_notice sampleConfig rfl rfl written 1 (by decide)

end Rtunnel.Anytls.Inbound
