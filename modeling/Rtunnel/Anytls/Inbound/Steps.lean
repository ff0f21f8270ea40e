import Rtunnel.Anytls.Inbound.Serve

namespace Rtunnel.Anytls.Inbound

open Rtunnel.Data

/-! What handling one frame can do.

A frame changes the table only at its own stream, and only if it carries data or
a FIN.  Everything it causes is one of a few effects, told apart by the frame.
-/

/-- The effects that a frame can have, by its command.  An alert is raised only
before the settings. -/
def Effect.From (frame : Frame) (settingsSeen : Bool) : Effect → Prop
  | .received other => other = frame
  | .reply answer =>
      match answer.command with
      | .alert => settingsSeen = false
      | .synack => answer.streamId = frame.streamId
      | .fin => frame.command = .psh ∧ answer.streamId = frame.streamId
      | _ => True
  | .decode streamId _ => frame.command = .psh ∧ streamId = frame.streamId
  | .dial streamId _ => frame.command = .psh ∧ streamId = frame.streamId
  | .outboundWrite streamId _ => frame.command = .psh ∧ streamId = frame.streamId
  | .spawnOutboundReader streamId => frame.command = .psh ∧ streamId = frame.streamId
  | .uotSend streamId _ => frame.command = .psh ∧ streamId = frame.streamId
  | .spawnUotReader streamId => frame.command = .psh ∧ streamId = frame.streamId

structure Step (frame : Frame) (before after : SessionLoop) : Prop where
  streams : ∀ streamId,
    streamId ≠ frame.streamId ∨ frame.command ≠ .psh ∧ frame.command ≠ .fin →
      after.streams.lookup streamId = before.streams.lookup streamId
  settings : before.settingsSeen = true → after.settingsSeen = true
  alive : after.ended = before.ended
  effects : ∃ added, after.trace = before.trace ++ added ∧
    ∀ effect ∈ added, effect.From frame before.settingsSeen

namespace Step

variable {frame : Frame}

/-- Updates that neither touch the table nor have an effect. -/
theorem of_same {before after : SessionLoop} (streams : after.streams = before.streams)
    (settings : before.settingsSeen = true → after.settingsSeen = true)
    (alive : after.ended = before.ended) (trace : after.trace = before.trace) :
    Step frame before after :=
  ⟨fun _ _ => by rw [streams], settings, alive, [], by rw [trace, List.append_nil],
    fun _ member => nomatch member⟩

theorem refl (loop : SessionLoop) : Step frame loop loop := of_same rfl id rfl rfl

theorem from_mono {effect : Effect} {earlier later : Bool} (fine : effect.From frame later)
    (weaker : earlier = true → later = true) : effect.From frame earlier := by
  cases effect with
  | reply answer =>
      unfold Effect.From at fine ⊢
      dsimp only at fine ⊢
      split at fine <;> simp_all
  | _ => exact fine

theorem trans {first second third : SessionLoop} (early : Step frame first second)
    (late : Step frame second third) : Step frame first third := by
  obtain ⟨earlier, firstTrace, firstFine⟩ := early.effects
  obtain ⟨later, secondTrace, secondFine⟩ := late.effects
  refine ⟨fun streamId kept => (late.streams streamId kept).trans (early.streams streamId kept),
    fun seen => late.settings (early.settings seen), late.alive.trans early.alive,
    earlier ++ later, ?_, ?_⟩
  · rw [secondTrace, firstTrace, List.append_assoc]
  · intro effect member
    rcases List.mem_append.mp member with member | member
    · exact firstFine effect member
    · exact from_mono (secondFine effect member) early.settings

theorem emit (loop : SessionLoop) {effect : Effect}
    (fine : effect.From frame loop.settingsSeen) : Step frame loop (loop.emit effect) :=
  ⟨fun _ _ => rfl, id, rfl, [effect], rfl, fun _ member => List.mem_singleton.mp member ▸ fine⟩

theorem andThen {before : SessionLoop} {first : Outcome} {rest : SessionLoop → Outcome}
    (early : Step frame before first.1) (late : ∀ loop, Step frame loop (rest loop).1) :
    Step frame before (first.andThen rest).1 :=
  Attempt.andThen_keeps (Step frame before) early fun loop sofar => sofar.trans (late loop)

end Step

namespace SessionLoop

variable {frame : Frame}

theorem writeFrame_step (loop : SessionLoop) (answer : Except Failure Unit)
    (command : FrameCommand) (streamId : UInt32) (data : List UInt8)
    (fine : ∀ fits, (Effect.reply ⟨command, streamId, data, fits⟩).From frame loop.settingsSeen) :
    Step frame loop (loop.writeFrame answer command streamId data).1 := by
  unfold writeFrame
  split
  · next fits =>
      cases answer with
      | ok done => exact .emit loop (fine fits)
      | error reason => exact .refl loop
  · exact .refl loop

theorem acknowledge_step (loop : SessionLoop) (answers : Answers) :
    Step frame loop (loop.acknowledge answers frame.streamId).1 := by
  unfold acknowledge
  split
  · refine .trans ?_ (writeFrame_step _ answers.reply .synack frame.streamId [] fun _ => rfl)
    exact .of_same rfl id rfl rfl
  · exact .refl loop

theorem noteSettings_step (config : Config) (loop : SessionLoop) (answers : Answers)
    (frame : Frame) :
    Step frame (loop.noteSettings frame.data) (loop.handleSettings config answers frame).1 := by
  refine .andThen ?_ fun loop => ?_
  · split
    · exact writeFrame_step _ _ _ _ _ fun _ => trivial
    · exact .refl _
  · split
    · exact writeFrame_step _ _ _ _ _ fun _ => trivial
    · exact .refl loop

theorem handleSettings_step (config : Config) (loop : SessionLoop) (answers : Answers) :
    Step frame loop (loop.handleSettings config answers frame).1 := by
  have noted : Step frame loop (loop.noteSettings frame.data) :=
    .of_same rfl (fun _ => rfl) rfl rfl
  exact noted.trans (noteSettings_step config loop answers frame)

/-- The refusal of a stream that comes before the settings. -/
theorem refuse_step (loop : SessionLoop) (unseen : loop.settingsSeen = false)
    (answer : Except Failure Unit) (message reason : String) :
    Step frame loop ((loop.writeAlert answer message).andThen fun loop =>
      (loop, .error reason)).1 :=
  .andThen (writeFrame_step loop answer .alert 0 _ fun _ => unseen) fun loop => .refl loop

theorem handleSyn_step (loop : SessionLoop) (answers : Answers) :
    Step frame loop (loop.handleSyn answers frame).1 := by
  unfold handleSyn
  split
  · next unseen => exact refuse_step loop unseen _ _ _
  · exact acknowledge_step loop answers

section Data

variable (carries : frame.command = .psh)
include carries

theorem putStream_step (loop : SessionLoop) (stream : InboundStream) :
    Step frame loop (loop.putStream frame.streamId stream) := by
  refine ⟨fun streamId kept => ?_, id, rfl, [], (List.append_nil _).symm,
    fun _ member => nomatch member⟩
  exact AList.lookup_insert_ne (kept.resolve_right fun other => other.1 carries)

theorem removeStream_step (loop : SessionLoop) :
    Step frame loop (loop.removeStream frame.streamId) := by
  refine ⟨fun streamId kept => ?_, id, rfl, [], (List.append_nil _).symm,
    fun _ member => nomatch member⟩
  exact AList.lookup_erase_ne (kept.resolve_right fun other => other.1 carries)

theorem writeFin_step (loop : SessionLoop) (answers : Answers) :
    Step frame loop (loop.writeFin answers frame.streamId).1 :=
  writeFrame_step loop answers.reply .fin frame.streamId [] fun _ => ⟨carries, rfl⟩

theorem establish_step (loop : SessionLoop) (answers : Answers) :
    Step frame loop (loop.establish answers frame.streamId).1 :=
  .andThen (.trans (putStream_step carries loop .tcp) (acknowledge_step _ answers)) fun loop =>
    .emit loop ⟨carries, rfl⟩

theorem openUot_step (loop : SessionLoop) (answers : Answers) (initial : List UInt8) :
    Step frame loop (loop.openUot answers frame.streamId initial).1 := by
  refine .andThen (.trans ?_ (acknowledge_step _ answers)) fun loop => .emit loop ⟨carries, rfl⟩
  refine .trans ?_ (putStream_step carries _ .udp)
  split
  · exact .refl loop
  · exact .emit loop ⟨carries, rfl⟩

theorem openTcp_step (config : Config) (loop : SessionLoop) (answers : Answers)
    (target : TargetAddr) (initial : List UInt8) :
    Step frame loop (loop.openTcp config answers frame.streamId target initial).1 := by
  have dialled : (Effect.dial frame.streamId ⟨config.tag, .connect, target⟩).From frame
      loop.settingsSeen := ⟨carries, rfl⟩
  refine .trans (.emit loop dialled) ?_
  unfold openTcp
  dsimp only
  split
  · exact writeFin_step carries _ answers
  · split
    · exact establish_step carries _ answers
    · split
      · exact writeFin_step carries _ answers
      · refine .trans ?_ (establish_step carries _ answers)
        exact .emit _ ⟨carries, rfl⟩

theorem readTarget_step (config : Config) (loop : SessionLoop) (answers : Answers) :
    Step frame loop (loop.readTarget config answers frame).1 := by
  unfold readTarget
  split
  · exact writeFin_step carries loop answers
  · dsimp only
    split
    · exact openUot_step carries loop answers _
    · exact openTcp_step carries config loop answers _ _

theorem writePayload_step (loop : SessionLoop) (answers : Answers) (stream : InboundStream) :
    Step frame loop (loop.writePayload answers stream frame).1 := by
  unfold writePayload
  split
  · exact .emit loop ⟨carries, rfl⟩
  · split
    · exact .emit loop ⟨carries, rfl⟩
    · exact .trans (removeStream_step carries loop) (writeFin_step carries _ answers)

theorem handlePsh_step (config : Config) (loop : SessionLoop) (answers : Answers) :
    Step frame loop (loop.handlePsh config answers frame).1 := by
  unfold handlePsh
  split
  · next unseen => exact refuse_step loop unseen _ _ _
  · split
    · exact writePayload_step carries loop answers _
    · refine .trans ?_ (readTarget_step carries config _ answers)
      exact .emit loop ⟨carries, rfl⟩

end Data

theorem handleFin_step (loop : SessionLoop) (ends : frame.command = .fin) :
    Step frame loop (loop.handleFin frame).1 := by
  refine ⟨fun streamId kept => ?_, id, rfl, [], (List.append_nil _).symm,
    fun _ member => nomatch member⟩
  exact AList.lookup_erase_ne (kept.resolve_right fun other => other.2 ends)

theorem handleFrame_step (config : Config) (loop : SessionLoop) (answers : Answers)
    (frame : Frame) : Step frame loop (loop.handleFrame config answers frame).1 := by
  have received : (Effect.received frame).From frame loop.settingsSeen := rfl
  refine .trans (.emit loop received) ?_
  unfold handleFrame
  dsimp only
  split
  · exact handleSettings_step config _ answers
  · exact handleSyn_step _ answers
  · next carries => exact handlePsh_step carries config _ answers
  · next ends => exact handleFin_step _ ends
  · exact .refl _
  · exact writeFrame_step _ _ _ _ _ fun _ => trivial
  · exact .refl _

end SessionLoop

def Effect.IsAlert : Effect → Prop
  | .reply frame => frame.command = .alert
  | _ => False

def Event.carried : Event → Option Frame
  | .frame read _ => some read
  | .readFails _ => none

/-- Apart from padding, the settings come first. -/
def SettingsFirst (frames : List Frame) : Prop :=
  ∀ frame, (frames.filter isPayload).head? = some frame → frame.command = .settings

def SessionLoop.Calm (loop : SessionLoop) : Prop := ∀ effect ∈ loop.trace, ¬ effect.IsAlert

namespace SessionLoop.Calm

theorem step {frame : Frame} {before after : SessionLoop} (calm : before.Calm)
    (seen : before.settingsSeen = true) (step : Step frame before after) : after.Calm := by
  obtain ⟨added, grown, caused⟩ := step.effects
  intro effect member alert
  rw [grown, List.mem_append] at member
  rcases member with earlier | later
  · exact calm effect earlier alert
  · have allowed := caused effect later
    cases effect with
    | reply answer =>
        have isAlert : answer.command = .alert := alert
        simp only [Effect.From, isAlert, seen] at allowed
        cases allowed
    | _ => exact alert

theorem emit {loop : SessionLoop} (calm : loop.Calm) {effect : Effect}
    (fine : ¬ effect.IsAlert) : (loop.emit effect).Calm := by
  intro other member
  rcases List.mem_append.mp member with earlier | same
  · exact calm other earlier
  · rw [List.mem_singleton.mp same]
    exact fine

theorem conclude {outcome : Outcome} (calm : outcome.1.Calm) :
    (SessionLoop.conclude outcome).1.Calm ∧
      (SessionLoop.conclude outcome).1.settingsSeen = outcome.1.settingsSeen := by
  obtain ⟨loop, reason | done⟩ := outcome <;> exact ⟨calm, rfl⟩

/-- Once the settings have been seen, no alert is raised any more. -/
theorem run {config : Config} {loop : SessionLoop} (calm : loop.Calm)
    (seen : loop.settingsSeen = true) (events : List Event) :
    ((sessionMachine config).run loop events).Calm := by
  have keeps : ∀ loop event, (loop.Calm ∧ loop.settingsSeen = true) →
      ((sessionMachine config).next loop event).Calm ∧
        ((sessionMachine config).next loop event).settingsSeen = true := by
    rintro loop event ⟨calm, seen⟩
    cases ended : loop.ended with
    | true =>
        rw [SessionLoop.next_of_ended config ended]
        exact ⟨calm, seen⟩
    | false =>
        cases event with
        | readFails reason =>
            rw [SessionLoop.next_readFails config ended]
            exact ⟨calm, seen⟩
        | frame frame answers =>
            have step := loop.handleFrame_step config answers frame
            obtain ⟨calmAfter, sameSeen⟩ := conclude (calm.step seen step)
            rw [SessionLoop.next_frame config ended]
            exact ⟨calmAfter, sameSeen.trans (step.settings seen)⟩
  exact ((sessionMachine config).run_invariant keeps ⟨calm, seen⟩ events).1

/-- A session whose frames begin with the settings never raises an alert. -/
theorem run_of_settingsFirst {config : Config} {loop : SessionLoop} (calm : loop.Calm)
    {events : List Event} (first : SettingsFirst (events.filterMap Event.carried)) :
    ((sessionMachine config).run loop events).Calm := by
  induction events generalizing loop with
  | nil => exact calm
  | cons event events ih =>
      cases ended : loop.ended with
      | true =>
          rw [SessionLoop.run_of_ended config ended]
          exact calm
      | false =>
          rw [Machine.run_cons]
          cases event with
          | readFails reason =>
              have rest : SettingsFirst (events.filterMap Event.carried) := first
              rw [SessionLoop.next_readFails config ended]
              exact ih calm rest
          | frame frame answers =>
              have received : (loop.emit (.received frame)).Calm := calm.emit id
              rw [SessionLoop.next_frame config ended]
              by_cases command : frame.command = .waste
              · have rest : SettingsFirst (events.filterMap Event.carried) := by
                  simpa [SettingsFirst, Event.carried, isPayload, command] using first
                simp only [SessionLoop.handleFrame, command, SessionLoop.conclude]
                exact ih received rest
              · have command : frame.command = .settings := first frame (by
                  simp [Event.carried, isPayload, command])
                have noted : ((loop.emit (.received frame)).noteSettings frame.data).Calm :=
                  received
                have step := (loop.emit (.received frame)).noteSettings_step config answers frame
                obtain ⟨calmAfter, sameSeen⟩ := conclude (noted.step rfl step)
                rw [SessionLoop.handleFrame_settings config command]
                exact calmAfter.run (sameSeen.trans (step.settings rfl)) events

end SessionLoop.Calm

end Rtunnel.Anytls.Inbound
