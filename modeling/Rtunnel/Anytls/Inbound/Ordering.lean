import Rtunnel.Anytls.Inbound.TargetOnce
import Rtunnel.Data.History

namespace Rtunnel.Anytls.Inbound

open Rtunnel.Data Rtunnel.Data.History

/-! The order of commands in one session.

A stream is opened, relayed or acknowledged only behind the client's settings; a
SYN or PSH that comes before them is answered with an alert and ends the
session.  Streams are acknowledged to a client of version 2 only, and once until
the client closes them.
-/

/-- The settings a client has sent. -/
def Effect.settings : Effect → Option Frame
  | .received read => if read.command = .settings then some read else none
  | _ => none

def DeclaresV2 (settings : Frame) : Prop :=
  ∃ version, settingsVersion settings.data = some version ∧ 2 ≤ version

def Effect.IsSynack (streamId : UInt32) : Effect → Prop
  | .reply answer => answer.command = .synack ∧ answer.streamId = streamId
  | _ => False

def Effect.IsClientFin (streamId : UInt32) : Effect → Prop
  | .received read => read.command = .fin ∧ read.streamId = streamId
  | _ => False

/-- A dial, a datagram relay or an acknowledgement. -/
def Effect.OpensStream : Effect → Prop
  | .dial _ _ => True
  | .uotSend _ _ => True
  | .spawnUotReader _ => True
  | .reply answer => answer.command = .synack
  | _ => False

structure Allowed (earlier : List Effect) (effect : Effect) : Prop where
  opensAfterSettings : effect.OpensStream → (latest Effect.settings earlier).isSome
  declared : ∀ streamId, effect.IsSynack streamId →
    ∃ settings, latest Effect.settings earlier = some settings ∧ DeclaresV2 settings
  acknowledgedOnce : ∀ streamId, effect.IsSynack streamId →
    ¬ Pending (Effect.IsSynack streamId) (Effect.IsClientFin streamId) earlier

/-- Effects that neither open a stream nor acknowledge one. -/
theorem Allowed.of_closed {earlier : List Effect} {effect : Effect}
    (closed : ¬ effect.OpensStream) (silent : ∀ streamId, ¬ effect.IsSynack streamId) :
    Allowed earlier effect :=
  ⟨fun opens => absurd opens closed, fun streamId synack => absurd synack (silent streamId),
    fun streamId synack => absurd synack (silent streamId)⟩

namespace SessionLoop

/-- The flags of the loop say what its trace says. -/
structure Ordered (loop : SessionLoop) : Prop where
  lawful : Lawful Allowed loop.trace
  seen : loop.settingsSeen = (latest Effect.settings loop.trace).isSome
  version : loop.clientV2 = true →
    ∃ settings, latest Effect.settings loop.trace = some settings ∧ DeclaresV2 settings
  acknowledged : ∀ streamId,
    Pending (Effect.IsSynack streamId) (Effect.IsClientFin streamId) loop.trace →
      streamId ∈ loop.synackedStreams

/-- A loop behind its settings. -/
structure Settled (loop : SessionLoop) : Prop where
  ordered : loop.Ordered
  seen : loop.settingsSeen = true

theorem ordered_new : new.Ordered :=
  ⟨lawful_nil, rfl, fun v2 => absurd v2 Bool.false_ne_true,
    fun _ pending => absurd pending not_pending_nil⟩

namespace Ordered

variable {loop : SessionLoop}

theorem emit (ordered : loop.Ordered) {effect : Effect} (allowed : Allowed loop.trace effect)
    (plain : effect.settings = none) (silent : ∀ streamId, ¬ effect.IsSynack streamId) :
    (loop.emit effect).Ordered := by
  have same : latest Effect.settings (loop.trace ++ [effect]) =
      latest Effect.settings loop.trace := latest_append_of_none loop.trace plain
  refine ⟨ordered.lawful.append_singleton allowed, ?_, ?_, ?_⟩
  · exact ordered.seen.trans (congrArg Option.isSome same.symm)
  · intro v2
    rw [SessionLoop.emit, same]
    exact ordered.version v2
  · intro streamId pending
    rcases pending_append_singleton.mp pending with synack | ⟨earlier, -⟩
    · exact absurd synack (silent streamId)
    · exact ordered.acknowledged streamId earlier

/-- A frame other than the settings changes none of the flags. -/
theorem received (ordered : loop.Ordered) {read : Frame} (other : read.command ≠ .settings) :
    (loop.emit (.received read)).Ordered :=
  ordered.emit (.of_closed id fun _ => id) (if_neg other) fun _ => id

theorem reply (ordered : loop.Ordered) {answer : Frame} (other : answer.command ≠ .synack) :
    (loop.emit (.reply answer)).Ordered :=
  ordered.emit (.of_closed other fun _ synack => other synack.1) rfl fun _ synack =>
    other synack.1

theorem writeFrame (ordered : loop.Ordered) (answer : Except Failure Unit)
    {command : FrameCommand} (other : command ≠ .synack) (streamId : UInt32)
    (data : List UInt8) : (loop.writeFrame answer command streamId data).1.Ordered := by
  unfold SessionLoop.writeFrame
  split
  · cases answer with
    | ok done => exact ordered.reply other
    | error reason => exact ordered
  · exact ordered

theorem noteSettings (ordered : loop.Ordered) {read : Frame}
    (settings : read.command = .settings) :
    ((loop.emit (.received read)).noteSettings read.data).Settled := by
  have newest : latest Effect.settings (loop.trace ++ [.received read]) = some read := by
    rw [latest_append_singleton, Effect.settings, if_pos settings, Option.some_or]
  refine ⟨⟨ordered.lawful.append_singleton (.of_closed id fun _ => id), ?_, ?_, ?_⟩, rfl⟩
  · exact (congrArg Option.isSome newest).symm
  · intro v2
    obtain ⟨version, declared, enough⟩ := (Option.any_eq_true _ _).mp v2
    exact ⟨read, newest, version, declared, of_decide_eq_true enough⟩
  · intro streamId pending
    rcases pending_append_singleton.mp pending with synack | ⟨earlier, -⟩
    · exact absurd synack id
    · exact ordered.acknowledged streamId earlier

/-- A closed stream may be acknowledged again. -/
theorem handleFin (ordered : loop.Ordered) {read : Frame} (fin : read.command = .fin) :
    ((loop.emit (.received read)).handleFin read).1.Ordered := by
  have received : (loop.emit (.received read)).Ordered :=
    ordered.received (by rw [fin]; decide)
  refine ⟨received.lawful, received.seen, received.version, fun streamId pending => ?_⟩
  refine Finset.mem_erase.mpr ⟨?_, received.acknowledged streamId pending⟩
  rintro rfl
  rcases pending_append_singleton.mp pending with synack | ⟨-, unclosed⟩
  · exact synack
  · exact unclosed ⟨fin, rfl⟩

end Ordered

namespace Settled

variable {loop : SessionLoop}

theorem emit (settled : loop.Settled) {effect : Effect} (plain : effect.settings = none)
    (silent : ∀ streamId, ¬ effect.IsSynack streamId) : (loop.emit effect).Settled := by
  refine ⟨settled.ordered.emit ⟨fun _ => ?_, ?_, ?_⟩ plain silent, settled.seen⟩
  · rw [← settled.ordered.seen]
    exact settled.seen
  · exact fun streamId synack => absurd synack (silent streamId)
  · exact fun streamId synack => absurd synack (silent streamId)

theorem writeFrame (settled : loop.Settled) (answer : Except Failure Unit)
    {command : FrameCommand} (other : command ≠ .synack) (streamId : UInt32)
    (data : List UInt8) : (loop.writeFrame answer command streamId data).1.Settled := by
  refine ⟨settled.ordered.writeFrame answer other streamId data, ?_⟩
  unfold SessionLoop.writeFrame
  split
  · cases answer <;> exact settled.seen
  · exact settled.seen

theorem putStream (settled : loop.Settled) (streamId : UInt32) (stream : InboundStream) :
    (loop.putStream streamId stream).Settled :=
  ⟨⟨settled.ordered.lawful, settled.ordered.seen, settled.ordered.version,
    settled.ordered.acknowledged⟩, settled.seen⟩

theorem removeStream (settled : loop.Settled) (streamId : UInt32) :
    (loop.removeStream streamId).Settled :=
  ⟨⟨settled.ordered.lawful, settled.ordered.seen, settled.ordered.version,
    settled.ordered.acknowledged⟩, settled.seen⟩

/-- The SYNACK is entered in the set before it is written. -/
theorem synack (settled : loop.Settled) (v2 : loop.clientV2 = true) {streamId : UInt32}
    (fresh : streamId ∉ loop.synackedStreams) {answer : Frame}
    (same : answer.streamId = streamId) :
    ({ loop with synackedStreams := insert streamId loop.synackedStreams }.emit
      (.reply answer)).Settled := by
  have ordered := settled.ordered
  have plain : latest Effect.settings (loop.trace ++ [.reply answer]) =
      latest Effect.settings loop.trace := latest_append_of_none loop.trace rfl
  have allowed : Allowed loop.trace (.reply answer) := by
    refine ⟨fun _ => ?_, fun _ _ => ordered.version v2, ?_⟩
    · rw [← ordered.seen]
      exact settled.seen
    · rintro _ ⟨-, rfl⟩ pending
      exact fresh (same ▸ ordered.acknowledged _ pending)
  refine ⟨⟨ordered.lawful.append_singleton allowed, ?_, ?_, ?_⟩, settled.seen⟩
  · exact ordered.seen.trans (congrArg Option.isSome plain.symm)
  · intro v2
    rw [SessionLoop.emit, plain]
    exact ordered.version v2
  · intro other pending
    rcases pending_append_singleton.mp pending with ⟨-, rfl⟩ | ⟨earlier, -⟩
    · exact same ▸ Finset.mem_insert_self _ _
    · exact Finset.mem_insert_of_mem (ordered.acknowledged other earlier)

theorem acknowledge (settled : loop.Settled) (answers : Answers) (streamId : UInt32) :
    (loop.acknowledge answers streamId).1.Settled := by
  unfold SessionLoop.acknowledge
  split
  · next due =>
      cases answer : answers.reply with
      | ok done => exact settled.synack due.1 due.2 rfl
      | error reason =>
          refine ⟨⟨settled.ordered.lawful, settled.ordered.seen, settled.ordered.version, ?_⟩,
            settled.seen⟩
          exact fun other pending =>
            Finset.mem_insert_of_mem (settled.ordered.acknowledged other pending)
  · exact settled

theorem establish (settled : loop.Settled) (answers : Answers) (streamId : UInt32) :
    (loop.establish answers streamId).1.Settled :=
  Attempt.andThen_keeps Settled ((settled.putStream streamId .tcp).acknowledge answers streamId)
    fun _ settled => settled.emit rfl fun _ => id

theorem openUot (settled : loop.Settled) (answers : Answers) (streamId : UInt32)
    (initial : List UInt8) : (loop.openUot answers streamId initial).1.Settled := by
  have sent : (if initial = [] then loop else loop.emit (.uotSend streamId initial)).Settled := by
    split
    · exact settled
    · exact settled.emit rfl fun _ => id
  exact Attempt.andThen_keeps Settled ((sent.putStream streamId .udp).acknowledge answers streamId)
    fun _ settled => settled.emit rfl fun _ => id

theorem writeFin (settled : loop.Settled) (answers : Answers) (streamId : UInt32) :
    (loop.writeFin answers streamId).1.Settled :=
  settled.writeFrame answers.reply (by decide) streamId []

theorem openTcp (settled : loop.Settled) (config : Config) (answers : Answers)
    (streamId : UInt32) (target : TargetAddr) (initial : List UInt8) :
    (loop.openTcp config answers streamId target initial).1.Settled := by
  have dialled : (loop.emit (.dial streamId ⟨config.tag, .connect, target⟩)).Settled :=
    settled.emit rfl fun _ => id
  unfold SessionLoop.openTcp
  dsimp only
  split
  · exact dialled.writeFin answers streamId
  · split
    · exact dialled.establish answers streamId
    · split
      · exact dialled.writeFin answers streamId
      · exact (dialled.emit rfl fun _ => id).establish answers streamId

theorem readTarget (settled : loop.Settled) (config : Config) (answers : Answers)
    (read : Frame) : (loop.readTarget config answers read).1.Settled := by
  unfold SessionLoop.readTarget
  split
  · exact settled.writeFin answers read.streamId
  · dsimp only
    split
    · exact settled.openUot answers read.streamId _
    · exact settled.openTcp config answers read.streamId _ _

theorem writePayload (settled : loop.Settled) (answers : Answers) (stream : InboundStream)
    (read : Frame) : (loop.writePayload answers stream read).1.Settled := by
  unfold SessionLoop.writePayload
  split
  · exact settled.emit rfl fun _ => id
  · split
    · exact settled.emit rfl fun _ => id
    · exact (settled.removeStream read.streamId).writeFin answers read.streamId

theorem handlePsh (settled : loop.Settled) (config : Config) (answers : Answers)
    (read : Frame) : (loop.handlePsh config answers read).1.Settled := by
  unfold SessionLoop.handlePsh
  rw [if_neg (by rw [settled.seen]; decide)]
  split
  · exact settled.writePayload answers _ read
  · exact (settled.emit rfl fun _ => id).readTarget config answers read

theorem handleSyn (settled : loop.Settled) (answers : Answers) (read : Frame) :
    (loop.handleSyn answers read).1.Settled := by
  unfold SessionLoop.handleSyn
  rw [if_neg (by rw [settled.seen]; decide)]
  exact settled.acknowledge answers read.streamId

end Settled

section Refusal

variable {loop : SessionLoop} {read : Frame}

/-- A refusal writes its alert, unless the write fails. -/
def refused (loop : SessionLoop) (answer : Except Failure Unit) (alert : Frame) : SessionLoop :=
  match answer with
  | .ok () => loop.emit (.reply alert)
  | .error _ => loop

theorem refuse_eq (loop : SessionLoop) (answer : Except Failure Unit) (message reason : String)
    (fits : (utf8Bytes message).length ≤ u16Max) :
    ∃ alert failure, alert.command = .alert ∧
      ((loop.writeAlert answer message).andThen fun loop => (loop, .error reason)) =
        (loop.refused answer alert, .error failure) := by
  refine ⟨⟨.alert, 0, utf8Bytes message, fits⟩, ?_⟩
  unfold writeAlert writeFrame
  rw [dif_pos fits]
  cases answer with
  | ok done => exact ⟨reason, rfl, rfl⟩
  | error failure => exact ⟨failure, rfl, rfl⟩

theorem handleFrame_refused (config : Config) (unseen : loop.settingsSeen = false)
    (opens : read.command = .syn ∨ read.command = .psh) (answers : Answers) :
    ∃ alert failure, alert.command = .alert ∧ loop.handleFrame config answers read =
      ((loop.emit (.received read)).refused answers.reply alert, .error failure) := by
  have unseenAfter : (loop.emit (.received read)).settingsSeen = false := unseen
  rcases opens with syn | psh
  · simp only [handleFrame, syn, handleSyn, unseenAfter, if_true]
    exact refuse_eq _ _ _ _ (by decide +kernel)
  · simp only [handleFrame, psh, handlePsh, unseenAfter, if_true]
    exact refuse_eq _ _ _ _ (by decide +kernel)

theorem Ordered.refused (ordered : loop.Ordered) (answer : Except Failure Unit) {alert : Frame}
    (command : alert.command = .alert) : (loop.refused answer alert).Ordered := by
  cases answer with
  | ok done => exact ordered.reply (by rw [command]; decide)
  | error reason => exact ordered

end Refusal

variable {loop : SessionLoop} {read : Frame}

theorem Settled.handleSettings (config : Config) (noted : (loop.noteSettings read.data).Settled)
    (answers : Answers) :
    (loop.handleSettings config answers read).1.Settled := by
  refine Attempt.andThen_keeps Settled ?_ fun loop settled => ?_
  · split
    · exact noted.writeFrame _ (by decide) _ _
    · exact noted
  · split
    · exact settled.writeFrame _ (by decide) _ _
    · exact settled

/-- A SYN or PSH finds the loop settled or is refused. -/
theorem Ordered.handleFrame_opens (ordered : loop.Ordered) (config : Config) (answers : Answers)
    (opens : read.command = .syn ∨ read.command = .psh) :
    (loop.handleFrame config answers read).1.Ordered := by
  have received : (loop.emit (.received read)).Ordered :=
    ordered.received (by rcases opens with command | command <;> rw [command] <;> decide)
  cases seen : loop.settingsSeen with
  | false =>
      obtain ⟨alert, failure, command, refusal⟩ := handleFrame_refused config seen opens answers
      rw [refusal]
      exact received.refused answers.reply command
  | true =>
      have settled : (loop.emit (.received read)).Settled := ⟨received, seen⟩
      rcases opens with syn | psh
      · simp only [handleFrame, syn]
        exact (settled.handleSyn answers read).ordered
      · simp only [handleFrame, psh]
        exact (settled.handlePsh config answers read).ordered

theorem Ordered.handleFrame (ordered : loop.Ordered) (config : Config) (answers : Answers)
    (read : Frame) : (loop.handleFrame config answers read).1.Ordered := by
  by_cases opens : read.command = .syn ∨ read.command = .psh
  · exact ordered.handleFrame_opens config answers opens
  cases command : read.command with
  | settings =>
      rw [handleFrame_settings config command]
      exact ((ordered.noteSettings command).handleSettings config answers).ordered
  | syn => exact absurd (.inl command) opens
  | psh => exact absurd (.inr command) opens
  | fin =>
      simp only [SessionLoop.handleFrame, command]
      exact ordered.handleFin command
  | heartRequest =>
      simp only [SessionLoop.handleFrame, command]
      exact (ordered.received (by rw [command]; decide)).writeFrame _ (by decide) _ _
  | _ =>
      simp only [SessionLoop.handleFrame, command]
      exact ordered.received (by simp [command])

theorem Ordered.run (config : Config) (events : List Event) :
    ((sessionMachine config).run new events).Ordered := by
  refine (sessionMachine config).run_invariant (fun loop event ordered => ?_) ordered_new events
  cases ended : loop.ended with
  | true =>
      rw [next_of_ended config ended]
      exact ordered
  | false =>
      cases event with
      | readFails reason =>
          rw [next_readFails config ended]
          exact ⟨ordered.lawful, ordered.seen, ordered.version, ordered.acknowledged⟩
      | frame read answers =>
          rw [next_frame config ended]
          have handled := ordered.handleFrame config answers read
          generalize loop.handleFrame config answers read = outcome at handled
          obtain ⟨after, reason | done⟩ := outcome
          · exact ⟨handled.lawful, handled.seen, handled.version, handled.acknowledged⟩
          · exact handled

/-- A loop that waits for the settings has raised no alert, or it has ended. -/
structure Waiting (loop : SessionLoop) : Prop where
  unseen : loop.settingsSeen = false
  calm : loop.ended = false → loop.Calm

theorem waiting_new : new.Waiting :=
  ⟨rfl, fun _ _ member => absurd member List.not_mem_nil⟩

theorem next_refused (config : Config) (running : loop.ended = false)
    (unseen : loop.settingsSeen = false) (opens : read.command = .syn ∨ read.command = .psh)
    (answers : Answers) :
    ∃ alert, alert.command = .alert ∧ (sessionMachine config).next loop (.frame read answers) =
      { (loop.emit (.received read)).refused answers.reply alert with ended := true } := by
  obtain ⟨alert, failure, command, refusal⟩ := handleFrame_refused config unseen opens answers
  refine ⟨alert, command, ?_⟩
  rw [next_frame config running, refusal, conclude]

theorem refused_settingsSeen (loop : SessionLoop) (answer : Except Failure Unit) (alert : Frame) :
    (loop.refused answer alert).settingsSeen = loop.settingsSeen := by
  cases answer <;> rfl

/-- Frames that neither bring the settings nor open a stream. -/
theorem Waiting.handleFrame_idle (waiting : loop.Waiting) (running : loop.ended = false)
    (config : Config) (answers : Answers) (other : read.command ≠ .settings)
    (idle : ¬ (read.command = .syn ∨ read.command = .psh)) :
    (loop.handleFrame config answers read).1.settingsSeen = false ∧
      (loop.handleFrame config answers read).1.Calm := by
  have calm : (loop.emit (.received read)).Calm := (waiting.calm running).emit id
  cases command : read.command with
  | settings => exact absurd command other
  | syn => exact absurd (.inl command) idle
  | psh => exact absurd (.inr command) idle
  | heartRequest =>
      simp only [handleFrame, command, writeFrame]
      split
      · cases answers.reply with
        | ok done => exact ⟨waiting.unseen, calm.emit (by simp [Effect.IsAlert])⟩
        | error reason => exact ⟨waiting.unseen, calm⟩
      · exact ⟨waiting.unseen, calm⟩
  | _ =>
      simp only [handleFrame, command]
      exact ⟨waiting.unseen, calm⟩

theorem Waiting.next (waiting : loop.Waiting) (config : Config) {event : Event}
    (other : ∀ read ∈ event.carried, read.command ≠ .settings) :
    ((sessionMachine config).next loop event).Waiting := by
  cases ended : loop.ended with
  | true =>
      rw [next_of_ended config ended]
      exact waiting
  | false =>
      cases event with
      | readFails reason =>
          rw [next_readFails config ended]
          exact ⟨waiting.unseen, fun running => Bool.noConfusion running⟩
      | frame read answers =>
          by_cases opens : read.command = .syn ∨ read.command = .psh
          · obtain ⟨alert, -, stepped⟩ :=
              next_refused config ended waiting.unseen opens answers
            rw [stepped]
            exact ⟨(refused_settingsSeen _ _ _).trans waiting.unseen,
              fun running => Bool.noConfusion running⟩
          · obtain ⟨unseen, calm⟩ :=
              waiting.handleFrame_idle ended config answers (other read rfl) opens
            rw [next_frame config ended]
            obtain ⟨calmAfter, same⟩ := calm.conclude
            exact ⟨same.trans unseen, fun _ => calmAfter⟩

theorem Waiting.run (waiting : loop.Waiting) (config : Config) {events : List Event}
    (others : ∀ read ∈ events.filterMap Event.carried, read.command ≠ .settings) :
    ((sessionMachine config).run loop events).Waiting := by
  refine (sessionMachine config).run_invariant_of_forall
    (fun _ _ other waiting => waiting.next config other) waiting fun event member => ?_
  exact fun read carried => others read (List.mem_filterMap.mpr ⟨event, member, carried⟩)

/-- The first SYN or PSH before the settings is the last frame the loop reads. -/
theorem run_refused (config : Config) {before : List Event} (answers : Answers) (after : List Event)
    (running : ((sessionMachine config).run new before).ended = false)
    (unsettled : ∀ other ∈ before.filterMap Event.carried, other.command ≠ .settings)
    (opens : read.command = .syn ∨ read.command = .psh) :
    ∃ alert, alert.command = .alert ∧
      (sessionMachine config).run new (before ++ .frame read answers :: after) =
        { (((sessionMachine config).run new before).emit (.received read)).refused
            answers.reply alert with ended := true } := by
  have waiting := waiting_new.run config unsettled
  obtain ⟨alert, command, stepped⟩ := next_refused config running waiting.unseen opens answers
  refine ⟨alert, command, ?_⟩
  rw [Machine.run_append, Machine.run_cons, stepped, run_of_ended config rfl]

theorem refused_trace (loop : SessionLoop) (answer : Except Failure Unit) (alert : Frame) :
    (loop.refused answer alert).trace =
      loop.trace ++ if answer = .ok () then [.reply alert] else [] := by
  cases answer with
  | ok done => rfl
  | error reason => simp [refused]

end SessionLoop

open SessionLoop

/-- The order of commands, for every sequence of frames and answers.  Nothing is
opened before the settings; a SYN or PSH before them raises the session's one
alert, unless the write of the alert fails, and ends the session; a SYNACK is
written only while the latest settings declare version 2, and two of them for
one stream are separated by the client's FIN. -/
theorem commands_keep_their_order (config : Config) :
    (∀ events earlier effect later,
      ((sessionMachine config).run new events).trace = earlier ++ effect :: later →
        effect.OpensStream → ∃ read, .received read ∈ earlier ∧ read.command = .settings) ∧
    (∀ before read answers after, ((sessionMachine config).run new before).ended = false →
      (∀ other ∈ before.filterMap Event.carried, other.command ≠ .settings) →
      read.command = .syn ∨ read.command = .psh →
        ((sessionMachine config).run new before).Calm ∧
        ((sessionMachine config).run new (before ++ .frame read answers :: after)).ended = true ∧
        ∃ alert, alert.command = .alert ∧
          ((sessionMachine config).run new (before ++ .frame read answers :: after)).trace =
            ((sessionMachine config).run new before).trace ++ .received read ::
              if answers.reply = .ok () then [.reply alert] else []) ∧
    (∀ events earlier effect later streamId,
      ((sessionMachine config).run new events).trace = earlier ++ effect :: later →
        effect.IsSynack streamId →
          ∃ settings, latest Effect.settings earlier = some settings ∧ DeclaresV2 settings) ∧
    ∀ events earlier first between second later streamId,
      ((sessionMachine config).run new events).trace =
        earlier ++ first :: between ++ second :: later →
      first.IsSynack streamId → second.IsSynack streamId →
        ∃ effect ∈ between, effect.IsClientFin streamId := by
  refine ⟨?_, ?_, ?_, ?_⟩
  · intro events earlier effect later split opens
    have allowed := (Ordered.run config events).lawful earlier effect later split
    obtain ⟨settings, newest⟩ := Option.isSome_iff_exists.mp (allowed.opensAfterSettings opens)
    obtain ⟨entry, member, picked⟩ := mem_of_latest newest
    cases entry with
    | received read =>
        by_cases command : read.command = .settings
        · exact ⟨read, member, command⟩
        · exact absurd picked (by simp [Effect.settings, command])
    | _ => cases picked
  · intro before read answers after running unsettled opens
    obtain ⟨alert, command, reached⟩ :=
      run_refused config answers after running unsettled opens
    refine ⟨(waiting_new.run config unsettled).calm running, ?_, alert, command, ?_⟩
    · rw [reached]
    · rw [reached]
      simp only [refused_trace, emit, List.append_assoc, List.singleton_append]
  · intro events earlier effect later streamId split synack
    exact ((Ordered.run config events).lawful earlier effect later split).declared streamId synack
  · intro events earlier first between second later streamId split firstSynack secondSynack
    refine stop_between (split ▸ (Ordered.run config events).lawful) firstSynack ?_
    exact fun history allowed => allowed.acknowledgedOnce streamId secondSynack

def sampleFin : Frame := { sampleSyn with command := .fin }

def sampleSynack : Frame := { sampleSyn with command := .synack }

/-- A SYN without settings, and a stream that is opened twice. -/
theorem sample_commands_keep_their_order :
    ((sessionMachine sampleConfig).run new [.frame sampleSyn .fine]).ended = true ∧
    ∃ effect ∈ [Effect.received sampleFin, .received sampleSyn], effect.IsClientFin 1 := by
  have ordered := commands_keep_their_order sampleConfig
  refine ⟨(ordered.2.1 [] sampleSyn .fine [] rfl (by simp) (.inl rfl)).2.1, ?_⟩
  refine ordered.2.2.2 [.frame sampleSettings .fine, .frame sampleSyn .fine,
    .frame sampleFin .fine, .frame sampleSyn .fine]
    [.received sampleSettings, .reply ⟨.serverSettings, 0, serverSettings, by decide +kernel⟩,
      .reply ⟨.updatePaddingScheme, 0, [], by decide⟩, .received sampleSyn]
    (.reply sampleSynack) _ (.reply sampleSynack) [] 1 ?_ ⟨rfl, rfl⟩ ⟨rfl, rfl⟩
  decide +kernel

end Rtunnel.Anytls.Inbound
