import Rtunnel.Anytls.Inbound.Boundaries
import Rtunnel.Anytls.Inbound.Fallback
import Rtunnel.Anytls.Inbound.Siblings
import Rtunnel.Anytls.Outbound.Integrity
import Rtunnel.Anytls.PaddingScheme

namespace Rtunnel.Anytls

open Rtunnel.Data
open Rtunnel.Anytls.Inbound
open Rtunnel.Anytls.Outbound

/-! From the client's streams to the server's outbounds.

The client greets the server with the hash of its password and some padding, and
writes its frames behind that.  The server skips the greeting of a user and hands
the rest to the session loop.  What the loop then does for one stream is decided
by the frames of that stream alone, however they are mixed with the others.
-/

def writeClientHelloWithPadding (passwordHash : String → Octets passwordHashLen)
    (password : String) (paddingLen : UInt16) : List UInt8 :=
  (passwordHash password).bytes ++
    (toBe 2 paddingLen.toNat ++ List.replicate paddingLen.toNat 0)

/-- A TLS connection with the greeting written to it, and the writer of the session. -/
structure Connected where
  hello : List UInt8
  writer : ClientWriter

/-- The settings wait in the writer's buffer for the first stream. -/
def connectSession (passwordHash : String → Octets passwordHashLen) (password : Option String)
    (state : ClientState) : Except Failure Connected :=
  match password with
  | none => .error "anytls outbound requires password"
  | some password =>
      match encodeFrame .settings 0 state.settings with
      | .error reason => .error reason
      | .ok settingsFrame => .ok {
          hello := writeClientHelloWithPadding passwordHash password state.padding0Len
          writer := .new settingsFrame }

theorem connectSession_eq_ok {passwordHash : String → Octets passwordHashLen}
    {password : String} {state : ClientState} {connected : Connected}
    (ok : connectSession passwordHash (some password) state = .ok connected) :
    ∃ settings : Frame, settings.command = .settings ∧
      connected.hello = writeClientHelloWithPadding passwordHash password state.padding0Len ∧
      connected.writer = .new settings.toBytes := by
  unfold connectSession encodeFrame at ok
  by_cases fits : state.settings.length ≤ u16Max
  · simp only [fits, dite_true] at ok
    cases ok
    exact ⟨⟨.settings, 0, state.settings, fits⟩, rfl, rfl, rfl⟩
  · simp only [fits, dite_false] at ok
    cases ok

theorem fillBuffer_append (ended : Failure) {width : Nat} (field : Octets width)
    (rest : List UInt8) : fillBuffer ended width (field.bytes ++ rest) = .ok (field, rest) := by
  simp only [fillBuffer, readExact_append]

/-- The greeting of a user is skipped to its last byte. -/
theorem Inbound.Gate.serve_hello (gate : Gate) {user : UserConfig} {password : String}
    (known : gate.users.find?
      (fun user => gate.passwordHash user.password = gate.passwordHash password) = some user)
    (paddingLen : UInt16) (answers : FallbackAnswers) (rest : List UInt8) :
    gate.serve answers
        (writeClientHelloWithPadding gate.passwordHash password paddingLen ++ rest) =
      .ok (.session user.username rest) := by
  have hash := fillBuffer_append earlyEof (gate.passwordHash password)
    (toBe 2 paddingLen.toNat ++ (List.replicate paddingLen.toNat 0 ++ rest))
  have length := fillBuffer_append endOfFile (Octets.ofNat 2 paddingLen.toNat)
    (List.replicate paddingLen.toNat 0 ++ rest)
  have small : paddingLen.toNat % 256 ^ 2 = paddingLen.toNat :=
    Nat.mod_eq_of_lt paddingLen.toNat_lt
  have width : (Octets.ofNat 2 paddingLen.toNat).toNat = paddingLen.toNat := by
    rw [Octets.toNat_ofNat, small]
  have padding : fillBuffer earlyEof (Octets.ofNat 2 paddingLen.toNat).toNat
      (List.replicate paddingLen.toNat 0 ++ rest) =
        .ok (⟨List.replicate paddingLen.toNat 0, by rw [List.length_replicate, width]⟩, rest) :=
    fillBuffer_append _ ⟨_, by rw [List.length_replicate, width]⟩ rest
  have read : gate.readClientHelloOrFallback
      (writeClientHelloWithPadding gate.passwordHash password paddingLen ++ rest) =
        .ok (.authenticated user.username, rest) := by
    simp only [Octets.ofNat] at length
    simp only [writeClientHelloWithPadding, List.append_assoc, readClientHelloOrFallback, hash,
      bind, Except.bind, known, length]
    rw [show (⟨toBe 2 paddingLen.toNat, _⟩ : Octets 2) = Octets.ofNat 2 paddingLen.toNat from rfl,
      padding]
    rfl
  simp only [serve, read]

namespace Inbound.SessionLoop

theorem writeFrame_succeeds (loop : SessionLoop) {answer : Except Failure Unit}
    (written : answer = .ok ()) (command : FrameCommand) (streamId : UInt32)
    {data : List UInt8} (fits : data.length ≤ u16Max) :
    (loop.writeFrame answer command streamId data).2 = .ok () := by
  unfold writeFrame
  rw [dif_pos fits, written]

theorem andThen_ok {first : Outcome} {rest : SessionLoop → Outcome} (ok : first.2 = .ok ())
    (later : ∀ loop, (rest loop).2 = .ok ()) : (first.andThen rest).2 = .ok () := by
  obtain ⟨loop, result⟩ := first
  dsimp only at ok
  subst ok
  exact later loop

variable {config : Config} {answers : Inbound.Answers}

theorem handleSettings_ok (schemeFits : config.serverPaddingScheme.length ≤ u16Max)
    (loop : SessionLoop) (frame : Frame) (first : answers.reply = .ok ())
    (second : answers.secondReply = .ok ()) :
    (loop.handleSettings config answers frame).2 = .ok () := by
  apply andThen_ok
  · split
    · exact writeFrame_succeeds _ first .serverSettings 0 (by decide +kernel)
    · rfl
  · intro loop
    split
    · exact writeFrame_succeeds loop second .updatePaddingScheme 0 schemeFits
    · rfl

/-- While its TLS writes succeed, only data and SYN before the settings fail the loop. -/
theorem handleFrame_ok (schemeFits : config.serverPaddingScheme.length ≤ u16Max)
    {loop : SessionLoop} {frame : Frame} (first : answers.reply = .ok ())
    (second : answers.secondReply = .ok ())
    (ready : loop.settingsSeen = true ∨ frame.command = .settings ∨ frame.command = .waste) :
    (loop.handleFrame config answers frame).2 = .ok () := by
  have early : frame.command ≠ .settings → frame.command ≠ .waste → loop.settingsSeen = true := by
    intro notSettings notWaste
    exact ready.resolve_right (not_or.mpr ⟨notSettings, notWaste⟩)
  by_cases serving : servesStream frame.streamId frame = true
  · have seen : loop.settingsSeen = true := by
      simp only [servesStream, and_true, decide_eq_true_eq] at serving
      apply early <;> rcases serving with command | command | command <;> simp [command]
    exact ((AgreeBut.refl loop).handleFrame_own first seen config serving).results
  · simp only [servesStream, and_true, decide_eq_true_eq, not_or] at serving
    unfold handleFrame
    dsimp only
    split
    · exact handleSettings_ok schemeFits _ frame first second
    · exact absurd (by assumption) serving.1
    · exact absurd (by assumption) serving.2.1
    · exact absurd (by assumption) serving.2.2
    · rfl
    · exact writeFrame_succeeds _ first .heartResponse frame.streamId (Nat.zero_le _)
    · rfl

end Inbound.SessionLoop

/-- The loop is alive; before the settings nothing but padding has been read. -/
structure Alive (read : List Frame) (loop : SessionLoop) : Prop where
  alive : loop.ended = false
  seen : loop.settingsSeen = true ∨ read.filter isPayload = []

theorem Alive.next {read : List Frame} {loop : SessionLoop} (alive : Alive read loop)
    {config : Config} (schemeFits : config.serverPaddingScheme.length ≤ u16Max) {frame : Frame}
    (first : SettingsFirst (read ++ [frame])) {answers : Inbound.Answers}
    (written : (Event.frame frame answers).Written) :
    Alive (read ++ [frame]) ((sessionMachine config).next loop (.frame frame answers)) := by
  have ready : loop.settingsSeen = true ∨ frame.command = .settings ∨ frame.command = .waste := by
    rcases alive.seen with seen | padding
    · exact .inl seen
    · by_cases waste : frame.command = .waste
      · exact .inr (.inr waste)
      · refine .inr (.inl (first frame ?_))
        simp [padding, isPayload, waste]
  have handled := SessionLoop.handleFrame_ok schemeFits written.1 written.2 ready
  have stepped := loop.handleFrame_step config answers frame
  constructor
  · rw [SessionLoop.next_frame config alive.alive]
    rcases outcome : loop.handleFrame config answers frame with ⟨after, result⟩
    rw [outcome] at handled stepped
    dsimp only at handled stepped
    subst handled
    exact stepped.alive.trans alive.alive
  · rcases ready with seen | settings | waste
    · exact .inl (loop.settingsSeen_step config seen _)
    · exact .inl (SessionLoop.settingsSeen_of_settings config alive.alive settings answers)
    · refine alive.seen.imp (fun seen => loop.settingsSeen_step config seen _) fun padding => ?_
      simp [padding, isPayload, waste]

/-- An effect of a frame that does not carry a stream does nothing for it. -/
theorem Inbound.Effect.served_of_from {streamId : UInt32} {frame : Frame} {seen : Bool}
    {effect : Effect} (unrelated : frame.streamId ≠ streamId ∨ frame.command ≠ .psh)
    (caused : effect.From frame seen) : effect.served streamId = .nothing := by
  have elsewhere : ∀ other, frame.command = .psh ∧ other = frame.streamId →
      other ≠ streamId := by
    intro other ⟨carries, same⟩
    rw [same]
    exact unrelated.resolve_right fun quiet => quiet carries
  cases effect with
  | dial other session => exact if_neg (elsewhere other caused)
  | outboundWrite other data => exact if_neg (elsewhere other caused)
  | uotSend other data => exact if_neg (elsewhere other caused)
  | spawnUotReader other => exact if_neg (elsewhere other caused)
  | _ => rfl

theorem served_append_list (streamId : UInt32) (trace added : List Effect)
    (silent : ∀ effect ∈ added, effect.served streamId = .nothing) :
    served streamId (trace ++ added) = served streamId trace := by
  induction added generalizing trace with
  | nil => rw [List.append_nil]
  | cons effect added ih =>
      obtain ⟨now, later⟩ := List.forall_mem_cons.mp silent
      rw [List.append_cons, ih _ later, served_append, now, Served.add_nothing]

namespace Outbound.StreamScript

variable (script : StreamScript)

/-- What the server has done once it has read so much of the script: a SYN alone
does nothing, the target is dialled, and what follows it is passed on. -/
def served : List Frame → Served
  | _ :: _ :: rest => .opened script.target.onWire (rest.flatMap Frame.data)
  | _ => .nothing

/-- What the server's table holds for the stream by then. -/
def kept : List Frame → Option InboundStream
  | _ :: _ :: rest =>
      if rest.any fun frame => frame.command = .fin then none
      else some (Served.keptAs script.target.onWire)
  | _ => none

/-- Behind the target a script has data and at most one FIN, at its end. -/
theorem next_of_payloads {payloads rest later : List Frame} {frame : Frame} {ending : List Frame}
    (carries : ∀ other ∈ payloads, other.command = .psh)
    (ends : ending = [] ∨ ∃ fin : Frame, ending = [fin] ∧ fin.command = .fin ∧ fin.data = [])
    (whole : rest ++ frame :: later = payloads ++ ending) :
    (rest.any fun frame => frame.command = .fin) = false ∧
      (frame.command = .psh ∨ frame.command = .fin ∧ frame.data = []) := by
  induction rest generalizing payloads with
  | nil =>
      refine ⟨rfl, ?_⟩
      cases payloads with
      | nil =>
          rcases ends with none | ⟨fin, one, command, data⟩
          · simp [none] at whole
          · simp only [one, List.nil_append, List.cons.injEq] at whole
            exact .inr ⟨whole.1 ▸ command, whole.1 ▸ data⟩
      | cons payload payloads =>
          simp only [List.nil_append, List.cons_append, List.cons.injEq] at whole
          rw [whole.1]
          exact .inl (carries payload List.mem_cons_self)
  | cons past rest ih =>
      cases payloads with
      | nil =>
          have total := congrArg List.length whole
          rcases ends with none | ⟨fin, one, -, -⟩
          · simp [none] at total
          · simp [one] at total
      | cons payload payloads =>
          simp only [List.cons_append, List.cons.injEq] at whole
          obtain ⟨rfl, whole⟩ := whole
          obtain ⟨unfinished, next⟩ := ih (fun other member =>
            carries other (List.mem_cons_of_mem _ member)) whole
          refine ⟨?_, next⟩
          simp [carries past List.mem_cons_self, unfinished]

/-- The next frame of a script. -/
theorem next_frame {streamId : UInt32} {own : List Frame} {frame : Frame}
    (within : own ++ [frame] <+: script.frames streamId) :
    (own = [] ∧ frame.command = .syn) ∨
    (∃ first, own = [first] ∧ frame.command = .psh ∧ frame.data = script.header) ∨
    ∃ first second rest, own = first :: second :: rest ∧
      (rest.any fun frame => frame.command = .fin) = false ∧
      (frame.command = .psh ∨ frame.command = .fin ∧ frame.data = []) := by
  obtain ⟨later, whole⟩ := within
  rw [List.append_assoc, List.singleton_append] at whole
  cases own with
  | nil =>
      simp only [frames, List.nil_append, List.cons_append, List.cons.injEq] at whole
      exact .inl ⟨rfl, by rw [whole.1]⟩
  | cons first own =>
      cases own with
      | nil =>
          simp only [frames, List.nil_append, List.cons_append, List.cons.injEq] at whole
          exact .inr (.inl ⟨first, rfl, by rw [whole.2.1], by rw [whole.2.1]⟩)
      | cons second rest =>
          simp only [frames, List.cons_append, List.cons.injEq] at whole
          refine .inr (.inr ⟨first, second, rest, rfl, next_of_payloads ?_ ?_ whole.2.2⟩)
          · intro other member
            obtain ⟨payload, -, rfl⟩ := List.mem_map.mp member
            rfl
          · cases script.closes with
            | true => exact .inr ⟨_, rfl, rfl, rfl⟩
            | false => exact .inl rfl

end Outbound.StreamScript

namespace Inbound.Standing

variable {streamId : UInt32} {loop : SessionLoop} {stream : Option InboundStream} {done : Served}

theorem fin (standing : Standing streamId loop stream done) (config : Config) {read : Frame}
    (command : read.command = .fin) (own : read.streamId = streamId) :
    Standing streamId ((sessionMachine config).next loop (.frame read .fine)) none done := by
  apply standing.next
  have received : Standing streamId (loop.emit (.received read)) stream done :=
    standing.emit_silent rfl
  simp only [SessionLoop.handleFrame, command, SessionLoop.handleFin]
  refine ⟨⟨received.seen, received.alive, ?_, received.account⟩, rfl⟩
  simp only [SessionLoop.removeStream, own, AList.lookup_erase]

/-- A frame of the stream takes the server one step along the script. -/
theorem script_next {script : StreamScript} {own : List Frame}
    (standing : Standing streamId loop (script.kept own) (script.served own)) (config : Config)
    {frame : Frame} (on : frame.streamId = streamId)
    (within : own ++ [frame] <+: script.frames streamId) :
    Standing streamId ((sessionMachine config).next loop (.frame frame .fine))
      (script.kept (own ++ [frame])) (script.served (own ++ [frame])) := by
  rcases script.next_frame within with ⟨rfl, syn⟩ | ⟨first, rfl, psh, header⟩ |
    ⟨first, second, rest, rfl, unfinished, next⟩
  · exact standing.syn config syn
  · have opened := standing.next_unknown config psh on
    have decoded := decodeSocksaddr_encode script.encoded []
    rw [List.append_nil, ← header] at decoded
    rw [decoded] at opened
    simpa [StreamScript.kept, StreamScript.served, header] using opened
  · have known : script.kept (first :: second :: rest) =
        some (Served.keptAs script.target.onWire) := by
      simp [StreamScript.kept, unfinished]
    rcases next with psh | ⟨fin, empty⟩
    · rw [known] at standing
      have fed := standing.next_known config psh on
      simp only [StreamScript.served, Served.opened_add_fed] at fed
      simpa [StreamScript.kept, StreamScript.served, unfinished, psh] using fed
    · simpa [StreamScript.kept, StreamScript.served, fin, empty] using standing.fin config fin on

end Inbound.Standing

/-- Where the loop stands with a stream after the frames it has read. -/
structure Reached (script : StreamScript) (streamId : UInt32) (read : List Frame)
    (loop : SessionLoop) : Prop where
  known : loop.streams.lookup streamId = script.kept (read.filter (onStream streamId))
  account : served streamId loop.trace = script.served (read.filter (onStream streamId))

/-- The outbound of the stream is dialled and takes what it is given. -/
def Inbound.Event.Taken (streamId : UInt32) : Event → Prop
  | .frame read answers =>
      onStream streamId read = true → answers.dial = .ok () ∧ answers.write = .ok ()
  | .readFails _ => True

namespace Reached

variable {script : StreamScript} {streamId : UInt32} {read : List Frame} {loop : SessionLoop}

/-- Frames of other streams, heartbeats, settings and padding change nothing. -/
theorem next_unrelated (reached : Reached script streamId read loop) (alive : loop.ended = false)
    (config : Config) {frame : Frame} (answers : Inbound.Answers)
    (unrelated : onStream streamId frame = false) :
    Reached script streamId (read ++ [frame])
      ((sessionMachine config).next loop (.frame frame answers)) := by
  have skipped :
      (read ++ [frame]).filter (onStream streamId) = read.filter (onStream streamId) := by
    simp [List.filter_append, unrelated]
  have elsewhere : frame.streamId ≠ streamId ∨ frame.command ≠ .psh ∧ frame.command ≠ .fin := by
    simp only [onStream, Bool.and_eq_false_iff, decide_eq_false_iff_not, not_or] at unrelated
    exact unrelated.imp_right fun other => ⟨other.2.1, other.2.2⟩
  have step := loop.handleFrame_step config answers frame
  obtain ⟨added, grown, caused⟩ := step.effects
  have same :
      ∀ outcome : Outcome, (SessionLoop.conclude outcome).1.streams = outcome.1.streams := by
    intro outcome
    obtain ⟨after, reason | done⟩ := outcome <;> rfl
  constructor
  · rw [SessionLoop.next_frame config alive, same, skipped, ← reached.known]
    exact step.streams streamId (elsewhere.imp_left Ne.symm)
  · rw [SessionLoop.next_frame config alive, SessionLoop.conclude_trace, skipped, grown,
      ← reached.account]
    apply served_append_list
    intro effect member
    exact Effect.served_of_from (elsewhere.imp_right And.left) (caused effect member)

theorem next_own (reached : Reached script streamId read loop) (alive : loop.ended = false)
    (seen : loop.settingsSeen = true) (config : Config) {frame : Frame}
    (on : onStream streamId frame = true)
    (within : (read ++ [frame]).filter (onStream streamId) <+: script.frames streamId) :
    Reached script streamId (read ++ [frame])
      ((sessionMachine config).next loop (.frame frame .fine)) := by
  have grown : (read ++ [frame]).filter (onStream streamId) =
      read.filter (onStream streamId) ++ [frame] := by
    simp [List.filter_append, on]
  have own : frame.streamId = streamId := by
    simp only [onStream, Bool.and_eq_true, decide_eq_true_eq] at on
    exact on.1
  have standing : Standing streamId loop _ _ := ⟨seen, alive, reached.known, reached.account⟩
  have stepped := standing.script_next config own (grown ▸ within)
  rw [← grown] at stepped
  exact ⟨stepped.known, stepped.account⟩

end Reached

/-- The events of a loop that reads these frames. -/
def Reads (events : List Event) (read : List Frame) : Prop :=
  events.map Event.carried = read.map some

/-- Induction over the frames that the loop has read: it is alive, and every
stream whose outbound takes its data stands where its script says. -/
theorem reads_follow_scripts {config : Config}
    (schemeFits : config.serverPaddingScheme.length ≤ u16Max) {sent : List Frame}
    (first : SettingsFirst sent) {script : UInt32 → StreamScript}
    (inOrder : ∀ streamId, sent.filter (onStream streamId) <+: (script streamId).frames streamId)
    {events : List Event} {read : List Frame} (arrived : read <+: sent)
    (reads : Reads events read) (written : ∀ event ∈ events, event.Written) :
    Alive read ((sessionMachine config).run .new events) ∧
      ∀ streamId, (∀ event ∈ events, event.Taken streamId) →
        Reached (script streamId) streamId read ((sessionMachine config).run .new events) := by
  induction read using List.reverseRecOn generalizing events with
  | nil =>
      rw [Reads, List.map_nil, List.map_eq_nil_iff] at reads
      subst reads
      exact ⟨⟨rfl, .inr rfl⟩, fun _ _ => ⟨rfl, rfl⟩⟩
  | append_singleton read frame ih =>
      rw [Reads, List.map_append, List.map_cons, List.map_nil] at reads
      obtain ⟨past, latest, rfl, earlier, last⟩ := List.map_eq_append_iff.mp reads
      obtain ⟨event, rfl⟩ : ∃ event, latest = [event] := by
        apply List.length_eq_one_iff.mp
        simpa using congrArg List.length last
      obtain ⟨answers, rfl⟩ : ∃ answers, event = .frame frame answers := by
        cases event with
        | readFails reason => simp [Event.carried] at last
        | frame other answers => exact ⟨answers, by simpa [Event.carried] using last⟩
      have before : read <+: sent := (List.prefix_append read [frame]).trans arrived
      have pastWritten : ∀ event ∈ past, event.Written := fun event member =>
        written event (List.mem_append_left _ member)
      have nowWritten := written (.frame frame answers) (by simp)
      obtain ⟨alive, reached⟩ := ih before earlier pastWritten
      have settings : SettingsFirst (read ++ [frame]) := by
        intro other found
        apply first
        obtain ⟨rest, whole⟩ := arrived.filter isPayload
        rw [← whole, List.head?_append, found]
        rfl
      have stepped := alive.next schemeFits settings nowWritten
      rw [Machine.run_append, Machine.run_cons, Machine.run_nil]
      refine ⟨stepped, fun streamId taken => ?_⟩
      have soFar := reached streamId fun event member => taken event (List.mem_append_left _ member)
      cases on : onStream streamId frame with
      | false => exact soFar.next_unrelated alive.alive config answers on
      | true =>
          have outbound := taken (.frame frame answers) (by simp) on
          have fine : answers = .fine := by
            obtain ⟨reply, secondReply, dial, write⟩ := answers
            obtain ⟨rfl, rfl⟩ := nowWritten
            obtain ⟨rfl, rfl⟩ := outbound
            rfl
          subst fine
          have seen := alive.seen.resolve_right fun padding => by
            have settings := settings frame (by
              simp [padding, isPayload_of_onStream on])
            simp [onStream, settings] at on
          exact soFar.next_own alive.alive seen config on
            ((arrived.filter _).trans (inOrder streamId))

/-- A client that knows a user's password connects, its streams' frames are
written in any order the writer admits, under padding plans of bounded sizes.
Then the server skips the greeting and reads whole frames.  While its TLS writes
succeed its loop does not end, whatever outbounds fail; and every stream whose
own outbound works has been served exactly what it sent: after a SYN nothing,
then its target, dialled once, and the bytes behind it in order.  The stream is
kept until its FIN, which makes the server forget it. -/
theorem streams_reach_their_targets (gate : Gate) {password : String} {user : UserConfig}
    (known : gate.users.find?
      (fun user => gate.passwordHash user.password = gate.passwordHash password) = some user)
    {state : ClientState} {connected : Connected}
    (connects : connectSession gate.passwordHash (some password) state = .ok connected)
    (script : UInt32 → StreamScript) {steps : List WriterStep}
    (interleaves : Interleaves script steps)
    (bounded : ∀ frame padding, .write frame padding ∈ steps → padding.Bounded) :
    let writer := writerMachine.run connected.writer steps
    gate.serve .fine (connected.hello ++ writer.inner) =
      .ok (.session user.username writer.inner) ∧
    ∃ sent, frames.readAll writer.inner = (sent, []) ∧
      ∀ config : Config, config.serverPaddingScheme.length ≤ u16Max →
        ∀ read events, read <+: sent → Reads events read → (∀ event ∈ events, event.Written) →
          let loop := (sessionMachine config).run .new events
          loop.ended = false ∧
          ∀ streamId, (∀ event ∈ events, event.Taken streamId) →
            read.filter (onStream streamId) <+: (script streamId).frames streamId ∧
            served streamId loop.trace =
              (script streamId).served (read.filter (onStream streamId)) ∧
            loop.streams.lookup streamId =
              (script streamId).kept (read.filter (onStream streamId)) := by
  intro writer
  obtain ⟨settings, isSettings, hello, created⟩ := connectSession_eq_ok connects
  refine ⟨hello ▸ gate.serve_hello known _ .fine writer.inner, ?_⟩
  obtain ⟨⟨sent, wrote, flushes, -⟩, -⟩ := interleaves.carries isSettings bounded
  rw [← created] at wrote
  have issued : sent.filter isPayload <+: settings :: steps.map WriterStep.frame :=
    ⟨_, flushes ▸ flushed_append_waiting (.buffer settings :: steps)⟩
  have inOrder : ∀ streamId,
      sent.filter (onStream streamId) <+: (script streamId).frames streamId := fun streamId =>
    (filter_onStream_held isSettings streamId issued).trans (interleaves.inOrder streamId)
  have first : SettingsFirst sent := settingsFirst_of_held isSettings issued
  refine ⟨sent, by rw [← frames.readAll_encodeAll sent, ← wrote], ?_⟩
  intro config schemeFits read events arrived reads written
  obtain ⟨alive, reached⟩ :=
    reads_follow_scripts schemeFits first inOrder arrived reads written
  refine ⟨alive.alive, fun streamId taken =>
    ⟨?_, (reached streamId taken).account, (reached streamId taken).known⟩⟩
  exact (arrived.filter _).trans (inOrder streamId)

def sampleState : ClientState := ⟨"md5", 30, samplePlan⟩

def sampleConnected : Connected where
  hello := writeClientHelloWithPadding sampleGate.passwordHash "secret" 30
  writer := .new (Frame.mk .settings 0 sampleState.settings (by decide +kernel)).toBytes

/-- A stream of one payload is served it, and is forgotten at its FIN. -/
theorem sample_stream_reaches_its_target :
    let inner := (writerMachine.run sampleConnected.writer Outbound.sampleSteps).inner
    let loop := (sessionMachine sampleConfig).run .new (delivered (frames.readAll inner).1)
    sampleGate.serve .fine (sampleConnected.hello ++ inner) = .ok (.session "alice" inner) ∧
      served 1 loop.trace = ⟨[.ip (.v4 loopback 80)], [104, 105], 0, []⟩ ∧
      loop.streams.lookup 1 = none := by
  intro inner loop
  have connects : connectSession sampleGate.passwordHash (some "secret") sampleState =
      .ok sampleConnected := by
    have fits : sampleState.settings.length ≤ u16Max := by decide +kernel
    simp only [connectSession, encodeFrame, dif_pos fits]
    rfl
  obtain ⟨authenticated, sent, read, delivers⟩ := streams_reach_their_targets sampleGate
    (show _ = some ⟨"alice", "secret"⟩ from rfl) connects (fun _ => sampleScript)
    sampleSteps_interleave fun _ _ => sampleSteps_bounded
  have all : (frames.readAll inner).1 = sent := congrArg Prod.fst read
  have fine : ∀ event ∈ delivered sent, ∃ frame, event = .frame frame .fine := by
    intro event member
    obtain ⟨frame, -, same⟩ := List.mem_map.mp member
    exact ⟨frame, same.symm⟩
  have reads : Reads (delivered sent) sent := by
    simp only [Reads, delivered, List.map_map]
    rfl
  obtain ⟨-, streams⟩ := delivers sampleConfig (by decide) sent (delivered sent)
    List.prefix_rfl reads (fun event member => by
      obtain ⟨frame, rfl⟩ := fine event member
      exact ⟨rfl, rfl⟩)
  obtain ⟨-, account, kept⟩ := streams 1 (fun event member => by
    obtain ⟨frame, rfl⟩ := fine event member
    exact fun _ => ⟨rfl, rfl⟩)
  have own : sent.filter (onStream 1) = sampleScript.frames 1 := by
    rw [← all]
    decide +kernel
  rw [own, ← all] at account kept
  exact ⟨authenticated, account, kept⟩

end Rtunnel.Anytls
