import Rtunnel.Anytls.Inbound.TargetOnce
import Rtunnel.Anytls.Socksaddr

namespace Rtunnel.Anytls.Inbound

open Rtunnel.Data

/-! A stream and the frames that carry it.

The bytes of a stream are a target and what the client sends to it.  They reach
the loop in frames that may be cut anywhere, but the loop reads a target out of
a single frame: one that is cut is dropped with a FIN, and the next frame is
taken for the start of the stream.
-/

/-- What the loop does for one stream: targets it dials, bytes for their
outbounds, UDP relays it starts and bytes for these. -/
structure Served where
  dialled : List TargetAddr
  outbound : List UInt8
  udpRelays : Nat
  udp : List UInt8
deriving DecidableEq

namespace Served

def nothing : Served := ⟨[], [], 0, []⟩

def add (first second : Served) : Served where
  dialled := first.dialled ++ second.dialled
  outbound := first.outbound ++ second.outbound
  udpRelays := first.udpRelays + second.udpRelays
  udp := first.udp ++ second.udp

@[simp] theorem add_nothing (served : Served) : served.add nothing = served := by
  simp [add, nothing]

@[simp] theorem nothing_add (served : Served) : nothing.add served = served := by
  simp [add, nothing]

theorem add_assoc (first second third : Served) :
    (first.add second).add third = first.add (second.add third) := by
  simp [add, Nat.add_assoc]

/-- A stream whose target has been read, and the bytes behind the target. -/
def opened (target : TargetAddr) (bytes : List UInt8) : Served :=
  if isUotV2MagicTarget target then ⟨[], [], 1, bytes⟩ else ⟨[target], bytes, 0, []⟩

/-- Bytes for a stream that is open. -/
def fed : InboundStream → List UInt8 → Served
  | .tcp, bytes => ⟨[], bytes, 0, []⟩
  | .udp, bytes => ⟨[], [], 0, bytes⟩

/-- How a stream is kept once its target has been read. -/
def keptAs (target : TargetAddr) : InboundStream :=
  if isUotV2MagicTarget target then .udp else .tcp

theorem opened_add_fed (target : TargetAddr) (initial rest : List UInt8) :
    (opened target initial).add (fed (keptAs target) rest) = opened target (initial ++ rest) := by
  cases magic : isUotV2MagicTarget target <;> simp [opened, keptAs, fed, add, magic]

end Served

def Effect.served (streamId : UInt32) : Effect → Served
  | .dial other session => if other = streamId then ⟨[session.target], [], 0, []⟩ else .nothing
  | .outboundWrite other data => if other = streamId then ⟨[], data, 0, []⟩ else .nothing
  | .spawnUotReader other => if other = streamId then ⟨[], [], 1, []⟩ else .nothing
  | .uotSend other data => if other = streamId then ⟨[], [], 0, data⟩ else .nothing
  | _ => .nothing

def served (streamId : UInt32) : List Effect → Served
  | [] => .nothing
  | effect :: trace => (effect.served streamId).add (served streamId trace)

@[simp] theorem served_append (streamId : UInt32) (trace : List Effect) (effect : Effect) :
    served streamId (trace ++ [effect]) = (served streamId trace).add (effect.served streamId) := by
  induction trace with
  | nil => simp [served]
  | cons first trace ih => simp only [List.cons_append, served, ih, Served.add_assoc]

/-- Where the loop stands with one stream while nothing fails. -/
structure Standing (streamId : UInt32) (loop : SessionLoop) (stream : Option InboundStream)
    (done : Served) : Prop where
  seen : loop.settingsSeen = true
  alive : loop.ended = false
  known : loop.streams.lookup streamId = stream
  account : served streamId loop.trace = done

namespace Standing

variable {streamId : UInt32} {loop : SessionLoop} {stream : Option InboundStream}
  {done : Served}

theorem emit (standing : Standing streamId loop stream done) (effect : Effect) :
    Standing streamId (loop.emit effect) stream (done.add (effect.served streamId)) where
  seen := standing.seen
  alive := standing.alive
  known := standing.known
  account := by rw [SessionLoop.emit, served_append, standing.account]

theorem emit_silent (standing : Standing streamId loop stream done) {effect : Effect}
    (silent : effect.served streamId = .nothing) :
    Standing streamId (loop.emit effect) stream done := by
  have later := standing.emit effect
  rw [silent, Served.add_nothing] at later
  exact later

theorem putStream (standing : Standing streamId loop stream done) (kind : InboundStream) :
    Standing streamId (loop.putStream streamId kind) (some kind) done where
  seen := standing.seen
  alive := standing.alive
  known := AList.lookup_insert _
  account := standing.account

/-- An outcome without failure, and where it leaves the stream. -/
def Reaches (streamId : UInt32) (outcome : Outcome) (stream : Option InboundStream)
    (done : Served) : Prop :=
  Standing streamId outcome.1 stream done ∧ outcome.2 = .ok ()

theorem reaches (standing : Standing streamId loop stream done) :
    Reaches streamId (loop, .ok ()) stream done :=
  ⟨standing, rfl⟩

theorem Reaches.andThen {outcome : Outcome} {rest : SessionLoop → Outcome}
    {later : Option InboundStream} {final : Served}
    (first : Reaches streamId outcome stream done)
    (second : ∀ loop, Standing streamId loop stream done →
      Reaches streamId (rest loop) later final) :
    Reaches streamId (outcome.andThen rest) later final := by
  obtain ⟨loop, result⟩ := outcome
  obtain ⟨standing, ok⟩ := first
  dsimp only at standing ok
  subst ok
  exact second loop standing

theorem writeFrame (standing : Standing streamId loop stream done) (command : FrameCommand)
    (target : UInt32) {data : List UInt8} (fits : data.length ≤ u16Max) :
    Reaches streamId (loop.writeFrame (.ok ()) command target data) stream done := by
  unfold SessionLoop.writeFrame
  rw [dif_pos fits]
  exact (standing.emit_silent rfl).reaches

theorem acknowledge (standing : Standing streamId loop stream done) (target : UInt32) :
    Reaches streamId (loop.acknowledge .fine target) stream done := by
  unfold SessionLoop.acknowledge
  split
  · apply writeFrame _ .synack target (Nat.zero_le _)
    exact ⟨standing.seen, standing.alive, standing.known, standing.account⟩
  · exact standing.reaches

theorem openUot (standing : Standing streamId loop stream done) (initial : List UInt8) :
    Reaches streamId (loop.openUot .fine streamId initial) (some .udp)
      (done.add ⟨[], [], 1, initial⟩) := by
  have started : ∀ loop, Standing streamId loop stream (done.add ⟨[], [], 0, initial⟩) →
      Reaches streamId (((loop.putStream streamId .udp).acknowledge .fine streamId).andThen
        fun loop => (loop.emit (.spawnUotReader streamId), .ok ())) (some .udp)
        (done.add ⟨[], [], 1, initial⟩) := by
    intro loop standing
    apply ((standing.putStream .udp).acknowledge streamId).andThen
    intro loop standing
    have spawned := standing.emit (.spawnUotReader streamId)
    rw [Served.add_assoc] at spawned
    simpa [Effect.served, Served.add] using spawned.reaches
  unfold SessionLoop.openUot
  split
  · rename_i empty
    apply started
    rw [empty]
    exact (Served.add_nothing done).symm ▸ standing
  · apply started
    have sent := standing.emit (.uotSend streamId initial)
    simpa [Effect.served] using sent

theorem establish (standing : Standing streamId loop stream done) :
    Reaches streamId (loop.establish .fine streamId) (some .tcp) done := by
  apply ((standing.putStream .tcp).acknowledge streamId).andThen
  intro loop standing
  exact (standing.emit_silent rfl).reaches

theorem openTcp (standing : Standing streamId loop stream done) (config : Config)
    (target : TargetAddr) (initial : List UInt8) :
    Reaches streamId (loop.openTcp config .fine streamId target initial) (some .tcp)
      (done.add ⟨[target], initial, 0, []⟩) := by
  have dialled := standing.emit (.dial streamId ⟨config.tag, .connect, target⟩)
  simp only [Effect.served, if_true] at dialled
  simp only [SessionLoop.openTcp, Answers.fine]
  split
  · rename_i empty
    rw [empty]
    exact dialled.establish
  · have wrote := dialled.emit (.outboundWrite streamId initial)
    rw [Served.add_assoc] at wrote
    simpa [Effect.served, Served.add, Answers.fine] using wrote.establish

/-- The first frame of a stream, or a frame after it was given up. -/
theorem openStream (standing : Standing streamId loop stream done) (config : Config)
    {frame : Frame} (own : frame.streamId = streamId) :
    match decodeSocksaddr frame.data with
    | .error _ => Reaches streamId (loop.openStream config .fine frame) stream done
    | .ok (target, consumed) =>
        Reaches streamId (loop.openStream config .fine frame) (some (Served.keptAs target))
          (done.add (.opened target (frame.data.drop consumed))) := by
  have decoding : Standing streamId (loop.emit (.decode frame.streamId frame.data)) stream done :=
    standing.emit_silent rfl
  unfold SessionLoop.openStream SessionLoop.readTarget
  subst own
  cases decodeSocksaddr frame.data with
  | error reason => exact decoding.writeFrame .fin frame.streamId (Nat.zero_le _)
  | ok found =>
      obtain ⟨target, consumed⟩ := found
      dsimp only
      cases magic : isUotV2MagicTarget target with
      | true =>
          simpa [Served.opened, Served.keptAs, magic] using
            decoding.openUot (frame.data.drop consumed)
      | false =>
          simpa [Served.opened, Served.keptAs, magic] using
            decoding.openTcp config target (frame.data.drop consumed)

theorem Reaches.conclude {outcome : Outcome} (reached : Reaches streamId outcome stream done) :
    Standing streamId (SessionLoop.conclude outcome).1 stream done := by
  obtain ⟨after, result⟩ := outcome
  obtain ⟨standing, ok⟩ := reached
  dsimp only at standing ok
  subst ok
  exact standing

theorem next {config : Config} {frame : Frame} (standing : Standing streamId loop stream done)
    {later : Option InboundStream} {final : Served}
    (handled : Reaches streamId (loop.handleFrame config .fine frame) later final) :
    Standing streamId ((sessionMachine config).next loop (.frame frame .fine)) later final := by
  rw [SessionLoop.next_frame config standing.alive]
  exact handled.conclude

section Data

variable (config : Config) {frame : Frame} (carries : frame.command = .psh)
  (own : frame.streamId = streamId)
include carries own

/-- Data on an open stream goes to its outbound or its UDP relay. -/
theorem next_known {kind : InboundStream} (standing : Standing streamId loop (some kind) done) :
    Standing streamId ((sessionMachine config).next loop (.frame frame .fine)) (some kind)
      (done.add (.fed kind frame.data)) := by
  apply standing.next
  have received : Standing streamId (loop.emit (.received frame)) (some kind) done :=
    standing.emit_silent rfl
  subst own
  simp only [SessionLoop.handleFrame, carries, SessionLoop.handlePsh, received.seen,
    received.known, Bool.true_eq_false, if_false]
  cases kind with
  | tcp =>
      have wrote := received.emit (.outboundWrite frame.streamId frame.data)
      simpa [Effect.served, Served.fed, SessionLoop.writePayload, Answers.fine] using wrote.reaches
  | udp =>
      have sent := received.emit (.uotSend frame.streamId frame.data)
      simpa [Effect.served, Served.fed, SessionLoop.writePayload] using sent.reaches

theorem next_unknown (standing : Standing streamId loop none done) :
    match decodeSocksaddr frame.data with
    | .error _ =>
        Standing streamId ((sessionMachine config).next loop (.frame frame .fine)) none done
    | .ok (target, consumed) =>
        Standing streamId ((sessionMachine config).next loop (.frame frame .fine))
          (some (Served.keptAs target)) (done.add (.opened target (frame.data.drop consumed))) := by
  subst own
  have received : Standing frame.streamId (loop.emit (.received frame)) none done :=
    standing.emit_silent rfl
  have handled : loop.handleFrame config .fine frame =
      (loop.emit (.received frame)).openStream config .fine frame := by
    simp only [SessionLoop.handleFrame, carries, SessionLoop.handlePsh, received.seen,
      received.known, Bool.true_eq_false, if_false]
  have read := received.openStream config rfl
  cases decoded : decodeSocksaddr frame.data with
  | error reason =>
      rw [decoded] at read
      exact standing.next (handled ▸ read)
  | ok found =>
      rw [decoded] at read
      exact standing.next (handled ▸ read)

end Data

end Standing

/-- What frames with these data do to a stream that is not open. -/
def servedBy : List (List UInt8) → Served
  | [] => .nothing
  | data :: rest =>
      match decodeSocksaddr data with
      | .error _ => servedBy rest
      | .ok (target, consumed) => .opened target (data.drop consumed ++ rest.flatten)

/-- The frames carry one stream's data and nothing else. -/
def Carry (streamId : UInt32) (frames : List Frame) : Prop :=
  ∀ frame ∈ frames, frame.command = .psh ∧ frame.streamId = streamId

instance (streamId : UInt32) (frames : List Frame) : Decidable (Carry streamId frames) :=
  inferInstanceAs (Decidable (∀ _ ∈ _, _))

def delivered (frames : List Frame) : List Event := frames.map fun read => .frame read .fine

namespace Standing

variable {streamId : UInt32} (config : Config)

theorem run_known {loop : SessionLoop} {kind : InboundStream} {done : Served}
    (standing : Standing streamId loop (some kind) done) {frames : List Frame}
    (carry : Carry streamId frames) :
    served streamId ((sessionMachine config).run loop (delivered frames)).trace =
      done.add (.fed kind (frames.map Frame.data).flatten) := by
  induction frames generalizing loop done with
  | nil => cases kind <;> simpa [Served.add, Served.fed, delivered] using standing.account
  | cons frame frames ih =>
      obtain ⟨⟨carries, own⟩, rest⟩ := List.forall_mem_cons.mp carry
      have later := ih (standing.next_known config carries own) rest
      simp only [delivered, List.map_cons, Machine.run_cons] at later ⊢
      rw [later, Served.add_assoc]
      cases kind <;> simp [Served.add, Served.fed]

theorem run_unknown {loop : SessionLoop} {done : Served}
    (standing : Standing streamId loop none done) {frames : List Frame}
    (carry : Carry streamId frames) :
    served streamId ((sessionMachine config).run loop (delivered frames)).trace =
      done.add (servedBy (frames.map Frame.data)) := by
  induction frames generalizing loop done with
  | nil => simpa [delivered, servedBy] using standing.account
  | cons frame frames ih =>
      obtain ⟨⟨carries, own⟩, rest⟩ := List.forall_mem_cons.mp carry
      have stepped := standing.next_unknown config carries own
      simp only [delivered, List.map_cons, Machine.run_cons, servedBy]
      cases decoded : decodeSocksaddr frame.data with
      | error reason =>
          rw [decoded] at stepped
          exact ih stepped rest
      | ok found =>
          obtain ⟨target, consumed⟩ := found
          rw [decoded] at stepped
          have later := stepped.run_known config rest
          rw [Served.add_assoc, Served.opened_add_fed] at later
          exact later

end Standing

/-- The first of the data that is not empty has at least so many bytes. -/
def firstHolds (length : Nat) : List (List UInt8) → Bool
  | [] => false
  | data :: rest => if data = [] then firstHolds length rest else decide (length ≤ data.length)

theorem encodeSocksaddr_onWire (target : TargetAddr) :
    encodeSocksaddr target.onWire = encodeSocksaddr target := by
  cases target with
  | domain host port => rfl
  | ip addr => cases addr <;> rfl

theorem encodeSocksaddr_ne_nil {target : TargetAddr} {encoded : List UInt8}
    (accepted : encodeSocksaddr target = .ok encoded) : encoded ≠ [] := by
  rintro rfl
  have read := readSocksaddr_encode accepted []
  cases read

/-- All spellings of the UDP target are of one length. -/
theorem magic_length {target : TargetAddr} {encoded : List UInt8}
    (magic : isUotV2MagicTarget target = true)
    (accepted : encodeSocksaddr target = .ok encoded) :
    encoded.length = uotV2MagicHost.utf8ByteSize + 4 := by
  cases target with
  | ip addr => cases magic
  | domain host port =>
      simp only [isUotV2MagicTarget, Bool.and_eq_true, decide_eq_true_eq] at magic
      have sameLength := congrArg List.length magic.1
      simp only [List.length_map, utf8Bytes_length] at sameLength
      simp only [encodeSocksaddr] at accepted
      split at accepted
      · cases accepted
        simp only [List.length_cons, List.length_append, utf8Bytes_length, toBe_length, sameLength]
      · cases accepted

theorem opened_ne_nothing (target : TargetAddr) (bytes : List UInt8) :
    Served.opened target bytes ≠ .nothing := by
  cases magic : isUotV2MagicTarget target <;> simp [Served.opened, Served.nothing, magic]

/-- Streams that are served alike have targets of one length and the same data. -/
theorem opened_injective {first second : TargetAddr} {firstEncoded secondEncoded : List UInt8}
    {firstBytes secondBytes : List UInt8}
    (firstAccepted : encodeSocksaddr first = .ok firstEncoded)
    (secondAccepted : encodeSocksaddr second = .ok secondEncoded)
    (same : Served.opened first firstBytes = .opened second secondBytes) :
    firstEncoded.length = secondEncoded.length ∧ firstBytes = secondBytes := by
  cases firstMagic : isUotV2MagicTarget first with
  | true =>
      cases secondMagic : isUotV2MagicTarget second with
      | true =>
          simp only [Served.opened, firstMagic, secondMagic, if_true, Served.mk.injEq, true_and]
            at same
          rw [magic_length firstMagic firstAccepted, magic_length secondMagic secondAccepted]
          exact ⟨rfl, same⟩
      | false => simp [Served.opened, firstMagic, secondMagic] at same
  | false =>
      cases secondMagic : isUotV2MagicTarget second with
      | true => simp [Served.opened, firstMagic, secondMagic] at same
      | false =>
          simp [Served.opened, firstMagic, secondMagic] at same
          obtain ⟨rfl, rfl⟩ := same
          rw [firstAccepted] at secondAccepted
          cases secondAccepted
          exact ⟨rfl, rfl⟩

/-- A stream that was opened had room for its target and what is behind it. -/
theorem servedBy_within (chunks : List (List UInt8)) :
    servedBy chunks = .nothing ∨ ∃ target encoded bytes,
      encodeSocksaddr target = .ok encoded ∧ servedBy chunks = .opened target bytes ∧
        encoded.length + bytes.length ≤ chunks.flatten.length := by
  induction chunks with
  | nil => exact .inl rfl
  | cons data rest ih =>
      cases decoded : decodeSocksaddr data with
      | error reason =>
          simp only [servedBy, decoded, List.flatten_cons, List.length_append]
          rcases ih with nothing | ⟨target, encoded, bytes, accepted, found, within⟩
          · exact .inl nothing
          · exact .inr ⟨target, encoded, bytes, accepted, found, by omega⟩
      | ok found =>
          obtain ⟨target, consumed⟩ := found
          obtain ⟨encoded, accepted, length, whole⟩ := decodeSocksaddr_eq_ok decoded
          refine .inr ⟨target, encoded, data.drop consumed ++ rest.flatten, accepted, ?_, ?_⟩
          · simp only [servedBy, decoded]
          · have total := congrArg List.length whole
            simp only [List.length_append, List.flatten_cons] at total ⊢
            omega

theorem decodeSocksaddr_nil : ∃ reason, decodeSocksaddr [] = .error reason := ⟨_, rfl⟩

/-- However the stream is cut, it is served whole exactly if the first frame
with data holds the whole target. -/
theorem servedBy_eq_iff {target : TargetAddr} {encoded payload : List UInt8}
    (accepted : encodeSocksaddr target = .ok encoded) {chunks : List (List UInt8)}
    (cut : chunks.flatten = encoded ++ payload) :
    servedBy chunks = .opened target.onWire payload ↔
      firstHolds encoded.length chunks = true := by
  induction chunks with
  | nil =>
      have empty := List.append_eq_nil_iff.mp cut.symm
      exact absurd empty.1 (encodeSocksaddr_ne_nil accepted)
  | cons data rest ih =>
      by_cases empty : data = []
      · subst empty
        obtain ⟨reason, failed⟩ := decodeSocksaddr_nil
        simp only [servedBy, failed, firstHolds, if_true]
        exact ih cut
      · rw [List.flatten_cons] at cut
        by_cases holds : encoded.length ≤ data.length
        · obtain ⟨initial, rfl⟩ : ∃ initial, data = encoded ++ initial := by
            have start : encoded <+: data := List.prefix_of_prefix_length_le
              (cut ▸ List.prefix_append encoded payload) (List.prefix_append data rest.flatten)
              holds
            obtain ⟨initial, same⟩ := start
            exact ⟨initial, same.symm⟩
          rw [List.append_assoc] at cut
          have behind := List.append_cancel_left cut
          simp [servedBy, decodeSocksaddr_encode accepted, firstHolds, empty, behind]
        · simp only [firstHolds, empty, if_false, decide_eq_true_eq, holds, iff_false]
          obtain ⟨missing, split⟩ : data <+: encoded := List.prefix_of_prefix_length_le
            (cut ▸ List.prefix_append data rest.flatten) (List.prefix_append encoded payload)
            (by omega)
          have cutShort : missing ≠ [] := by
            rintro rfl
            rw [List.append_nil] at split
            exact holds (Nat.le_of_eq (congrArg List.length split).symm)
          obtain ⟨reason, failed⟩ := decodeSocksaddr_cut accepted split.symm cutShort
          simp only [servedBy, failed]
          intro served
          rcases servedBy_within rest with nothing | ⟨other, otherEncoded, bytes, otherAccepted,
            found, within⟩
          · exact opened_ne_nothing _ _ (served.symm.trans nothing)
          · have same := opened_injective otherAccepted
              ((encodeSocksaddr_onWire target).trans accepted) (found.symm.trans served)
            have total := congrArg List.length cut
            have positive := List.length_pos_iff.mpr empty
            rw [same.2] at within
            simp only [List.length_append] at total
            omega

/-- The settings have been answered and no stream is open. -/
theorem Standing.settings {config : Config} (fits : config.serverPaddingScheme.length ≤ u16Max)
    {read : Frame} (command : read.command = .settings) (streamId : UInt32) :
    Standing streamId ((sessionMachine config).next .new (.frame read .fine)) none .nothing := by
  have noted : Standing streamId
      ((SessionLoop.new.emit (.received read)).noteSettings read.data) none .nothing :=
    ⟨rfl, rfl, rfl, rfl⟩
  have answered : Reaches streamId
      ((SessionLoop.new.emit (.received read)).handleSettings config .fine read) none
      .nothing := by
    have greeted : Reaches streamId
        (if ((SessionLoop.new.emit (.received read)).noteSettings read.data).clientV2 then
          ((SessionLoop.new.emit (.received read)).noteSettings read.data).writeFrame (.ok ())
            .serverSettings 0 serverSettings
        else ((SessionLoop.new.emit (.received read)).noteSettings read.data, .ok ())) none
        .nothing := by
      split
      · exact noted.writeFrame .serverSettings 0 (by decide +kernel)
      · exact noted.reaches
    apply greeted.andThen
    intro loop standing
    split
    · exact standing.writeFrame .updatePaddingScheme 0 fits
    · exact standing.reaches
  rw [SessionLoop.next_frame config rfl, SessionLoop.handleFrame_settings config command]
  exact answered.conclude

theorem Standing.syn {streamId : UInt32} {loop : SessionLoop} {done : Served}
    (standing : Standing streamId loop none done) (config : Config) {read : Frame}
    (command : read.command = .syn) :
    Standing streamId ((sessionMachine config).next loop (.frame read .fine)) none done := by
  apply standing.next
  have received : Standing streamId (loop.emit (.received read)) none done :=
    standing.emit_silent rfl
  simp only [SessionLoop.handleFrame, command, SessionLoop.handleSyn, received.seen,
    Bool.true_eq_false, if_false]
  exact received.acknowledge read.streamId

/-- After the settings and a SYN, the bytes of a target and a payload are served
as from one frame exactly if the first frame with data holds the whole target.
Then a target that is not the one for UDP is dialled once, and its outbound gets
the payload. -/
theorem stream_is_served_iff_target_whole {config : Config}
    (schemeFits : config.serverPaddingScheme.length ≤ u16Max) {settings syn : Frame}
    (first : settings.command = .settings) (second : syn.command = .syn)
    {target : TargetAddr} {encoded payload : List UInt8}
    (accepted : encodeSocksaddr target = .ok encoded) {streamId : UInt32} {frames : List Frame}
    (carry : Carry streamId frames)
    (cut : (frames.map Frame.data).flatten = encoded ++ payload) :
    let trace := ((sessionMachine config).run .new (delivered (settings :: syn :: frames))).trace
    (served streamId trace = .opened target.onWire payload ↔
      firstHolds encoded.length (frames.map Frame.data) = true) ∧
    (target.Portable → isUotV2MagicTarget target = false →
      (served streamId trace = ⟨[target], payload, 0, []⟩ ↔
        firstHolds encoded.length (frames.map Frame.data) = true)) := by
  have opening := (Standing.settings schemeFits first streamId).syn config second
  have account := opening.run_unknown config carry
  rw [Served.nothing_add] at account
  have whole : served streamId
      ((sessionMachine config).run .new (delivered (settings :: syn :: frames))).trace =
        .opened target.onWire payload ↔
      firstHolds encoded.length (frames.map Frame.data) = true := by
    rw [← servedBy_eq_iff accepted cut, ← account]
    rfl
  refine ⟨whole, fun portable plain => ?_⟩
  have dialled : Served.opened target.onWire payload = ⟨[target], payload, 0, []⟩ := by
    rw [(TargetAddr.onWire_eq_iff target).mpr portable]
    simp [Served.opened, plain]
  rw [← dialled]
  exact whole

/-- The target in one frame and its payload in another. -/
theorem target_in_one_frame_is_served :
    served 1 ((sessionMachine sampleConfig).run .new
      (delivered [sampleSettings, sampleSyn, sampleTarget, samplePayload])).trace =
        ⟨[.ip (.v4 loopback 80)], samplePayload.data, 0, []⟩ := by
  have schemeFits : sampleConfig.serverPaddingScheme.length ≤ u16Max := by decide
  have accepted : encodeSocksaddr (.ip (.v4 loopback 80)) = .ok sampleTarget.data := rfl
  have carry : Carry 1 [sampleTarget, samplePayload] := by decide
  have cut : ([sampleTarget, samplePayload].map Frame.data).flatten =
      sampleTarget.data ++ samplePayload.data := rfl
  have settings : sampleSettings.command = .settings := rfl
  have syn : sampleSyn.command = .syn := rfl
  exact ((stream_is_served_iff_target_whole schemeFits settings syn accepted carry cut).2
    trivial rfl).mpr (by decide)

/-- The same target in two frames. -/
def cutTarget : List Frame :=
  [⟨.psh, 1, [1, 127, 0], by decide⟩, ⟨.psh, 1, [0, 1, 0, 80, 42], by decide⟩]

/-- Nothing is dialled; the loop answers each half with a FIN. -/
theorem cut_target_is_dropped :
    encodeSocksaddr (.ip (.v4 loopback 80)) = .ok [1, 127, 0, 0, 1, 0, 80] ∧
      (cutTarget.map Frame.data).flatten = [1, 127, 0, 0, 1, 0, 80] ++ [42] ∧
      served 1 ((sessionMachine sampleConfig).run .new
        (delivered (sampleSettings :: sampleSyn :: cutTarget))).trace = .nothing ∧
      (((sessionMachine sampleConfig).run .new
        (delivered (sampleSettings :: sampleSyn :: cutTarget))).trace.filter
          fun effect => decide (effect = .reply ⟨.fin, 1, [], by decide⟩)).length = 2 := by
  decide +kernel

end Rtunnel.Anytls.Inbound
