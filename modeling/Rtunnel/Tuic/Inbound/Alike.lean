import Rtunnel.Tuic.Assembler
import Rtunnel.Tuic.Inbound.Authentication

namespace Rtunnel.Tuic.Inbound

open Rtunnel.Data

/-! Connections that differ in one association.

`Alike` relates two connections that agree on everything but the relay and the
fragments of one association.  Every handler answers alike on both, unless it is
given a packet of that association, and leaves them alike.
-/

variable {setting : Setting}

/-- The fragments of the other associations. -/
def apart (assembler : PacketAssembler) (assocId : UInt16) : PacketAssembler :=
  ⟨assembler.fragments.retain fun key _ => decide (key.1 ≠ assocId)⟩

section Fragments

variable {assocId : UInt16}

theorem apart_put_own (assembler : PacketAssembler) (pktId : UInt16)
    (group : Option FragmentedPacket) :
    apart (assembler.put (assocId, pktId) group) assocId = apart assembler assocId := by
  have absent : ((apart assembler assocId).fragments.lookup (assocId, pktId)) = none := by
    simp only [apart, KeyedMap.lookup_retain]
    cases assembler.fragments.lookup (assocId, pktId) <;> simp [Option.filter]
  have erased : (apart assembler assocId).fragments.erase (assocId, pktId) =
      (apart assembler assocId).fragments := KeyedMap.erase_of_lookup_none absent
  refine congrArg PacketAssembler.mk ?_
  cases group with
  | none => exact (KeyedMap.retain_erase _ _ _).trans erased
  | some entry => exact (KeyedMap.retain_insert_of_neg (by simp) _).trans erased

theorem apart_put_other (assembler : PacketAssembler) {key : UInt16 × UInt16}
    (different : key.1 ≠ assocId) (group : Option FragmentedPacket) :
    apart (assembler.put key group) assocId = (apart assembler assocId).put key group := by
  refine congrArg PacketAssembler.mk ?_
  cases group with
  | none => exact KeyedMap.retain_erase _ _ _
  | some entry => exact KeyedMap.retain_insert_of_pos (by simp [different]) _

theorem lookup_apart (assembler : PacketAssembler) {key : UInt16 × UInt16}
    (different : key.1 ≠ assocId) :
    (apart assembler assocId).fragments.lookup key = assembler.fragments.lookup key := by
  simp only [apart, KeyedMap.lookup_retain]
  cases assembler.fragments.lookup key <;> simp [Option.filter, different]

theorem apart_pushAt_own (assembler : PacketAssembler) {packet : Packet}
    (own : packet.assocId = assocId) (now : Nat) :
    apart (assembler.pushAt packet now).1 assocId = apart assembler assocId := by
  unfold PacketAssembler.pushAt
  split
  · split <;> rfl
  · rw [own]
    exact apart_put_own assembler _ _

/-- Fragments of another association see only their own kind. -/
theorem pushAt_apart (assembler : PacketAssembler) {packet : Packet}
    (different : packet.assocId ≠ assocId) (now : Nat) :
    (apart assembler assocId).pushAt packet now =
      (apart (assembler.pushAt packet now).1 assocId, (assembler.pushAt packet now).2) := by
  unfold PacketAssembler.pushAt
  split
  · split <;> rfl
  · dsimp only
    rw [lookup_apart assembler different, apart_put_other assembler different]

theorem evictIdle_apart (assembler : PacketAssembler) (now timeout : Nat) :
    (apart assembler assocId).evictIdle now timeout =
      apart (assembler.evictIdle now timeout) assocId :=
  congrArg PacketAssembler.mk (KeyedMap.retain_retain_comm
    (fun _ packet => decide (now - packet.lastUsed < timeout))
    (fun key _ => decide (key.1 ≠ assocId)) assembler.fragments)

theorem push_apart (assembler : PacketAssembler) {packet : Packet}
    (different : packet.assocId ≠ assocId) (now : Nat) :
    (apart assembler assocId).push packet now =
      (apart (assembler.push packet now).1 assocId, (assembler.push packet now).2) := by
  unfold PacketAssembler.push
  rw [evictIdle_apart, pushAt_apart _ different]

end Fragments

/-- Every group is stored under the association it belongs to. -/
def Keyed (assembler : PacketAssembler) : Prop :=
  ∀ key entry, assembler.fragments.lookup key = some entry → entry.assocId = key.1

namespace Keyed

variable {assembler : PacketAssembler}

theorem put (keyed : Keyed assembler) {key : UInt16 × UInt16} {group : Option FragmentedPacket}
    (own : ∀ entry, group = some entry → entry.assocId = key.1) :
    Keyed (assembler.put key group) := by
  intro other entry found
  by_cases same : other = key
  · subst same
    exact own entry ((group_put_self assembler other group).symm.trans found)
  · exact keyed other entry ((group_put_other assembler same group).symm.trans found)

theorem finish_assocId (entry : FragmentedPacket) :
    (∀ left, (PacketAssembler.finish entry).1 = some left → left.assocId = entry.assocId) ∧
      ∀ whole, (PacketAssembler.finish entry).2 = some whole → whole.assocId = entry.assocId := by
  unfold PacketAssembler.finish
  split
  · exact ⟨fun left same => by cases same; rfl, fun whole same => by cases same⟩
  · split
    · exact ⟨fun left same => by cases same; rfl, fun whole same => by cases same⟩
    · split
      · exact ⟨fun left same => by cases same; rfl, fun whole same => by cases same⟩
      · exact ⟨fun left same => (by cases same), fun whole same => by cases same; rfl⟩

/-- A fragment keeps the groups in order, and a packet it completes belongs to
the fragment's association. -/
theorem pushAt (keyed : Keyed assembler) (packet : Packet) (now : Nat) :
    Keyed (assembler.pushAt packet now).1 ∧
      ∀ whole, (assembler.pushAt packet now).2 = .ok (some whole) →
        whole.assocId = packet.assocId := by
  unfold PacketAssembler.pushAt
  split
  · split
    · exact ⟨keyed, fun whole same => by cases same; rfl⟩
    · exact ⟨keyed, fun whole same => by cases same⟩
  · dsimp only
    have own : ((assembler.fragments.lookup (packet.assocId, packet.pktId)).getD
        (.opened packet now)).assocId = packet.assocId := by
      cases found : assembler.fragments.lookup (packet.assocId, packet.pktId) with
      | none => rfl
      | some entry => exact keyed _ entry found
    unfold PacketAssembler.pushFragment
    dsimp only
    split
    · exact ⟨keyed.put fun entry same => by cases same; exact own, fun whole same => by cases same⟩
    · obtain ⟨left, whole⟩ := finish_assocId (((assembler.fragments.lookup
        (packet.assocId, packet.pktId)).getD (.opened packet now)).accept packet now)
      exact ⟨keyed.put fun entry same => (left entry same).trans own,
        fun packet same => (whole packet (Except.ok.inj same)).trans own⟩

theorem evictIdle (keyed : Keyed assembler) (now timeout : Nat) :
    Keyed (assembler.evictIdle now timeout) := by
  intro key entry found
  simp only [PacketAssembler.evictIdle, KeyedMap.lookup_retain] at found
  exact keyed key entry (Option.filter_eq_some_iff.mp found).1

theorem push (keyed : Keyed assembler) (packet : Packet) (now : Nat) :
    Keyed (assembler.push packet now).1 ∧
      ∀ whole, (assembler.push packet now).2 = .ok (some whole) →
        whole.assocId = packet.assocId :=
  (keyed.evictIdle now fragmentIdleTimeout).pushAt packet now

end Keyed

/-- An authenticated connection with nothing left to replay. -/
def Serving (app : App setting) : Prop :=
  app.authenticated = true ∧ app.pendingUniCommands = [] ∧ app.pendingDatagrams = [] ∧
    Keyed app.packetAssembler

theorem App.replayCommands_of_empty {app : App setting} (now : Nat)
    (empty : app.pendingUniCommands = []) : app.replayCommands now = (app, .ok ()) := by
  have same : { app with pendingUniCommands := [] } = app := by rw [← empty]
  unfold App.replayCommands
  rw [empty, same]
  rfl

theorem App.replayDatagrams_of_empty {app : App setting} (now : Nat)
    (empty : app.pendingDatagrams = []) : app.replayDatagrams now = (app, .ok ()) := by
  have same : { app with pendingDatagrams := [] } = app := by rw [← empty]
  unfold App.replayDatagrams
  rw [empty, same]
  rfl

def App.graft (app : App setting) (udpSessions : KeyedMap UInt16 UdpSession)
    (packetAssembler : PacketAssembler) (trace : List Effect) : App setting :=
  { app with udpSessions := udpSessions, packetAssembler := packetAssembler, trace := trace }

/-- Two serving connections that differ in the relay and the fragments of one
association, and in what they have done so far; the second holds no fragment of
the association. -/
structure Alike (assocId : UInt16) (first second : App setting) : Prop where
  rest : first.graft ∅ .empty [] = second.graft ∅ .empty []
  serving : Serving first
  sessions : first.udpSessions.erase assocId = second.udpSessions.erase assocId
  fragments : apart first.packetAssembler assocId = apart second.packetAssembler assocId
  clean : apart second.packetAssembler assocId = second.packetAssembler

namespace Alike

variable {assocId : UInt16} {first second : App setting}

theorem refl {app : App setting} (serving : Serving app)
    (clean : apart app.packetAssembler assocId = app.packetAssembler) : Alike assocId app app :=
  ⟨rfl, serving, rfl, rfl, clean⟩

theorem grafted (alike : Alike assocId first second) :
    ∃ udpSessions packetAssembler trace, second =
      first.graft udpSessions packetAssembler trace := by
  refine ⟨second.udpSessions, second.packetAssembler, second.trace, ?_⟩
  have same := alike.rest
  cases first
  cases second
  simp only [App.graft, App.mk.injEq] at same ⊢
  simp [same]

theorem serving_second (alike : Alike assocId first second) :
    second.authenticated = true ∧ second.pendingUniCommands = [] ∧
      second.pendingDatagrams = [] := by
  obtain ⟨udpSessions, packetAssembler, trace, rfl⟩ := alike.grafted
  exact ⟨alike.serving.1, alike.serving.2.1, alike.serving.2.2.1⟩

theorem emit (alike : Alike assocId first second) (effect : Effect) :
    Alike assocId (first.emit effect) (second.emit effect) :=
  ⟨alike.rest, alike.serving, alike.sessions, alike.fragments, alike.clean⟩

/-- The relay of another association is the same on both sides. -/
theorem lookup_session (alike : Alike assocId first second) {other : UInt16}
    (different : other ≠ assocId) :
    first.udpSessions.lookup other = second.udpSessions.lookup other := by
  rw [← AList.lookup_erase_ne different, alike.sessions, AList.lookup_erase_ne different]

theorem putUdpSession (alike : Alike assocId first second) (other : UInt16)
    (session : UdpSession) :
    Alike assocId (first.putUdpSession other session) (second.putUdpSession other session) := by
  refine ⟨alike.rest, alike.serving, ?_, alike.fragments, alike.clean⟩
  by_cases same : other = assocId
  · subst same
    exact (KeyedMap.erase_insert_self _ _ _).trans
      (alike.sessions.trans (KeyedMap.erase_insert_self _ _ _).symm)
  · refine (KeyedMap.erase_insert_other _ same _).trans (Eq.trans ?_
      (KeyedMap.erase_insert_other _ same _).symm)
    rw [alike.sessions]

end Alike

/-- The same answer, from connections that stay alike. -/
structure AlikeAnswers {Answer : Type} (assocId : UInt16)
    (first second : App setting × Answer) : Prop where
  states : Alike assocId first.1 second.1
  answer : first.2 = second.2

theorem AlikeAnswers.andThen {assocId : UInt16} {first second : App.Result setting}
    {firstRest secondRest : App setting → App.Result setting}
    (answers : AlikeAnswers assocId first second)
    (rest : ∀ before after, Alike assocId before after →
      AlikeAnswers assocId (firstRest before) (secondRest after)) :
    AlikeAnswers assocId (first.andThen firstRest) (second.andThen secondRest) := by
  obtain ⟨before, result⟩ := first
  obtain ⟨after, other⟩ := second
  obtain ⟨states, answer⟩ := answers
  cases answer
  cases result with
  | error reason => exact ⟨states, rfl⟩
  | ok done => exact rest before after states

theorem AlikeAnswers.forEach {Item : Type} {assocId : UInt16} {before after : App setting}
    {handle : App setting → Item → App.Result setting}
    (each : ∀ before after item, Alike assocId before after →
      AlikeAnswers assocId (handle before item) (handle after item))
    (alike : Alike assocId before after) (items : List Item) :
    AlikeAnswers assocId (Attempt.forEach handle before items)
      (Attempt.forEach handle after items) := by
  induction items generalizing before after with
  | nil => exact ⟨alike, rfl⟩
  | cons item items ih =>
      exact (each before after item alike).andThen fun before after alike => ih alike

namespace Alike

variable {assocId : UInt16} {first second : App setting}

theorem sendToRelay (alike : Alike assocId first second) (streamId : UInt64)
    (state : StreamState) (data : List UInt8) (fin : Bool) :
    AlikeAnswers assocId (first.sendToRelay streamId state data fin)
      (second.sendToRelay streamId state data fin) := by
  obtain ⟨udpSessions, packetAssembler, trace, rfl⟩ := alike.grafted
  unfold App.sendToRelay
  generalize (if data = [] then Except.ok state.clientTx else state.clientTx.trySend data) = sent
  cases sent with
  | error reason => exact ⟨alike, rfl⟩
  | ok clientTx =>
      cases fin <;>
        exact ⟨⟨rfl, alike.serving, alike.sessions, alike.fragments, alike.clean⟩, rfl⟩

theorem parsePending (alike : Alike assocId first second) (streamId : UInt64)
    (pending : PendingStream) :
    AlikeAnswers assocId (first.parsePending streamId pending)
      (second.parsePending streamId pending) := by
  obtain ⟨udpSessions, packetAssembler, trace, rfl⟩ := alike.grafted
  unfold App.parsePending
  cases parsed : tryParseConnect setting.core pending.data with
  | error reason => exact ⟨alike, rfl⟩
  | ok outcome =>
      cases outcome with
      | none =>
          cases fin : pending.fin <;>
            exact ⟨⟨rfl, alike.serving, alike.sessions, alike.fragments, alike.clean⟩, rfl⟩
      | some connect =>
          cases fin : pending.fin <;>
            exact ⟨⟨rfl, alike.serving, alike.sessions, alike.fragments, alike.clean⟩, rfl⟩

theorem handleStreamData (alike : Alike assocId first second) (now : Nat) (streamId : UInt64)
    (data : List UInt8) (fin : Bool) :
    AlikeAnswers assocId (first.handleStreamData now streamId data fin)
      (second.handleStreamData now streamId data fin) := by
  have received := alike.emit (.received streamId fin)
  obtain ⟨udpSessions, packetAssembler, trace, rfl⟩ := alike.grafted
  have sameStreams : (first.graft udpSessions packetAssembler trace).streams = first.streams := rfl
  rw [App.handleStreamData_of_inside alike.serving.1,
    App.handleStreamData_of_inside alike.serving_second.1, sameStreams]
  cases first.streams.lookup streamId with
  | some state => exact received.sendToRelay streamId state data fin
  | none =>
      refine parsePending ?_ streamId _
      exact ⟨rfl, alike.serving, alike.sessions, alike.fragments, alike.clean⟩

theorem replayStreams (alike : Alike assocId first second) (now : Nat)
    (order : IterationOrder UInt64 PendingStream) :
    AlikeAnswers assocId (first.replayStreams now order) (second.replayStreams now order) := by
  obtain ⟨udpSessions, packetAssembler, trace, rfl⟩ := alike.grafted
  refine AlikeAnswers.forEach (fun before after entry alike => ?_) ?_ _
  · unfold App.replayStream
    split
    · exact ⟨alike, rfl⟩
    · exact alike.handleStreamData now _ _ _
  · exact ⟨rfl, alike.serving, alike.sessions, alike.fragments, alike.clean⟩

theorem deliver (alike : Alike assocId first second) {packet : Packet}
    (different : packet.assocId ≠ assocId) (target : TargetAddr) (mode : UdpMode) (now : Nat) :
    AlikeAnswers assocId (first.deliver packet target mode now)
      (second.deliver packet target mode now) := by
  have opened : AlikeAnswers assocId (first.udpSession packet.assocId mode now)
      (second.udpSession packet.assocId mode now) := by
    unfold App.udpSession
    rw [alike.lookup_session different]
    cases second.udpSessions.lookup packet.assocId with
    | some session => exact ⟨alike, rfl⟩
    | none => exact ⟨(alike.putUdpSession packet.assocId _).emit _, rfl⟩
  obtain ⟨states, answer⟩ := opened
  unfold App.deliver
  dsimp only
  rw [answer]
  split
  · exact ⟨states, rfl⟩
  · cases (second.udpSession packet.assocId mode now).2.tx.trySend ⟨target, packet.payload⟩ with
    | ok tx => exact ⟨(states.putUdpSession packet.assocId _).emit _, rfl⟩
    | error reason => exact ⟨states.putUdpSession packet.assocId _, rfl⟩

theorem handlePacket (alike : Alike assocId first second) (now : Nat) {data : List UInt8}
    (different : ∀ packet, parsePacket setting.core data = .ok packet → packet.assocId ≠ assocId)
    (mode : UdpMode) :
    AlikeAnswers assocId (first.handlePacket now data mode)
      (second.handlePacket now data mode) := by
  unfold App.handlePacket
  cases parsed : parsePacket setting.core data with
  | error reason => exact ⟨alike, rfl⟩
  | ok packet =>
      have other := different packet parsed
      have firstPush := push_apart first.packetAssembler other now
      have secondPush := push_apart second.packetAssembler other now
      rw [alike.fragments, secondPush] at firstPush
      obtain ⟨sameGroups, sameAnswer⟩ := Prod.mk.inj firstPush
      have secondClean : apart (second.packetAssembler.push packet now).1 assocId =
          (second.packetAssembler.push packet now).1 := by
        rw [alike.clean] at secondPush
        exact (congrArg Prod.fst secondPush).symm
      obtain ⟨keyed, own⟩ := alike.serving.2.2.2.push packet now
      have pushed : Alike assocId
          { first with packetAssembler := (first.packetAssembler.push packet now).1 }
          { second with packetAssembler := (second.packetAssembler.push packet now).1 } :=
        ⟨alike.rest, ⟨alike.serving.1, alike.serving.2.1, alike.serving.2.2.1, keyed⟩,
          alike.sessions, sameGroups.symm, secondClean⟩
      dsimp only
      rw [sameAnswer]
      cases outcome : (first.packetAssembler.push packet now).2 with
      | error reason => exact ⟨pushed, rfl⟩
      | ok whole =>
          cases whole with
          | none => exact ⟨pushed, rfl⟩
          | some whole =>
              dsimp only
              cases whole.target with
              | none => exact ⟨pushed, rfl⟩
              | some target =>
                  exact pushed.deliver (own whole outcome ▸ other) target mode now

/-- An authenticated connection has no deadline. -/
theorem checkAuthenticationDeadline (alike : Alike assocId first second) (now : Nat) :
    AlikeAnswers assocId (first, first.checkAuthenticationDeadline now)
      (second, second.checkAuthenticationDeadline now) := by
  refine ⟨alike, ?_⟩
  simp only [App.checkAuthenticationDeadline, alike.serving.1, alike.serving_second.1,
    Bool.true_eq_false, false_and, ↓reduceIte]

theorem handleDatagram (alike : Alike assocId first second) (now : Nat) {data : List UInt8}
    (different : data[1]? = some setting.core.typeCodePacket → ∀ packet,
      parsePacket setting.core data = .ok packet → packet.assocId ≠ assocId) :
    AlikeAnswers assocId (first.handleDatagram now data) (second.handleDatagram now data) := by
  refine (alike.checkAuthenticationDeadline now).andThen fun before after alike => ?_
  simp only [alike.serving.1, alike.serving_second.1, Bool.true_eq_false, ↓reduceIte]
  split
  · exact ⟨alike, rfl⟩
  · next code found =>
      split
      · exact ⟨alike, rfl⟩
      · split
        · next packets =>
            exact alike.handlePacket now (different (found.trans (congrArg some packets))) .native
        · exact ⟨alike, rfl⟩

theorem dispatchCommand (alike : Alike assocId first second) (now : Nat)
    {command : QueuedCommand setting.core}
    (different : command.code = setting.core.typeCodePacket → ∀ packet,
      parsePacket setting.core command.data = .ok packet → packet.assocId ≠ assocId) :
    AlikeAnswers assocId (first.dispatchCommand now command)
      (second.dispatchCommand now command) := by
  unfold App.dispatchCommand
  simp only [alike.serving.1, alike.serving_second.1, Bool.true_eq_false, ↓reduceIte]
  split
  · next packets => exact alike.handlePacket now (different packets) .quic
  · split
    · cases parseDissociate setting.core command.data with
      | error reason => exact ⟨alike, rfl⟩
      | ok ended =>
          refine ⟨⟨alike.rest, alike.serving, ?_, alike.fragments, alike.clean⟩, rfl⟩
          change (first.udpSessions.erase ended).erase assocId =
            (second.udpSessions.erase ended).erase assocId
          rw [AList.erase_erase ended assocId first.udpSessions, alike.sessions,
            AList.erase_erase ended assocId second.udpSessions]
    · exact ⟨alike, rfl⟩

/-- A further AUTHENTICATE command finds both queues empty. -/
theorem handleAuthData (alike : Alike assocId first second) (now : Nat)
    (order : IterationOrder UInt64 PendingStream) (data : List UInt8) :
    AlikeAnswers assocId (first.handleAuthData now order data)
      (second.handleAuthData now order data) := by
  have logged : Alike assocId
      (first.emit (.authenticate now first.authenticationDeadline data))
      (second.emit (.authenticate now second.authenticationDeadline data)) :=
    ⟨alike.rest, alike.serving, alike.sessions, alike.fragments, alike.clean⟩
  refine (logged.checkAuthenticationDeadline now).andThen fun before after alike => ?_
  cases App.verify setting data with
  | error reason => exact ⟨alike, rfl⟩
  | ok user =>
      have admitted : Alike assocId (before.admitUser user) (after.admitUser user) := by
        obtain ⟨udpSessions, packetAssembler, trace, rfl⟩ := alike.grafted
        exact ⟨rfl, ⟨rfl, alike.serving.2⟩, alike.sessions, alike.fragments, alike.clean⟩
      dsimp only
      rw [App.replayCommands_of_empty now admitted.serving.2.1,
        App.replayCommands_of_empty now admitted.serving_second.2.1, Attempt.andThen_ok,
        Attempt.andThen_ok, App.replayDatagrams_of_empty now admitted.serving.2.2.1,
        App.replayDatagrams_of_empty now admitted.serving_second.2.2, Attempt.andThen_ok,
        Attempt.andThen_ok]
      exact admitted.replayStreams now order

theorem handleUnidirectionalCommand (alike : Alike assocId first second) (now : Nat)
    (order : IterationOrder UInt64 PendingStream) {data : List UInt8}
    (different : data[1]? = some setting.core.typeCodePacket → ∀ packet,
      parsePacket setting.core data = .ok packet → packet.assocId ≠ assocId) :
    AlikeAnswers assocId (first.handleUnidirectionalCommand now order data)
      (second.handleUnidirectionalCommand now order data) := by
  unfold App.handleUnidirectionalCommand
  split
  · next long =>
      split
      · exact alike.handleAuthData now order data
      · refine alike.dispatchCommand now fun packets => different ?_
        rw [List.getElem?_eq_getElem long]
        exact congrArg some packets
  · exact ⟨alike, rfl⟩

theorem modifyUdpSession (alike : Alike assocId first second) (other : UInt16)
    (update : UdpSession → UdpSession) :
    Alike assocId (first.modifyUdpSession other update) (second.modifyUdpSession other update) := by
  by_cases same : other = assocId
  · subst same
    have own : ∀ app : App setting, (app.modifyUdpSession other update).graft ∅ .empty [] =
        app.graft ∅ .empty [] ∧
        (app.modifyUdpSession other update).udpSessions.erase other = app.udpSessions.erase other ∧
        (app.modifyUdpSession other update).packetAssembler = app.packetAssembler := by
      intro app
      unfold App.modifyUdpSession
      split
      · exact ⟨rfl, rfl, rfl⟩
      · exact ⟨rfl, KeyedMap.erase_insert_self _ _ _, rfl⟩
    have serving : Serving (first.modifyUdpSession other update) := by
      unfold App.modifyUdpSession
      split <;> exact alike.serving
    obtain ⟨firstRest, firstSessions, firstFragments⟩ := own first
    obtain ⟨secondRest, secondSessions, secondFragments⟩ := own second
    exact ⟨by rw [firstRest, secondRest, alike.rest], serving,
      by rw [firstSessions, secondSessions, alike.sessions],
      by rw [firstFragments, secondFragments, alike.fragments],
      by rw [secondFragments, alike.clean]⟩
  · unfold App.modifyUdpSession
    rw [alike.lookup_session same]
    split
    · exact alike
    · exact alike.putUdpSession other _

theorem touchUdpSession (alike : Alike assocId first second) (other : Option UInt16)
    (now : Nat) :
    Alike assocId (first.touchUdpSession other now) (second.touchUdpSession other now) := by
  cases other with
  | none => exact alike
  | some other => exact alike.modifyUdpSession other _

theorem requeue (alike : Alike assocId first second) (write : QuicWrite) :
    Alike assocId (first.requeue write) (second.requeue write) := by
  obtain ⟨udpSessions, packetAssembler, trace, rfl⟩ := alike.grafted
  exact ⟨rfl, alike.serving, alike.sessions, alike.fragments, alike.clean⟩

theorem requeueFragments (alike : Alike assocId first second) (other : Option UInt16)
    (fragments : List Packet) :
    AlikeAnswers assocId (first.requeueFragments other fragments)
      (second.requeueFragments other fragments) := by
  induction fragments generalizing first second with
  | nil => exact ⟨alike, rfl⟩
  | cons fragment rest ih =>
      unfold App.requeueFragments
      cases encodePacket setting.core fragment with
      | error reason => exact ⟨alike, rfl⟩
      | ok data => exact ih (alike.requeue _)

theorem writeData (alike : Alike assocId first second) (streamId : UInt64) (data : List UInt8)
    (fin : Bool) (answer : App.SendAnswer) :
    AlikeAnswers assocId (first.writeData streamId data fin answer)
      (second.writeData streamId data fin answer) := by
  unfold App.writeData
  cases answer with
  | sent count =>
      dsimp only
      split
      · exact ⟨alike, rfl⟩
      · exact ⟨alike.requeue _, rfl⟩
  | done =>
      dsimp only
      split
      · exact ⟨alike, rfl⟩
      · exact ⟨alike.requeue _, rfl⟩
  | bufferTooShort maxWritableLen => exact ⟨alike, rfl⟩
  | failed text => exact ⟨alike, rfl⟩

theorem writeDatagram (alike : Alike assocId first second) (now : Nat) (other : Option UInt16)
    (data : List UInt8) (answer : App.SendAnswer) :
    AlikeAnswers assocId (first.writeDatagram now other data answer)
      (second.writeDatagram now other data answer) := by
  have touched := alike.touchUdpSession other now
  unfold App.writeDatagram
  cases answer with
  | sent count => exact ⟨touched, rfl⟩
  | done => exact ⟨touched.requeue _, rfl⟩
  | failed text => exact ⟨touched, rfl⟩
  | bufferTooShort maxWritableLen =>
      dsimp only
      cases parsePacket setting.core data with
      | error reason => exact ⟨touched, rfl⟩
      | ok packet =>
          dsimp only
          cases fragmentPacket setting.core packet maxWritableLen with
          | error reason => exact ⟨touched, rfl⟩
          | ok fragments => exact touched.requeueFragments other fragments.reverse

theorem writeUniStream (alike : Alike assocId first second) (now : Nat) (other : Option UInt16)
    (streamId : Option UInt64) (data : List UInt8) (answer : App.SendAnswer) :
    AlikeAnswers assocId (first.writeUniStream now other streamId data answer)
      (second.writeUniStream now other streamId data answer) := by
  have touched := alike.touchUdpSession other now
  unfold App.writeUniStream
  generalize first.touchUdpSession other now = before at touched
  generalize second.touchUdpSession other now = after at touched
  obtain ⟨udpSessions, packetAssembler, trace, rfl⟩ := touched.grafted
  have numbered : Alike assocId
      { before with nextUniStreamId := before.nextUniStreamId + 4 }
      { before.graft udpSessions packetAssembler trace with
        nextUniStreamId := before.nextUniStreamId + 4 } :=
    ⟨rfl, touched.serving, touched.sessions, touched.fragments, touched.clean⟩
  cases streamId with
  | none =>
      cases answer with
      | sent count =>
          dsimp only
          split
          · exact ⟨numbered, rfl⟩
          · exact ⟨numbered.requeue _, rfl⟩
      | done => exact ⟨numbered.requeue _, rfl⟩
      | bufferTooShort maxWritableLen => exact ⟨numbered, rfl⟩
      | failed text => exact ⟨numbered, rfl⟩
  | some streamId =>
      cases answer with
      | sent count =>
          dsimp only
          split
          · exact ⟨touched, rfl⟩
          · exact ⟨touched.requeue _, rfl⟩
      | done => exact ⟨touched.requeue _, rfl⟩
      | bufferTooShort maxWritableLen => exact ⟨touched, rfl⟩
      | failed text => exact ⟨touched, rfl⟩

theorem performWrite (alike : Alike assocId first second) (now : Nat) (write : QuicWrite)
    (answer : App.SendAnswer) :
    AlikeAnswers assocId (first.performWrite now write answer)
      (second.performWrite now write answer) := by
  cases write with
  | data streamId data fin => exact alike.writeData streamId data fin answer
  | datagram other data => exact alike.writeDatagram now other data answer
  | uniStream other streamId data => exact alike.writeUniStream now other streamId data answer
  | close streamId =>
      obtain ⟨udpSessions, packetAssembler, trace, rfl⟩ := alike.grafted
      exact ⟨⟨rfl, alike.serving, alike.sessions, alike.fragments, alike.clean⟩, rfl⟩

theorem writeLoop (alike : Alike assocId first second) (now : Nat)
    (answers : List App.SendAnswer) :
    AlikeAnswers assocId (first.writeLoop now answers) (second.writeLoop now answers) := by
  induction answers generalizing first second with
  | nil => exact ⟨alike, rfl⟩
  | cons answer answers ih =>
      obtain ⟨udpSessions, packetAssembler, trace, rfl⟩ := alike.grafted
      have sameWrites : (first.graft udpSessions packetAssembler trace).pendingWrites =
          first.pendingWrites := rfl
      unfold App.writeLoop
      rw [sameWrites]
      cases first.pendingWrites with
      | nil => exact ⟨alike, rfl⟩
      | cons write rest =>
          have popped : Alike assocId { first with pendingWrites := rest }
              { first.graft udpSessions packetAssembler trace with pendingWrites := rest } :=
            ⟨rfl, alike.serving, alike.sessions, alike.fragments, alike.clean⟩
          obtain ⟨states, flow⟩ := popped.performWrite now write answer
          dsimp only
          generalize App.performWrite { first with pendingWrites := rest } now write answer =
            firstDone at states flow
          generalize App.performWrite { first.graft udpSessions packetAssembler trace with
            pendingWrites := rest } now write answer = secondDone at states flow
          obtain ⟨before, firstFlow⟩ := firstDone
          obtain ⟨after, secondFlow⟩ := secondDone
          cases flow
          cases firstFlow with
          | proceed => exact ih states
          | pause => exact ⟨states, rfl⟩
          | fail reason => exact ⟨states, rfl⟩

theorem maybeCleanupUdpState (alike : Alike assocId first second) (now : Nat) :
    Alike assocId (first.maybeCleanupUdpState now) (second.maybeCleanupUdpState now) := by
  obtain ⟨udpSessions, packetAssembler, trace, rfl⟩ := alike.grafted
  have sameDue : (first.graft udpSessions packetAssembler trace).nextUdpCleanup =
      first.nextUdpCleanup := rfl
  unfold App.maybeCleanupUdpState
  rw [sameDue]
  split
  · exact alike
  · refine ⟨rfl, ⟨alike.serving.1, alike.serving.2.1, alike.serving.2.2.1,
      alike.serving.2.2.2.evictIdle now fragmentIdleTimeout⟩, ?_, ?_, ?_⟩
    · change (KeyedMap.retain _ first.udpSessions).erase assocId =
        (KeyedMap.retain _ udpSessions).erase assocId
      rw [← KeyedMap.retain_erase, ← KeyedMap.retain_erase]
      exact congrArg _ alike.sessions
    · change apart (first.packetAssembler.evictIdle now fragmentIdleTimeout) assocId =
        apart (packetAssembler.evictIdle now fragmentIdleTimeout) assocId
      rw [← evictIdle_apart, ← evictIdle_apart]
      exact congrArg (·.evictIdle now fragmentIdleTimeout) alike.fragments
    · change apart (packetAssembler.evictIdle now fragmentIdleTimeout) assocId =
        packetAssembler.evictIdle now fragmentIdleTimeout
      rw [← evictIdle_apart]
      exact congrArg (·.evictIdle now fragmentIdleTimeout) alike.clean

theorem updateStream (alike : Alike assocId first second) (streamId : UInt64)
    (update : Channel (List UInt8) → Channel (List UInt8)) :
    Alike assocId (first.updateStream streamId update) (second.updateStream streamId update) := by
  obtain ⟨udpSessions, packetAssembler, trace, rfl⟩ := alike.grafted
  have sameStreams : (first.graft udpSessions packetAssembler trace).streams = first.streams := rfl
  unfold App.updateStream
  rw [sameStreams]
  cases first.streams.lookup streamId with
  | none => exact alike
  | some state => exact ⟨rfl, alike.serving, alike.sessions, alike.fragments, alike.clean⟩

/-- Every event but a chunk of a unidirectional stream and a packet of the
association is answered alike. -/
theorem step (alike : Alike assocId first second) {event : Event}
    (whole : ∀ now order streamId data fin, event ≠ .uniStream now order streamId data fin)
    (different : ∀ now data, event = .datagram now data →
      data[1]? = some setting.core.typeCodePacket → ∀ packet,
        parsePacket setting.core data = .ok packet → packet.assocId ≠ assocId) :
    AlikeAnswers assocId (first.step event) (second.step event) := by
  cases event with
  | uniStream now order streamId data fin => exact absurd rfl (whole now order streamId data fin)
  | datagram now data =>
      exact alike.handleDatagram now (different now data rfl)
  | streamData now streamId data fin => exact alike.handleStreamData now streamId data fin
  | established now =>
      obtain ⟨udpSessions, packetAssembler, trace, rfl⟩ := alike.grafted
      exact ⟨⟨rfl, alike.serving, alike.sessions, alike.fragments, alike.clean⟩, rfl⟩
  | beginReads now =>
      exact (alike.checkAuthenticationDeadline now).andThen fun before after alike =>
        ⟨alike.maybeCleanupUdpState now, rfl⟩
  | processWrites now late answers =>
      refine (alike.checkAuthenticationDeadline now).andThen fun before after alike => ?_
      have cleaned := alike.maybeCleanupUdpState now
      generalize before.maybeCleanupUdpState now = before at cleaned
      generalize after.maybeCleanupUdpState now = after at cleaned
      obtain ⟨udpSessions, packetAssembler, trace, rfl⟩ := cleaned.grafted
      refine writeLoop ?_ now answers
      exact ⟨rfl, cleaned.serving, cleaned.sessions, cleaned.fragments, cleaned.clean⟩
  | waitForData now later woken =>
      refine (alike.checkAuthenticationDeadline now).andThen fun before after alike => ?_
      have cleaned := alike.maybeCleanupUdpState now
      dsimp only
      generalize before.maybeCleanupUdpState now = before at cleaned
      generalize after.maybeCleanupUdpState now = after at cleaned
      refine checkAuthenticationDeadline ?_ later
      obtain ⟨udpSessions, packetAssembler, trace, rfl⟩ := cleaned.grafted
      have sameWrites : (before.graft udpSessions packetAssembler trace).pendingWrites =
          before.pendingWrites := rfl
      have sameOutbound : (before.graft udpSessions packetAssembler trace).outbound =
          before.outbound := rfl
      rw [sameWrites]
      split
      · unfold App.receiveOutbound
        rw [sameOutbound]
        cases before.outbound.queue with
        | nil => exact cleaned
        | cons write rest =>
            exact ⟨rfl, cleaned.serving, cleaned.sessions, cleaned.fragments, cleaned.clean⟩
      · exact cleaned
  | enqueue write =>
      obtain ⟨udpSessions, packetAssembler, trace, rfl⟩ := alike.grafted
      have sameOutbound : (first.graft udpSessions packetAssembler trace).outbound =
          first.outbound := rfl
      refine ⟨?_, rfl⟩
      simp only [App.step, App.enqueue]
      rw [sameOutbound]
      cases first.outbound.trySend write with
      | ok outbound => exact ⟨rfl, alike.serving, alike.sessions, alike.fragments, alike.clean⟩
      | error reason => exact alike
  | relayReceives streamId => exact ⟨alike.updateStream streamId _, rfl⟩
  | relayEnds streamId => exact ⟨alike.updateStream streamId _, rfl⟩
  | udpRelayReceives other => exact ⟨alike.modifyUdpSession other _, rfl⟩
  | udpRelayEnds other => exact ⟨alike.modifyUdpSession other _, rfl⟩

end Alike

end Rtunnel.Tuic.Inbound
