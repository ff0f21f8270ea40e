import Rtunnel.Tuic.Inbound.Dissociate
import Rtunnel.Tuic.Inbound.Isolation

namespace Rtunnel.Tuic.Inbound

open Rtunnel.Data

/-! Associations whose relay has ended.

A relay task that fails is noticed only by the channel it leaves behind.  The
entry of its association stays until it is dissociated or has been idle for long
enough.  While it stays, a packet of the association is dropped and makes the
entry young again; once it is gone, the next packet starts a fresh relay.
-/

variable {setting : Setting}

/-- The relay of the association has ended, and its entry is still there. -/
def App.DeadEntry (app : App setting) (assocId : UInt16) (session : UdpSession) : Prop :=
  app.udpSessions.lookup assocId = some session ∧ session.tx.receiverAlive = false

/-- No relay runs for the association. -/
def App.RelayEnded (app : App setting) (assocId : UInt16) : Prop :=
  ∀ session, app.udpSessions.lookup assocId = some session → session.tx.receiverAlive = false

/-- One call of `handle_packet`. -/
structure PacketCall where
  now : Nat
  data : List UInt8
  mode : UdpMode

/-- The packet that a delivery hands to `handle_packet`. -/
def Delivery.packetCall (core : TuicCore) : Delivery → Option PacketCall
  | .command now _ data =>
      if data[1]? = some core.typeCodePacket then some ⟨now, data, .quic⟩ else none
  | .event (.datagram now data) _ =>
      if data[1]? = some core.typeCodePacket then some ⟨now, data, .native⟩ else none
  | .event _ _ => none

def QuicWrite.assocId : QuicWrite → Option UInt16
  | .datagram assocId _ => assocId
  | .uniStream assocId _ _ => assocId
  | .data _ _ _ => none
  | .close _ => none

/-- The writes that a delivery may perform. -/
def Delivery.writes (app : App setting) : Delivery → List QuicWrite
  | .event (.processWrites _ late _) _ => app.pendingWrites ++ app.outbound.queue ++ late
  | _ => []

/-- The call makes a packet whole. -/
def App.Completes (app : App setting) (call : PacketCall) (packet : Packet)
    (target : TargetAddr) : Prop :=
  packet.target = some target ∧ ∃ fragment, parsePacket setting.core call.data = .ok fragment ∧
    (app.packetAssembler.push fragment call.now).2 = .ok (some packet)

namespace Delivery

/-- A whole packet in the association's mode, whose relay has ended, goes to a
relay that was started for it. -/
def RelaysAnew (app : App setting) (delivery : Delivery) : Prop :=
  ∀ call packet target, delivery.packetCall setting.core = some call →
    app.Completes call packet target → app.RelayEnded packet.assocId →
    (∀ session, app.udpSessions.lookup packet.assocId = some session →
      session.mode = call.mode) →
    (deliveryMachine setting).output app delivery =
      (.ok (), [.spawnUdpSession packet.assocId call.mode,
        .forward packet.assocId ⟨target, packet.payload⟩]) ∧
    ∃ session, ((deliveryMachine setting).next app delivery).udpSessions.lookup packet.assocId =
      some session ∧ session.tx.receiverAlive = true

/-- No entry whose relay has ended gets younger. -/
def KeepsIdle (app : App setting) (delivery : Delivery) : Prop :=
  ∀ assocId session later, app.DeadEntry assocId session →
    ((deliveryMachine setting).next app delivery).DeadEntry assocId later →
    later.lastUsed = session.lastUsed

/-- The entry of a whole packet's association, if its relay has ended, was
removed before. -/
def EntryGone (app : App setting) (delivery : Delivery) : Prop :=
  ∀ call packet target session, delivery.packetCall setting.core = some call →
    app.Completes call packet target → app.DeadEntry packet.assocId session →
    session.mode ≠ call.mode

/-- No answer of a relay that has ended is waiting to be written. -/
def AnswersGone (app : App setting) (delivery : Delivery) : Prop :=
  ∀ assocId session, app.DeadEntry assocId session →
    ∀ write ∈ delivery.writes app, write.assocId ≠ some assocId

end Delivery

/-- Authenticated, with nothing left to replay. -/
structure App.Inside (app : App setting) : Prop where
  authenticated : app.authenticated = true
  commands : app.pendingUniCommands = []
  datagrams : app.pendingDatagrams = []

namespace App

variable {app : App setting}

theorem checkAuthenticationDeadline_of_authenticated (inside : app.authenticated = true)
    (now : Nat) : app.checkAuthenticationDeadline now = .ok () := by
  simp [checkAuthenticationDeadline, inside]

theorem receive_of_packetCall (coded : setting.core.Coded) (inside : app.Inside)
    {delivery : Delivery} {call : PacketCall}
    (called : delivery.packetCall setting.core = some call) :
    app.receive delivery = app.handlePacket call.now call.data call.mode := by
  cases delivery with
  | command now order data =>
      simp only [Delivery.packetCall] at called
      split at called
      · rename_i code
        cases called
        obtain ⟨command, rfl, packets, dispatched⟩ :=
          app.handleUnidirectionalCommand_of_code code coded.packet_ne_authenticate now order
        simp only [receive, dispatched, dispatchCommand, packets, inside.authenticated,
          Bool.true_eq_false, ↓reduceIte]
      · cases called
  | event event whole =>
      cases event with
      | datagram now data =>
          simp only [Delivery.packetCall] at called
          split at called
          · rename_i code
            cases called
            exact handleDatagram_of_packet coded inside.authenticated code now
          · cases called
      | _ => cases called

theorem handlePacket_of_completes {call : PacketCall} {packet : Packet} {target : TargetAddr}
    (completes : app.Completes call packet target) :
    ∃ packetAssembler, app.handlePacket call.now call.data call.mode =
      { app with packetAssembler := packetAssembler }.deliver packet target call.mode call.now := by
  obtain ⟨named, fragment, parsed, whole⟩ := completes
  refine ⟨(app.packetAssembler.push fragment call.now).1, ?_⟩
  simp only [handlePacket, parsed, whole, named]

/-- Without an entry, a packet starts a relay and goes to it. -/
theorem deliver_of_none {packet : Packet} (absent : app.udpSessions.lookup packet.assocId = none)
    (target : TargetAddr) (mode : UdpMode) (now : Nat) :
    (app.deliver packet target mode now).2 = .ok () ∧
    (app.deliver packet target mode now).1.trace = app.trace ++
      [.spawnUdpSession packet.assocId mode, .forward packet.assocId ⟨target, packet.payload⟩] ∧
    ∃ session, (app.deliver packet target mode now).1.udpSessions.lookup packet.assocId =
      some session ∧ session.tx.receiverAlive = true := by
  obtain ⟨tx, sent, alive⟩ : ∃ tx : Channel UdpRequest,
      (Channel.bounded udpChannelCapacity).trySend ⟨target, packet.payload⟩ = .ok tx ∧
        tx.receiverAlive = true := ⟨_, rfl, rfl⟩
  have delivered : app.deliver packet target mode now =
      ((((app.putUdpSession packet.assocId ⟨.bounded udpChannelCapacity, mode, now⟩).emit
        (.spawnUdpSession packet.assocId mode)).putUdpSession packet.assocId
          ⟨tx, mode, now⟩).emit (.forward packet.assocId ⟨target, packet.payload⟩), .ok ()) := by
    simp [deliver, udpSession, absent, sent]
  rw [delivered]
  refine ⟨rfl, ?_, ⟨tx, mode, now⟩, AList.lookup_insert _, alive⟩
  simp [emit, putUdpSession]

/-- While its entry stays, a relay that has ended costs every packet. -/
theorem deliver_of_dead {packet : Packet} {session : UdpSession}
    (dead : app.DeadEntry packet.assocId session) (target : TargetAddr) (now : Nat) :
    app.deliver packet target session.mode now =
      (app.putUdpSession packet.assocId { session with lastUsed := now }, .ok ()) := by
  obtain ⟨found, ended⟩ := dead
  have refused : session.tx.trySend ⟨target, packet.payload⟩ = .error .closed := by
    simp [Channel.trySend, ended]
  simp [deliver, udpSession, found, refused]

/-- A packet in another mode is refused. -/
theorem deliver_of_other_mode {packet : Packet} {session : UdpSession} {mode : UdpMode}
    (found : app.udpSessions.lookup packet.assocId = some session)
    (different : session.mode ≠ mode) (target : TargetAddr) (now : Nat) :
    (app.deliver packet target mode now).1 = app := by
  simp [deliver, udpSession, found, different]

theorem Inside.untraced (inside : app.Inside) : app.untraced.Inside :=
  ⟨inside.authenticated, inside.commands, inside.datagrams⟩

/-- A delivery that makes a packet whole hands it to its relay. -/
theorem Inside.step_of_completes (coded : setting.core.Coded) (inside : app.Inside)
    {delivery : Delivery} {call : PacketCall}
    (called : delivery.packetCall setting.core = some call) {packet : Packet}
    {target : TargetAddr} (completes : app.Completes call packet target) :
    ∃ packetAssembler,
      let done := { app.untraced with packetAssembler := packetAssembler }.deliver packet target
        call.mode call.now
      (deliveryMachine setting).step app delivery = (done.1, (done.2, done.1.trace)) := by
  have completed : app.untraced.Completes call packet target := completes
  obtain ⟨packetAssembler, handled⟩ := handlePacket_of_completes completed
  refine ⟨packetAssembler, ?_⟩
  simp only [deliveryMachine, receive_of_packetCall coded inside.untraced called, handled]

/-- A whole packet is relayed anew exactly if no entry is in the way. -/
theorem Inside.relaysAnew_iff (coded : setting.core.Coded) (inside : app.Inside)
    (delivery : Delivery) : delivery.RelaysAnew app ↔ delivery.EntryGone app := by
  constructor
  · intro anew call packet target session called completes dead same
    have only : ∀ other, app.udpSessions.lookup packet.assocId = some other →
        other = session := fun other found => Option.some.inj (found.symm.trans dead.1)
    have relayed := (anew call packet target called completes
      (fun other found => by rw [only other found]; exact dead.2)
      (fun other found => by rw [only other found]; exact same)).1
    obtain ⟨packetAssembler, stepped⟩ := inside.step_of_completes coded called completes
    have stands : ({ app.untraced with packetAssembler := packetAssembler } :
        App setting).DeadEntry packet.assocId session := dead
    rw [← same, deliver_of_dead stands] at stepped
    rw [Machine.output, stepped] at relayed
    cases relayed
  · intro gone call packet target called completes ended kept
    have absent : app.udpSessions.lookup packet.assocId = none := by
      cases found : app.udpSessions.lookup packet.assocId with
      | none => rfl
      | some session =>
          exact absurd (kept session found)
            (gone call packet target session called completes ⟨found, ended session found⟩)
    obtain ⟨packetAssembler, stepped⟩ := inside.step_of_completes coded called completes
    have nothing : ({ app.untraced with packetAssembler := packetAssembler } :
        App setting).udpSessions.lookup packet.assocId = none := absent
    obtain ⟨ok, trace, alive⟩ := deliver_of_none nothing target call.mode call.now
    rw [Machine.output, Machine.next, stepped]
    exact ⟨Prod.ext ok trace, alive⟩

end App

/-- The association's entry, if it is still there, is dead and as old as it was. -/
def Idle (assocId : UInt16) (session : UdpSession) (app : App setting) : Prop :=
  ∀ later, app.udpSessions.lookup assocId = some later →
    later.tx.receiverAlive = false ∧ later.lastUsed = session.lastUsed

namespace Idle

variable {assocId : UInt16} {session : UdpSession} {app : App setting}

theorem of_dead (dead : app.DeadEntry assocId session) : Idle assocId session app := by
  intro later found
  rw [dead.1] at found
  cases found
  exact ⟨dead.2, rfl⟩

theorem of_same (idle : Idle assocId session app) {after : App setting}
    (same : after.udpSessions = app.udpSessions) : Idle assocId session after := by
  intro later found
  rw [same] at found
  exact idle later found

theorem put_other (idle : Idle assocId session app) {other : UInt16} (different : other ≠ assocId)
    (next : UdpSession) : Idle assocId session (app.putUdpSession other next) := by
  intro later found
  exact idle later ((AList.lookup_insert_ne different.symm).symm.trans found)

theorem endUdpSession (idle : Idle assocId session app) (other : UInt16) :
    Idle assocId session (app.endUdpSession other) := by
  intro later found
  exact idle later (KeyedMap.lookup_erase_eq_some found).2

theorem maybeCleanupUdpState (idle : Idle assocId session app) (now : Nat) :
    Idle assocId session (app.maybeCleanupUdpState now) := by
  unfold App.maybeCleanupUdpState
  split
  · exact idle
  · intro later found
    simp only [App.evictIdleUdpSessions, KeyedMap.lookup_retain] at found
    exact idle later (Option.filter_eq_some_iff.mp found).1

theorem modifyUdpSession (idle : Idle assocId session app) (other : UInt16)
    {update : UdpSession → UdpSession}
    (harmless : other = assocId → ∀ dead : UdpSession, dead.tx.receiverAlive = false →
      (update dead).tx.receiverAlive = false ∧ (update dead).lastUsed = dead.lastUsed) :
    Idle assocId session (app.modifyUdpSession other update) := by
  unfold App.modifyUdpSession
  split
  · exact idle
  · rename_i current found
    by_cases same : other = assocId
    · intro later after
      rw [← same] at after
      cases (AList.lookup_insert _).symm.trans after
      obtain ⟨dead, old⟩ := idle current (same ▸ found)
      obtain ⟨still, kept⟩ := harmless same current dead
      exact ⟨still, kept.trans old⟩
    · exact idle.put_other same _

theorem touchUdpSession (idle : Idle assocId session app) {other : Option UInt16}
    (different : other ≠ some assocId) (now : Nat) :
    Idle assocId session (app.touchUdpSession other now) := by
  cases other with
  | none => exact idle
  | some other =>
      exact idle.modifyUdpSession other fun same => absurd (congrArg some same) different

theorem deliver (idle : Idle assocId session app) {packet : Packet}
    (different : packet.assocId ≠ assocId) (target : TargetAddr) (mode : UdpMode) (now : Nat) :
    Idle assocId session (app.deliver packet target mode now).1 := by
  have opened : Idle assocId session (app.udpSession packet.assocId mode now).1 := by
    unfold App.udpSession
    split
    · exact idle
    · exact (idle.put_other different _).of_same rfl
  unfold App.deliver
  dsimp only
  split
  · exact opened
  · split
    · exact (opened.put_other different _).of_same rfl
    · exact opened.put_other different _

end Idle

/-- A write leaves the associations as touching its own does, and queues only
writes of that association again. -/
structure Rewrites (write : QuicWrite) (now : Nat) (before after : App setting) : Prop where
  sessions : after.udpSessions = (before.touchUdpSession write.assocId now).udpSessions
  queued : ∀ again ∈ after.pendingWrites,
    again ∈ before.pendingWrites ∨ again.assocId = write.assocId

namespace App

theorem touchUdpSession_pendingWrites (app : App setting) (assocId : Option UInt16) (now : Nat) :
    (app.touchUdpSession assocId now).pendingWrites = app.pendingWrites := by
  unfold touchUdpSession
  split
  · rfl
  · unfold modifyUdpSession
    split <;> rfl

theorem requeueFragments_rewrites (app : App setting) (assocId : Option UInt16)
    (fragments : List Packet) :
    (app.requeueFragments assocId fragments).1.udpSessions = app.udpSessions ∧
    ∀ again ∈ (app.requeueFragments assocId fragments).1.pendingWrites,
      again ∈ app.pendingWrites ∨ again.assocId = assocId := by
  induction fragments generalizing app with
  | nil => exact ⟨rfl, fun again member => .inl member⟩
  | cons fragment rest ih =>
      unfold requeueFragments
      split
      · exact ⟨rfl, fun again member => .inl member⟩
      · rename_i data _
        obtain ⟨sessions, queued⟩ := ih (app.requeue (.datagram assocId data))
        refine ⟨sessions, fun again member => ?_⟩
        rcases queued again member with earlier | own
        · rcases List.mem_cons.mp earlier with rfl | older
          · exact .inr rfl
          · exact .inl older
        · exact .inr own

end App

namespace Rewrites

variable {app : App setting}

/-- The write is done with. -/
theorem done (app : App setting) (write : QuicWrite) (now : Nat) :
    Rewrites write now app (app.touchUdpSession write.assocId now) := by
  refine ⟨rfl, fun again member => .inl ?_⟩
  rw [App.touchUdpSession_pendingWrites] at member
  exact member

theorem of_same {write : QuicWrite} {now : Nat} {before middle after : App setting}
    (rewrites : Rewrites write now before middle)
    (sessions : after.udpSessions = middle.udpSessions)
    (queued : after.pendingWrites = middle.pendingWrites) : Rewrites write now before after := by
  refine ⟨sessions.trans rewrites.sessions, fun again member => ?_⟩
  rw [queued] at member
  exact rewrites.queued again member

theorem requeue {write : QuicWrite} {now : Nat} {before middle : App setting}
    (rewrites : Rewrites write now before middle) {again : QuicWrite}
    (own : again.assocId = write.assocId) : Rewrites write now before (middle.requeue again) := by
  refine ⟨rewrites.sessions, fun other member => ?_⟩
  rcases List.mem_cons.mp member with rfl | earlier
  · exact .inr own
  · exact rewrites.queued other earlier

theorem writeData (app : App setting) (now : Nat) (streamId : UInt64) (data : List UInt8)
    (fin : Bool) (answer : App.SendAnswer) :
    Rewrites (.data streamId data fin) now app (app.writeData streamId data fin answer).1 := by
  have done := done app (.data streamId data fin) now
  unfold App.writeData
  split
  · split
    · exact done
    · exact done.requeue rfl
  · split
    · exact done
    · exact done.requeue rfl
  · exact done

theorem writeDatagram (app : App setting) (now : Nat) (assocId : Option UInt16)
    (data : List UInt8) (answer : App.SendAnswer) :
    Rewrites (.datagram assocId data) now app (app.writeDatagram now assocId data answer).1 := by
  have done := done app (.datagram assocId data) now
  unfold App.writeDatagram
  dsimp only
  split
  · exact done
  · exact done.requeue rfl
  · split
    · exact done
    · split
      · exact done
      · rename_i fragments _
        obtain ⟨sessions, queued⟩ :=
          (app.touchUdpSession assocId now).requeueFragments_rewrites assocId fragments.reverse
        refine ⟨sessions, fun again member => ?_⟩
        rcases queued again member with earlier | own
        · exact done.queued again earlier
        · exact .inr own
  · exact done

theorem writeUniStream (app : App setting) (now : Nat) (assocId : Option UInt16)
    (streamId : Option UInt64) (data : List UInt8) (answer : App.SendAnswer) :
    Rewrites (.uniStream assocId streamId data) now app
      (app.writeUniStream now assocId streamId data answer).1 := by
  have done := done app (.uniStream assocId streamId data) now
  have numbered : Rewrites (.uniStream assocId streamId data) now app
      (if streamId.isSome then app.touchUdpSession assocId now
        else { app.touchUdpSession assocId now with
          nextUniStreamId := (app.touchUdpSession assocId now).nextUniStreamId + 4 }) := by
    split
    · exact done
    · exact done.of_same rfl rfl
  unfold App.writeUniStream
  dsimp only
  cases answer with
  | sent count =>
      dsimp only
      split
      · exact numbered
      · exact numbered.requeue rfl
  | done => exact numbered.requeue rfl
  | bufferTooShort maxWritableLen => exact numbered
  | failed text => exact numbered

theorem performWrite (app : App setting) (now : Nat) (write : QuicWrite)
    (answer : App.SendAnswer) : Rewrites write now app (app.performWrite now write answer).1 := by
  cases write with
  | data streamId data fin => exact writeData app now streamId data fin answer
  | datagram assocId data => exact writeDatagram app now assocId data answer
  | uniStream assocId streamId data => exact writeUniStream app now assocId streamId data answer
  | close streamId => exact (done app (.close streamId) now).of_same rfl rfl

end Rewrites

namespace Idle

variable {assocId : UInt16} {session : UdpSession} {app : App setting}

theorem writeLoop (idle : Idle assocId session app) (now : Nat)
    (others : ∀ write ∈ app.pendingWrites, write.assocId ≠ some assocId)
    (answers : List App.SendAnswer) : Idle assocId session (app.writeLoop now answers).1 := by
  induction answers generalizing app with
  | nil => exact idle
  | cons answer answers ih =>
      unfold App.writeLoop
      split
      · exact idle
      · rename_i write rest queue
        have first := others write (queue ▸ List.mem_cons_self)
        have rewrites := Rewrites.performWrite { app with pendingWrites := rest } now write answer
        have popped : Idle assocId session { app with pendingWrites := rest } := idle.of_same rfl
        have performed : Idle assocId session
            (App.performWrite { app with pendingWrites := rest } now write answer).1 :=
          (popped.touchUdpSession first now).of_same rewrites.sessions
        have remaining : ∀ again ∈ (App.performWrite { app with pendingWrites := rest } now write
            answer).1.pendingWrites, again.assocId ≠ some assocId := by
          intro again member
          rcases rewrites.queued again member with earlier | own
          · exact others again (queue ▸ List.mem_cons_of_mem write earlier)
          · rw [own]
            exact first
        split
        · next same =>
            rw [same] at performed remaining
            exact ih performed remaining
        · next same => rw [same] at performed; exact performed
        · next same => rw [same] at performed; exact performed

theorem processWrites (idle : Idle assocId session app) (inside : app.Inside) (now : Nat)
    {late : List QuicWrite}
    (others : ∀ write ∈ app.pendingWrites ++ app.outbound.queue ++ late,
      write.assocId ≠ some assocId) (answers : List App.SendAnswer) :
    Idle assocId session (app.processWrites now late answers).1 := by
  have queues : (app.maybeCleanupUdpState now).pendingWrites = app.pendingWrites ∧
      (app.maybeCleanupUdpState now).outbound = app.outbound := by
    unfold App.maybeCleanupUdpState
    split <;> exact ⟨rfl, rfl⟩
  unfold App.processWrites
  rw [App.checkAuthenticationDeadline_of_authenticated inside.authenticated, Attempt.andThen_ok]
  have drained : Idle assocId session ((app.maybeCleanupUdpState now).drainOutbound late) :=
    (idle.maybeCleanupUdpState now).of_same rfl
  refine drained.writeLoop now ?_ answers
  simp only [App.drainOutbound, queues.1, queues.2]
  exact others

theorem replayStreams (idle : Idle assocId session app) (authenticated : app.authenticated = true)
    (now : Nat) (order : IterationOrder UInt64 PendingStream) :
    Idle assocId session (app.replayStreams now order).1 := by
  have cleared : Idle assocId session { app with pendingStreams := ∅ } := idle.of_same rfl
  unfold App.replayStreams
  refine (Attempt.forEach_keeps
    (fun current : App setting => Idle assocId session current ∧ current.authenticated = true)
    (fun current entry both => ?_) ⟨cleared, authenticated⟩ _).1
  unfold App.replayStream
  split
  · exact both
  · have later := (Later.handlers current).handleStreamData (.refl current) now entry.1
      entry.2.data entry.2.fin
    have others := App.handleStreamData_othersKept both.2 now entry.1 entry.2.data entry.2.fin
    exact ⟨both.1.of_same others.udpSessions, later.authenticated both.2⟩

/-- A second AUTHENTICATE finds nothing of UDP to replay. -/
theorem handleAuthData (idle : Idle assocId session app) (inside : app.Inside) (now : Nat)
    (order : IterationOrder UInt64 PendingStream) (data : List UInt8) :
    Idle assocId session (app.handleAuthData now order data).1 := by
  have timely : (app.emit (.authenticate now app.authenticationDeadline
      data)).checkAuthenticationDeadline now = .ok () :=
    App.checkAuthenticationDeadline_of_authenticated inside.authenticated now
  unfold App.handleAuthData
  dsimp only
  rw [timely, Attempt.andThen_ok]
  split
  · exact idle.of_same rfl
  · rename_i user _
    let admitted := (app.emit (.authenticate now app.authenticationDeadline data)).admitUser user
    have commands : admitted.replayCommands now = (admitted, .ok ()) :=
      App.replayCommands_of_empty now inside.commands
    have datagrams : admitted.replayDatagrams now = (admitted, .ok ()) :=
      App.replayDatagrams_of_empty now inside.datagrams
    rw [commands, Attempt.andThen_ok, datagrams, Attempt.andThen_ok]
    have kept : Idle assocId session admitted := idle.of_same rfl
    exact kept.replayStreams rfl now order

theorem handlePacket (idle : Idle assocId session app) {call : PacketCall}
    (harmless : ∀ packet target, app.Completes call packet target → packet.assocId = assocId →
      ∃ current, app.udpSessions.lookup assocId = some current ∧ current.mode ≠ call.mode) :
    Idle assocId session (app.handlePacket call.now call.data call.mode).1 := by
  cases parsed : parsePacket setting.core call.data with
  | error reason =>
      simp only [App.handlePacket, parsed]
      exact idle
  | ok fragment =>
      cases pushed : (app.packetAssembler.push fragment call.now).2 with
      | error reason =>
          simp only [App.handlePacket, parsed, pushed]
          exact idle.of_same rfl
      | ok outcome =>
          cases outcome with
          | none =>
              simp only [App.handlePacket, parsed, pushed]
              exact idle.of_same rfl
          | some packet =>
              cases named : packet.target with
              | none =>
                  simp only [App.handlePacket, parsed, pushed, named]
                  exact idle.of_same rfl
              | some target =>
                  have completes : app.Completes call packet target :=
                    ⟨named, fragment, parsed, pushed⟩
                  obtain ⟨packetAssembler, handled⟩ := App.handlePacket_of_completes completes
                  rw [handled]
                  have kept : Idle assocId session
                      { app with packetAssembler := packetAssembler } := idle.of_same rfl
                  by_cases own : packet.assocId = assocId
                  · obtain ⟨current, found, different⟩ := harmless packet target completes own
                    subst own
                    have here : ({ app with packetAssembler := packetAssembler } :
                      App setting).udpSessions.lookup packet.assocId = some current := found
                    rw [App.deliver_of_other_mode here different]
                    exact kept
                  · exact kept.deliver own target call.mode call.now

theorem handleUnidirectionalCommand (idle : Idle assocId session app) (inside : app.Inside)
    (now : Nat) (order : IterationOrder UInt64 PendingStream) {data : List UInt8}
    (other : data[1]? ≠ some setting.core.typeCodePacket) :
    Idle assocId session (app.handleUnidirectionalCommand now order data).1 := by
  unfold App.handleUnidirectionalCommand
  split
  · rename_i long
    split
    · exact idle.handleAuthData inside now order data
    · rename_i authenticates
      have code : data.get ⟨1, long⟩ ≠ setting.core.typeCodePacket := by
        intro same
        apply other
        rw [← same, List.get_eq_getElem]
        exact List.getElem?_eq_getElem long
      simp only [App.dispatchCommand, QueuedCommand.code, if_neg code, inside.authenticated,
        Bool.true_eq_false, if_false]
      split
      · split
        · exact idle
        · exact idle.endUdpSession _
      · exact idle
  · exact idle

theorem handleDatagram (idle : Idle assocId session app) (now : Nat) {data : List UInt8}
    (other : data[1]? ≠ some setting.core.typeCodePacket) :
    Idle assocId session (app.handleDatagram now data).1 := by
  refine Attempt.andThen_keeps (Idle assocId session) idle fun current kept => ?_
  split
  · exact kept
  · rename_i code found
    have different : code ≠ setting.core.typeCodePacket := by
      rintro rfl
      exact other found
    rw [if_neg different]
    split <;> exact kept

/-- Callbacks without data from the client, write passes apart. -/
theorem background (idle : Idle assocId session app) {event : Event} (quiet : event.Background)
    (waits : ∀ now late answers, event ≠ .processWrites now late answers) :
    Idle assocId session (app.step event).1 := by
  cases event with
  | uniStream now order streamId data fin => exact quiet.elim
  | streamData now streamId data fin => exact quiet.elim
  | datagram now data => exact quiet.elim
  | processWrites now late answers => exact absurd rfl (waits now late answers)
  | established now => exact idle.of_same rfl
  | beginReads now =>
      exact Attempt.andThen_keeps (Idle assocId session) idle fun current kept =>
        kept.maybeCleanupUdpState now
  | waitForData now later woken =>
      refine Attempt.andThen_keeps (Idle assocId session) idle fun current kept => ?_
      dsimp only
      split
      · refine (kept.maybeCleanupUdpState now).of_same ?_
        unfold App.receiveOutbound
        split <;> rfl
      · exact kept.maybeCleanupUdpState now
  | enqueue write =>
      refine idle.of_same ?_
      simp only [App.step, App.enqueue]
      split <;> rfl
  | relayReceives streamId =>
      refine idle.of_same ?_
      simp only [App.step, App.updateStream]
      split <;> rfl
  | relayEnds streamId =>
      refine idle.of_same ?_
      simp only [App.step, App.updateStream]
      split <;> rfl
  | udpRelayReceives other =>
      refine idle.modifyUdpSession other fun _ dead ended => ⟨?_, rfl⟩
      simp [Channel.recv, ended]
  | udpRelayEnds other => exact idle.modifyUdpSession other fun _ dead ended => ⟨rfl, rfl⟩

/-- A delivery that is no packet of the association and writes none of its
answers leaves the entry idle. -/
theorem receive (idle : Idle assocId session app) (coded : setting.core.Coded)
    (inside : app.Inside) {delivery : Delivery}
    (harmless : ∀ call packet target, delivery.packetCall setting.core = some call →
      app.Completes call packet target → packet.assocId = assocId →
      ∃ current, app.udpSessions.lookup assocId = some current ∧ current.mode ≠ call.mode)
    (others : ∀ write ∈ delivery.writes app, write.assocId ≠ some assocId) :
    Idle assocId session (app.receive delivery).1 := by
  cases called : delivery.packetCall setting.core with
  | some call =>
      rw [App.receive_of_packetCall coded inside called]
      exact idle.handlePacket fun packet target => harmless call packet target called
  | none =>
      cases delivery with
      | command now order data =>
          refine idle.handleUnidirectionalCommand inside now order fun code => ?_
          simp [Delivery.packetCall, code] at called
      | event event whole =>
          cases event with
          | uniStream now order streamId data fin =>
              exact absurd rfl (whole now order streamId data fin)
          | datagram now data =>
              refine idle.handleDatagram now fun code => ?_
              simp [Delivery.packetCall, code] at called
          | streamData now streamId data fin =>
              exact idle.of_same (App.handleStreamData_othersKept inside.authenticated now
                streamId data fin).udpSessions
          | processWrites now late answers => exact idle.processWrites inside now others answers
          | _ => exact idle.background trivial (by simp)

end Idle

theorem App.Inside.next {app : App setting} (inside : app.Inside) (delivery : Delivery) :
    ((deliveryMachine setting).next app delivery).Inside := by
  have later : Later app.untraced (app.untraced.receive delivery).1 := by
    cases delivery with
    | command now order data =>
        exact (Later.handlers app.untraced).handleUnidirectionalCommand
          (fun current now order kept => (Later.handlers app.untraced).replayStreams kept now order)
          (.refl _) now order data
    | event event whole => exact app.untraced.step_later event
  exact ⟨later.authenticated inside.authenticated,
    later.commands inside.authenticated inside.commands,
    later.datagrams inside.authenticated inside.datagrams⟩

theorem App.Inside.keepsIdle {app : App setting} (coded : setting.core.Coded)
    (inside : app.Inside) {delivery : Delivery} (gone : delivery.EntryGone app)
    (unwritten : delivery.AnswersGone app) : delivery.KeepsIdle app := by
  intro assocId session later dead after
  have idle : Idle assocId session app.untraced := Idle.of_dead dead
  refine ((idle.receive coded inside.untraced (fun call packet target called completes own => ?_)
    (unwritten assocId session dead)) later after.1).2
  subst own
  exact ⟨session, dead.1, gone call packet target session called completes dead⟩

/-- An authenticated connection recovers from relays that have ended as long as
their entries are removed before the next packet or answer of their association;
a whole packet goes to a fresh relay exactly then. -/
theorem ended_relay_is_replaced (setting : Setting) (coded : setting.core.Coded) (start : Nat)
    (history : List Event) (deliveries : List Delivery) :
    let app := (appMachine setting).run (App.new setting start) history
    let machine := deliveryMachine setting
    app.authenticated = true → app.pendingDatagrams = [] →
    (machine.Meets (fun app delivery => delivery.EntryGone app ∧ delivery.AnswersGone app)
        app deliveries →
      machine.Meets (fun app delivery => delivery.RelaysAnew app ∧ delivery.KeepsIdle app)
        app deliveries) ∧
    (machine.Meets (fun app delivery => delivery.RelaysAnew app) app deliveries ↔
      machine.Meets (fun app delivery => delivery.EntryGone app) app deliveries) := by
  intro app machine authenticated replayed
  have serving := run_serving setting start history authenticated replayed
  have inside : app.Inside := ⟨serving.1, serving.2.1, serving.2.2.1⟩
  have keeps : ∀ (app : App setting) (delivery : Delivery), app.Inside →
      (machine.next app delivery).Inside := fun _ delivery inside => inside.next delivery
  constructor
  · exact machine.meets_mono App.Inside keeps (fun _ delivery inside gone =>
      ⟨(inside.relaysAnew_iff coded delivery).mpr gone.1, inside.keepsIdle coded gone.1 gone.2⟩)
      inside
  · exact machine.meets_congr App.Inside keeps
      (fun _ delivery inside => inside.relaysAnew_iff coded delivery) inside deliveries

/-- A whole packet of association 7. -/
def wholePacket (now : Nat) : Delivery :=
  .command now asStored [5, 2, 0, 7, 0, 9, 1, 0, 0, 1, 1, 127, 0, 0, 1, 0, 53, 65]

def relaySevenEnds : Delivery := .event (.udpRelayEnds 7) (by simp)

theorem Delivery.entryGone_of_empty {app : App setting} (empty : app.udpSessions = ∅)
    (delivery : Delivery) : delivery.EntryGone app := by
  intro call packet target session _ _ dead
  rw [App.DeadEntry, empty] at dead
  cases dead.1

/-- The association was ended before its next packet came. -/
theorem dissociated_relay_is_replaced :
    (deliveryMachine sampleSetting).Meets
      (fun app delivery => delivery.RelaysAnew app ∧ delivery.KeepsIdle app)
      ((appMachine sampleSetting).run (App.new sampleSetting 0) sampleLogin)
      [wholePacket 2, relaySevenEnds, dissociateSeven, wholePacket 4] := by
  refine (ended_relay_is_replaced sampleSetting tuicV5_coded 0 sampleLogin _ rfl rfl).1 ?_
  exact ⟨⟨Delivery.entryGone_of_empty rfl _, fun _ _ _ _ => List.not_mem_nil.elim⟩,
    ⟨fun _ _ _ _ called => absurd called nofun, fun _ _ _ _ => List.not_mem_nil.elim⟩,
    ⟨fun _ _ _ _ called => absurd called nofun, fun _ _ _ _ => List.not_mem_nil.elim⟩,
    ⟨Delivery.entryGone_of_empty rfl _, fun _ _ _ _ => List.not_mem_nil.elim⟩, trivial⟩

/-- The packet is lost, nothing is started, and the dead entry is young again. -/
theorem packet_is_lost_to_ended_relay :
    let app := (appMachine sampleSetting).run (App.new sampleSetting 0) sampleLogin
    let machine := deliveryMachine sampleSetting
    machine.outputs app [wholePacket 2, relaySevenEnds, wholePacket 3] =
      [(.ok (), [.spawnUdpSession 7 .quic, .forward 7 ⟨.ip (.v4 loopback 53), [65]⟩]),
        (.ok (), []), (.ok (), [])] ∧
    ((machine.run app [wholePacket 2, relaySevenEnds]).udpSessions.lookup 7).map
      (fun session => (session.tx.receiverAlive, session.lastUsed)) = some (false, 2) ∧
    ((machine.run app [wholePacket 2, relaySevenEnds, wholePacket 3]).udpSessions.lookup 7).map
      (fun session => (session.tx.receiverAlive, session.lastUsed)) = some (false, 3) := by
  refine ⟨?_, ?_, ?_⟩
  · rfl
  · decide +kernel
  · decide +kernel

end Rtunnel.Tuic.Inbound
