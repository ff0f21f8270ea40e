import Rtunnel.Tuic.Inbound.App

namespace Rtunnel.Tuic.Inbound

open Rtunnel.Data

/-! What the handlers can do to a connection, said once.

Write passes, timers and relay tasks reach the connection through six kinds of
updates; UDP packets and commands add a few more.  A property that these updates
keep is kept by the handlers themselves, so an invariant names the updates and
never opens a loop.
-/

variable {setting : Setting}

/-- Nothing arrives from the client in these events. -/
def Event.Background : Event → Prop
  | .uniStream _ _ _ _ _ => False
  | .streamData _ _ _ _ => False
  | .datagram _ _ => False
  | _ => True

structure Background (property : App setting → Prop) : Prop where
  deadline : ∀ app authenticationDeadline, property app →
    property { app with authenticationDeadline := authenticationDeadline }
  queues : ∀ app nextUniStreamId outbound pendingWrites, property app →
    property { app with
      nextUniStreamId := nextUniStreamId
      outbound := outbound
      pendingWrites := pendingWrites }
  session : ∀ (app : App setting) assocId session next,
    app.udpSessions.lookup assocId = some session → property app →
    property (app.putUdpSession assocId next)
  stream : ∀ (app : App setting) streamId state next,
    app.streams.lookup streamId = some state →
    next.clientTx.capacity = state.clientTx.capacity → property app →
    property (app.putStream streamId next)
  cleanup : ∀ app now, property app → property (app.maybeCleanupUdpState now)
  close : ∀ app streamId, property app → property (app.writeClose streamId).1

namespace Background

variable {property : App setting → Prop} (background : Background property)
variable {app : App setting}
include background

theorem requeue (holds : property app) (write : QuicWrite) : property (app.requeue write) :=
  background.queues app app.nextUniStreamId app.outbound (write :: app.pendingWrites) holds

theorem modifyUdpSession (holds : property app) (assocId : UInt16)
    (update : UdpSession → UdpSession) : property (app.modifyUdpSession assocId update) := by
  unfold App.modifyUdpSession
  split
  · exact holds
  · next found => exact background.session app assocId _ _ found holds

theorem touchUdpSession (holds : property app) (assocId : Option UInt16) (now : Nat) :
    property (app.touchUdpSession assocId now) := by
  cases assocId with
  | none => exact holds
  | some assocId => exact background.modifyUdpSession holds assocId _

theorem requeueFragments (holds : property app) (assocId : Option UInt16)
    (fragments : List Packet) : property (app.requeueFragments assocId fragments).1 := by
  induction fragments generalizing app with
  | nil => exact holds
  | cons fragment rest ih =>
      unfold App.requeueFragments
      split
      · exact holds
      · exact ih (background.requeue holds _)

theorem writeData (holds : property app) (streamId : UInt64) (data : List UInt8) (fin : Bool)
    (answer : App.SendAnswer) : property (app.writeData streamId data fin answer).1 := by
  unfold App.writeData
  split
  · split
    · exact holds
    · exact background.requeue holds _
  · split
    · exact holds
    · exact background.requeue holds _
  · exact holds

theorem writeDatagram (holds : property app) (now : Nat) (assocId : Option UInt16)
    (data : List UInt8) (answer : App.SendAnswer) :
    property (app.writeDatagram now assocId data answer).1 := by
  have touched := background.touchUdpSession holds assocId now
  unfold App.writeDatagram
  dsimp only
  split
  · exact touched
  · exact background.requeue touched _
  · split
    · exact touched
    · split
      · exact touched
      · exact background.requeueFragments touched _ _
  · exact touched

theorem writeUniStream (holds : property app) (now : Nat) (assocId : Option UInt16)
    (streamId : Option UInt64) (data : List UInt8) (answer : App.SendAnswer) :
    property (app.writeUniStream now assocId streamId data answer).1 := by
  have touched := background.touchUdpSession holds assocId now
  have numbered := background.queues _ ((app.touchUdpSession assocId now).nextUniStreamId + 4)
    (app.touchUdpSession assocId now).outbound (app.touchUdpSession assocId now).pendingWrites
    touched
  unfold App.writeUniStream
  cases streamId with
  | none =>
      cases answer with
      | sent count =>
          dsimp only
          split
          · exact numbered
          · exact background.requeue numbered _
      | done => exact background.requeue numbered _
      | bufferTooShort maxWritableLen => exact numbered
      | failed text => exact numbered
  | some streamId =>
      cases answer with
      | sent count =>
          dsimp only
          split
          · exact touched
          · exact background.requeue touched _
      | done => exact background.requeue touched _
      | bufferTooShort maxWritableLen => exact touched
      | failed text => exact touched

theorem performWrite (holds : property app) (now : Nat) (write : QuicWrite)
    (answer : App.SendAnswer) : property (app.performWrite now write answer).1 := by
  cases write with
  | data streamId data fin => exact background.writeData holds streamId data fin answer
  | datagram assocId data => exact background.writeDatagram holds now assocId data answer
  | uniStream assocId streamId data =>
      exact background.writeUniStream holds now assocId streamId data answer
  | close streamId => exact background.close app streamId holds

theorem writeLoop (holds : property app) (now : Nat) (answers : List App.SendAnswer) :
    property (app.writeLoop now answers).1 := by
  induction answers generalizing app with
  | nil => exact holds
  | cons answer answers ih =>
      unfold App.writeLoop
      split
      · exact holds
      · next write rest _ =>
          have popped := background.queues app app.nextUniStreamId app.outbound rest holds
          have performed := background.performWrite popped now write answer
          split
          · next same => rw [same] at performed; exact ih performed
          · next same => rw [same] at performed; exact performed
          · next same => rw [same] at performed; exact performed

theorem processWrites (holds : property app) (now : Nat) (late : List QuicWrite)
    (answers : List App.SendAnswer) : property (app.processWrites now late answers).1 := by
  refine Attempt.andThen_keeps property holds fun current kept => ?_
  exact background.writeLoop
    (background.queues _ _ _ _ (background.cleanup current now kept)) now answers

theorem receiveOutbound (holds : property app) : property app.receiveOutbound := by
  unfold App.receiveOutbound
  split
  · exact holds
  · exact background.queues app app.nextUniStreamId _ _ holds

theorem waitForData (holds : property app) (now later : Nat) (woken : Bool) :
    property (app.waitForData now later woken).1 := by
  refine Attempt.andThen_keeps property holds fun current kept => ?_
  have cleaned := background.cleanup current now kept
  dsimp only
  split
  · exact background.receiveOutbound cleaned
  · exact cleaned

theorem enqueue (holds : property app) (write : QuicWrite) : property (app.enqueue write) := by
  unfold App.enqueue
  split
  · exact background.queues app app.nextUniStreamId _ app.pendingWrites holds
  · exact holds

theorem updateStream (holds : property app) (streamId : UInt64)
    {update : Channel (List UInt8) → Channel (List UInt8)}
    (sized : ∀ channel, (update channel).capacity = channel.capacity) :
    property (app.updateStream streamId update) := by
  unfold App.updateStream
  split
  · exact holds
  · next found => exact background.stream app streamId _ _ found (sized _) holds

/-- A property that the six updates keep is kept by every background event. -/
theorem step (holds : property app) {event : Event} (quiet : event.Background) :
    property (app.step event).1 := by
  cases event with
  | established now => exact background.deadline app _ holds
  | beginReads now =>
      exact Attempt.andThen_keeps property holds fun current kept =>
        background.cleanup current now kept
  | uniStream now order streamId data fin => exact quiet.elim
  | streamData now streamId data fin => exact quiet.elim
  | datagram now data => exact quiet.elim
  | processWrites now late answers => exact background.processWrites holds now late answers
  | waitForData now later woken => exact background.waitForData holds now later woken
  | enqueue write => exact background.enqueue holds write
  | relayReceives streamId => exact background.updateStream holds streamId Channel.recv_capacity
  | relayEnds streamId => exact background.updateStream holds streamId fun _ => rfl
  | udpRelayReceives assocId => exact background.modifyUdpSession holds assocId _
  | udpRelayEnds assocId => exact background.modifyUdpSession holds assocId _

end Background

/-- The updates made for UDP packets, datagrams and unidirectional streams. -/
structure Updates (property : App setting → Prop) : Prop extends Background property where
  charge : ∀ app bytes items, property app → property (app.charge bytes items)
  uniStreams : ∀ app uniStreams, property app → property { app with uniStreams := uniStreams }
  queueCommand : ∀ app command, app.authenticated = false → property app →
    property { app with pendingUniCommands := app.pendingUniCommands ++ [command] }
  queueDatagram : ∀ app datagram, app.authenticated = false → property app →
    property { app with pendingDatagrams := app.pendingDatagrams ++ [datagram] }
  clearCommands : ∀ app, property app → property { app with pendingUniCommands := [] }
  clearDatagrams : ∀ app, property app → property { app with pendingDatagrams := [] }
  authenticate : ∀ app now deadline command, property app →
    property (app.emit (.authenticate now deadline command))
  admitUser : ∀ app user, property app → property (app.admitUser user)
  assembler : ∀ app packet now, property app →
    property { app with packetAssembler := (app.packetAssembler.push packet now).1 }
  openSession : ∀ app assocId session mode, property app →
    property ((app.putUdpSession assocId session).emit (.spawnUdpSession assocId mode))
  useSession : ∀ app assocId session, property app → property (app.putUdpSession assocId session)
  forward : ∀ app assocId request, property app → property (app.emit (.forward assocId request))
  endSession : ∀ app assocId, property app → property (app.endUdpSession assocId)

namespace Updates

variable {property : App setting → Prop} (updates : Updates property)
variable {app : App setting}
include updates

theorem reservePreAuth (holds : property app) (now bytes items : Nat) :
    property (app.reservePreAuth now bytes items).1 := by
  refine Attempt.andThen_keeps property holds fun current kept => ?_
  split
  · exact kept
  · split
    · exact kept
    · exact updates.charge current bytes items kept

theorem deliver (holds : property app) (packet : Packet) (target : TargetAddr) (mode : UdpMode)
    (now : Nat) : property (app.deliver packet target mode now).1 := by
  have opened : property (app.udpSession packet.assocId mode now).1 := by
    unfold App.udpSession
    split
    · exact holds
    · exact updates.openSession app _ _ _ holds
  unfold App.deliver
  dsimp only
  split
  · exact opened
  · split
    · exact updates.forward _ _ _ (updates.useSession _ _ _ opened)
    · exact updates.useSession _ _ _ opened

theorem handlePacket (holds : property app) (now : Nat) (data : List UInt8) (mode : UdpMode) :
    property (app.handlePacket now data mode).1 := by
  unfold App.handlePacket
  split
  · exact holds
  · next packet _ =>
      have pushed := updates.assembler app packet now holds
      dsimp only
      split
      · exact pushed
      · exact pushed
      · split
        · exact pushed
        · exact updates.deliver pushed _ _ _ _

theorem queueDatagram_of_outside (holds : property app) (outside : app.authenticated = false)
    (now : Nat) (data : List UInt8) : property (app.queueDatagram now data).1 := by
  have kept : property (app.reservePreAuth now data.length 1).1 ∧
      (app.reservePreAuth now data.length 1).1.authenticated = false := by
    refine ⟨updates.reservePreAuth holds now data.length 1, ?_⟩
    refine Attempt.andThen_keeps (fun after : App setting => after.authenticated = false)
      outside fun current still => ?_
    split
    · exact still
    · split
      · exact still
      · exact still
  exact (Attempt.andThen_keeps (fun after => property after ∧ after.authenticated = false) kept
    fun current both => ⟨updates.queueDatagram current data both.2 both.1, both.2⟩).1

theorem handleDatagram (holds : property app) (now : Nat) (data : List UInt8) :
    property (app.handleDatagram now data).1 := by
  refine Attempt.andThen_keeps property holds fun current kept => ?_
  split
  · exact kept
  · split
    · exact kept
    · split
      · split
        · next outside => exact updates.queueDatagram_of_outside kept outside now data
        · exact updates.handlePacket kept now data .native
      · exact kept

theorem dispatchCommand (holds : property app) (now : Nat)
    (command : QueuedCommand setting.core) : property (app.dispatchCommand now command).1 := by
  unfold App.dispatchCommand
  split
  · split
    · next outside => exact updates.queueCommand app command outside holds
    · exact updates.handlePacket holds now command.data .quic
  · split
    · split
      · next outside => exact updates.queueCommand app command outside holds
      · split
        · exact holds
        · exact updates.endSession app _ holds
    · exact holds

theorem replayCommands (holds : property app) (now : Nat) :
    property (app.replayCommands now).1 :=
  Attempt.forEach_keeps property (fun _ command kept => updates.dispatchCommand kept now command)
    (updates.clearCommands app holds) app.pendingUniCommands

theorem replayDatagrams (holds : property app) (now : Nat) :
    property (app.replayDatagrams now).1 :=
  Attempt.forEach_keeps property (fun _ datagram kept => updates.handleDatagram kept now datagram)
    (updates.clearDatagrams app holds) app.pendingDatagrams

variable (replays : ∀ current now order, property current →
  property (current.replayStreams now order).1)
include replays

theorem handleAuthData (holds : property app) (now : Nat)
    (order : IterationOrder UInt64 PendingStream) (data : List UInt8) :
    property (app.handleAuthData now order data).1 := by
  refine Attempt.andThen_keeps property (updates.authenticate app _ _ _ holds)
    fun current kept => ?_
  split
  · exact kept
  · next user _ =>
      have commands := updates.replayCommands (updates.admitUser current user kept) now
      refine Attempt.andThen_keeps property commands fun current kept => ?_
      exact Attempt.andThen_keeps property (updates.replayDatagrams kept now) fun current kept =>
        replays current now order kept

theorem handleUnidirectionalCommand (holds : property app) (now : Nat)
    (order : IterationOrder UInt64 PendingStream) (data : List UInt8) :
    property (app.handleUnidirectionalCommand now order data).1 := by
  unfold App.handleUnidirectionalCommand
  split
  · split
    · exact updates.handleAuthData replays holds now order data
    · exact updates.dispatchCommand holds now _
  · exact holds

theorem advanceUniStream (holds : property app) (now : Nat)
    (order : IterationOrder UInt64 PendingStream) (streamId : UInt64) (command : List UInt8)
    (fin : Bool) : property (app.advanceUniStream now order streamId command fin).1 := by
  have inserted :=
    updates.uniStreams app (app.uniStreams.insert streamId (.receiving command)) holds
  unfold App.advanceUniStream
  dsimp only
  split
  · exact inserted
  · split
    · exact inserted
    · refine updates.handleUnidirectionalCommand replays ?_ now order command
      cases fin with
      | true => exact updates.uniStreams app _ holds
      | false => exact updates.uniStreams app _ holds

theorem handleUnidirectionalStream (holds : property app) (now : Nat)
    (order : IterationOrder UInt64 PendingStream) (streamId : UInt64) (data : List UInt8)
    (fin : Bool) :
    property (app.handleUnidirectionalStream now order streamId data fin).1 := by
  refine Attempt.andThen_keeps property (updates.reservePreAuth holds _ _ _) fun current kept => ?_
  split
  · split
    · exact kept
    · split
      · exact updates.uniStreams current _ kept
      · exact kept
  · exact updates.advanceUniStream replays kept now order streamId _ fin

end Updates

/-- All updates of the connection, those of its TCP streams included. -/
structure Handlers (property : App setting → Prop) : Prop extends Updates property where
  pendingStreams : ∀ app pendingStreams, property app →
    property { app with pendingStreams := pendingStreams }
  newStream : ∀ app streamId, property app →
    property (app.putStream streamId ⟨.bounded channelCapacity⟩)
  endStream : ∀ app streamId, property app →
    property { app with streams := app.streams.erase streamId }
  received : ∀ app streamId fin, property app → property (app.emit (.received streamId fin))
  tryParseConnect : ∀ app streamId data, property app →
    property (app.emit (.tryParseConnect streamId data))
  spawnRelay : ∀ app streamId session initial, property app →
    property (app.emit (.spawnRelay streamId session initial))

namespace Handlers

variable {property : App setting → Prop} (handlers : Handlers property)
variable {app : App setting}
include handlers

theorem sendToRelay (holds : property app) {streamId : UInt64} {state : StreamState}
    (found : app.streams.lookup streamId = some state) (data : List UInt8) (fin : Bool) :
    property (app.sendToRelay streamId state data fin).1 := by
  unfold App.sendToRelay
  dsimp only
  split
  · exact holds
  · next clientTx sent =>
      split
      · exact handlers.endStream app streamId holds
      · refine handlers.stream app streamId state _ found ?_ holds
        split at sent
        · cases sent
          rfl
        · exact Channel.trySend_capacity sent

theorem parsePending (holds : property app) (streamId : UInt64) (pending : PendingStream) :
    property (app.parsePending streamId pending).1 := by
  unfold App.parsePending
  split
  · exact holds
  · split
    · exact holds
    · exact handlers.pendingStreams app _ holds
  · unfold App.connectStream
    cases pending.fin with
    | true => exact handlers.spawnRelay app _ _ _ holds
    | false => exact handlers.spawnRelay _ _ _ _ (handlers.newStream app streamId holds)

theorem handleStreamData (holds : property app) (now : Nat) (streamId : UInt64)
    (data : List UInt8) (fin : Bool) :
    property (app.handleStreamData now streamId data fin).1 := by
  have received := handlers.received app streamId fin holds
  unfold App.handleStreamData
  dsimp only
  split
  · exact Attempt.andThen_keeps property (handlers.reservePreAuth received _ _ _)
      fun current kept => handlers.pendingStreams current _ kept
  · split
    · next found => exact handlers.sendToRelay received found data fin
    · exact handlers.parsePending
        (handlers.tryParseConnect _ _ _ (handlers.pendingStreams _ _ received)) streamId _

theorem replayStreams (holds : property app) (now : Nat)
    (order : IterationOrder UInt64 PendingStream) :
    property (app.replayStreams now order).1 := by
  refine Attempt.forEach_keeps property (fun current entry kept => ?_)
    (handlers.pendingStreams app ∅ holds) _
  unfold App.replayStream
  split
  · exact kept
  · exact handlers.handleStreamData kept now _ _ _

theorem step (holds : property app) (event : Event) : property (app.step event).1 := by
  cases event with
  | uniStream now order streamId data fin =>
      exact handlers.handleUnidirectionalStream
        (fun current now order kept => handlers.replayStreams kept now order) holds now order
        streamId data fin
  | streamData now streamId data fin =>
      exact handlers.handleStreamData holds now streamId data fin
  | datagram now data => exact handlers.handleDatagram holds now data
  | _ => exact handlers.toBackground.step holds trivial

theorem run (holds : property app) (events : List Event) :
    property ((appMachine setting).run app events) := by
  have steps : ∀ state event, property state → property ((appMachine setting).next state event) :=
    fun _ event kept => handlers.step kept event
  exact (appMachine setting).run_invariant steps holds events

end Handlers

end Rtunnel.Tuic.Inbound
