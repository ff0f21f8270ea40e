import Rtunnel.Tuic.Inbound.App

namespace Rtunnel.Tuic.Inbound

open Rtunnel.Data

/-! What the handlers of the client's data do not look at.

Neither the unidirectional streams nor the queues of writes have a part in handling
a command, a datagram or the data of a bidirectional stream.  A change made there
can be made after the call as well, and a call leaves them as they are.
-/

variable {setting : Setting}

structure Aside where
  uniStreams : KeyedMap UInt64 UniStreamState
  nextUniStreamId : UInt64
  outbound : Channel QuicWrite
  pendingWrites : List QuicWrite

/-- The events that touch the queues of writes. -/
def Event.OnWrites : Event → Prop
  | .processWrites _ _ _ => True
  | .waitForData _ _ _ => True
  | .enqueue _ => True
  | _ => False

namespace App

def aside (app : App setting) : Aside where
  uniStreams := app.uniStreams
  nextUniStreamId := app.nextUniStreamId
  outbound := app.outbound
  pendingWrites := app.pendingWrites

def withAside (change : Aside → Aside) (app : App setting) : App setting :=
  { app with
    uniStreams := (change app.aside).uniStreams
    nextUniStreamId := (change app.aside).nextUniStreamId
    outbound := (change app.aside).outbound
    pendingWrites := (change app.aside).pendingWrites }

section Frames

variable (change : Aside → Aside) (app : App setting)

theorem reservePreAuth_aside (now bytes items : Nat) :
    (app.withAside change).reservePreAuth now bytes items =
      (app.reservePreAuth now bytes items).map (withAside change) := by
  refine Attempt.andThen_map (withAside change) (fun current => ?_)
    (app, app.checkAuthenticationDeadline now)
  dsimp only [withAside]
  split
  · rfl
  · split <;> rfl

theorem deliver_aside (packet : Packet) (target : TargetAddr) (mode : UdpMode) (now : Nat) :
    (app.withAside change).deliver packet target mode now =
      (app.deliver packet target mode now).map (withAside change) := by
  have opened : (app.withAside change).udpSession packet.assocId mode now =
      ((app.udpSession packet.assocId mode now).1.withAside change,
        (app.udpSession packet.assocId mode now).2) := by
    unfold udpSession
    dsimp only [withAside]
    split <;> rfl
  unfold deliver
  rw [opened]
  dsimp only
  split
  · rfl
  · split <;> rfl

theorem handlePacket_aside (now : Nat) (data : List UInt8) (mode : UdpMode) :
    (app.withAside change).handlePacket now data mode =
      (app.handlePacket now data mode).map (withAside change) := by
  unfold handlePacket
  split
  · rfl
  · rename_i packet _
    dsimp only [withAside]
    split
    · rfl
    · rfl
    · split
      · rfl
      · exact deliver_aside change
          { app with packetAssembler := (app.packetAssembler.push packet now).1 } _ _ mode now

theorem dispatchCommand_aside (now : Nat) (command : QueuedCommand setting.core) :
    (app.withAside change).dispatchCommand now command =
      (app.dispatchCommand now command).map (withAside change) := by
  have same : (app.withAside change).authenticated = app.authenticated := rfl
  unfold dispatchCommand
  rw [same]
  split
  · split
    · rfl
    · exact handlePacket_aside change app now command.data .quic
  · split
    · split
      · rfl
      · split <;> rfl
    · rfl

theorem handleDatagram_aside (now : Nat) (data : List UInt8) :
    (app.withAside change).handleDatagram now data =
      (app.handleDatagram now data).map (withAside change) := by
  refine Attempt.andThen_map (withAside change) (fun current => ?_)
    (app, app.checkAuthenticationDeadline now)
  have same : (current.withAside change).authenticated = current.authenticated := rfl
  rw [same]
  split
  · rfl
  · split
    · rfl
    · split
      · split
        · unfold queueDatagram
          rw [reservePreAuth_aside]
          exact Attempt.andThen_map (withAside change) (fun _ => rfl) _
        · exact handlePacket_aside change current now data .native
      · rfl

theorem handleStreamData_aside (now : Nat) (streamId : UInt64) (data : List UInt8)
    (fin : Bool) :
    (app.withAside change).handleStreamData now streamId data fin =
      (app.handleStreamData now streamId data fin).map (withAside change) := by
  unfold handleStreamData
  dsimp only
  have received : (app.withAside change).emit (.received streamId fin) =
      (app.emit (.received streamId fin)).withAside change := rfl
  rw [received]
  generalize app.emit (.received streamId fin) = app
  have same : (app.withAside change).authenticated = app.authenticated := rfl
  have streams : (app.withAside change).streams = app.streams := rfl
  rw [same, streams]
  split
  · unfold bufferStream
    rw [reservePreAuth_aside]
    exact Attempt.andThen_map (withAside change) (fun _ => rfl) _
  · split
    · unfold sendToRelay
      dsimp only
      split
      · rfl
      · split <;> rfl
    · unfold openStream
      have extended : (app.withAside change).extendPending streamId data fin =
          app.extendPending streamId data fin := rfl
      rw [extended]
      generalize app.extendPending streamId data fin = pending
      dsimp only
      unfold parsePending
      split
      · rfl
      · split <;> rfl
      · cases pending.fin <;> rfl

theorem handleAuthData_aside (now : Nat) (order : IterationOrder UInt64 PendingStream)
    (data : List UInt8) :
    (app.withAside change).handleAuthData now order data =
      (app.handleAuthData now order data).map (withAside change) := by
  have commands : ∀ app : App setting, (app.withAside change).replayCommands now =
      (app.replayCommands now).map (withAside change) := fun app =>
    Attempt.forEach_map (withAside change) (fun app command => app.dispatchCommand now command)
      (fun app command => dispatchCommand_aside change app now command)
      { app with pendingUniCommands := [] } app.pendingUniCommands
  have datagrams : ∀ app : App setting, (app.withAside change).replayDatagrams now =
      (app.replayDatagrams now).map (withAside change) := fun app =>
    Attempt.forEach_map (withAside change) (fun app datagram => app.handleDatagram now datagram)
      (fun app datagram => handleDatagram_aside change app now datagram)
      { app with pendingDatagrams := [] } app.pendingDatagrams
  have streams : ∀ app : App setting, (app.withAside change).replayStreams now order =
      (app.replayStreams now order).map (withAside change) := by
    intro app
    refine Attempt.forEach_map (withAside change) (fun app entry => app.replayStream now entry)
      (fun app entry => ?_) { app with pendingStreams := ∅ }
      (order.arrange app.pendingStreams.entries)
    unfold replayStream
    split
    · rfl
    · exact handleStreamData_aside change app now entry.1 entry.2.data entry.2.fin
  unfold handleAuthData
  dsimp only
  refine Attempt.andThen_map (withAside change) (fun current => ?_)
    (app.emit (.authenticate now app.authenticationDeadline data),
      (app.emit (.authenticate now app.authenticationDeadline data)).checkAuthenticationDeadline
        now)
  split
  · rfl
  · refine (congrArg (Attempt.andThen · _) (commands (current.admitUser _))).trans
      (Attempt.andThen_map (withAside change) (fun app => ?_) _)
    exact (congrArg (Attempt.andThen · _) (datagrams app)).trans
      (Attempt.andThen_map (withAside change) streams _)

/-- The queues of writes, and the next stream to open for one. -/
def writes (app : App setting) : UInt64 × Channel QuicWrite × List QuicWrite :=
  (app.nextUniStreamId, app.outbound, app.pendingWrites)

/-- A call that does not notice a change aside makes none there. -/
theorem writes_kept (handle : App setting → Result setting)
    (unnoticed : ∀ change app, handle (app.withAside change) =
      (handle app).map (withAside change)) (app : App setting) :
    (handle app).1.writes = app.writes := by
  have same := unnoticed (fun _ => app.aside) app
  exact congrArg (fun result => result.1.writes) same

theorem handleUnidirectionalCommand_writes (app : App setting) (now : Nat)
    (order : IterationOrder UInt64 PendingStream) (data : List UInt8) :
    (app.handleUnidirectionalCommand now order data).1.writes = app.writes := by
  unfold handleUnidirectionalCommand
  split
  · split
    · exact writes_kept (fun app => app.handleAuthData now order data)
        (fun change app => handleAuthData_aside change app now order data) app
    · exact writes_kept (fun app => app.dispatchCommand now _)
        (fun change app => dispatchCommand_aside change app now _) app
  · rfl

theorem advanceUniStream_writes (app : App setting) (now : Nat)
    (order : IterationOrder UInt64 PendingStream) (streamId : UInt64) (command : List UInt8)
    (fin : Bool) :
    (app.advanceUniStream now order streamId command fin).1.writes = app.writes := by
  unfold advanceUniStream
  dsimp only
  split
  · rfl
  · split
    · rfl
    · refine (handleUnidirectionalCommand_writes _ now order command).trans ?_
      cases fin <;> rfl

theorem handleUnidirectionalStream_writes (app : App setting) (now : Nat)
    (order : IterationOrder UInt64 PendingStream) (streamId : UInt64) (data : List UInt8)
    (fin : Bool) :
    (app.handleUnidirectionalStream now order streamId data fin).1.writes = app.writes := by
  have reserved : (app.reservePreAuth now data.length
      (newItems app.uniStreams streamId)).1.writes = app.writes :=
    writes_kept (fun app => app.reservePreAuth now data.length _)
      (fun change app => reservePreAuth_aside change app now data.length _) app
  refine Attempt.andThen_keeps (fun current : App setting => current.writes = app.writes)
    reserved fun current kept => ?_
  split
  · split
    · exact kept
    · split
      · exact kept
      · exact kept
  · exact (advanceUniStream_writes current now order streamId _ fin).trans kept

/-- Only write passes, wake-ups and tasks reach the queues of writes. -/
theorem step_writes (app : App setting) {event : Event} (apart : ¬ event.OnWrites) :
    (app.step event).1.writes = app.writes := by
  cases event with
  | uniStream now order streamId data fin =>
      exact handleUnidirectionalStream_writes app now order streamId data fin
  | streamData now streamId data fin =>
      exact writes_kept (fun app => app.handleStreamData now streamId data fin)
        (fun change app => handleStreamData_aside change app now streamId data fin) app
  | datagram now data =>
      exact writes_kept (fun app => app.handleDatagram now data)
        (fun change app => handleDatagram_aside change app now data) app
  | established now => rfl
  | beginReads now =>
      refine Attempt.andThen_keeps (fun current : App setting => current.writes = app.writes) rfl
        fun current kept => ?_
      refine Eq.trans ?_ kept
      unfold maybeCleanupUdpState
      split <;> rfl
  | relayReceives streamId | relayEnds streamId =>
      simp only [step, updateStream]
      split <;> rfl
  | udpRelayReceives assocId | udpRelayEnds assocId =>
      simp only [step, updateUdpSession, modifyUdpSession]
      split <;> rfl
  | processWrites now late answers | waitForData now later woken | enqueue write =>
      exact absurd trivial apart

end Frames

end App

end Rtunnel.Tuic.Inbound
