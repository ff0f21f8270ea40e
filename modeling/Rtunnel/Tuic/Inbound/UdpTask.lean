import Rtunnel.Tuic.Fragmentation
import Rtunnel.Tuic.Inbound.App

namespace Rtunnel.Tuic.Inbound

open Rtunnel.Data

/-! The task of one UDP association: `run_udp_session`.

The first request is what the task dials and sends; from then on it sends the
requests of its channel and queues what the outbound receives as packets for
the client, with ids of its own.  An error of any of these calls ends the task.
-/

inductive UdpTaskStage where
  | starting
  | relaying
  | ended
deriving DecidableEq

structure UdpTask where
  stage : UdpTaskStage
  pktId : UInt16
  dialled : List Session
  sent : List UdpRequest
  written : List QuicWrite

/-- What a turn of the task waits for, with the answers of the calls it makes.
A channel without senders has no more requests; `queued` tells whether the
connection's queue still has its receiver. -/
inductive UdpTaskEvent where
  | request (received : Option UdpRequest) (dial send : Except Error Unit)
  | response (received : Except Error (TargetAddr × List UInt8)) (queued : Bool)

namespace UdpTask

def new : UdpTask where
  stage := .starting
  pktId := 0
  dialled := []
  sent := []
  written := []

def leave (task : UdpTask) : UdpTask := { task with stage := .ended }

def sendTo (task : UdpTask) (request : UdpRequest) (send : Except Error Unit) : UdpTask :=
  let task := { task with stage := .relaying, sent := task.sent ++ [request] }
  match send with
  | .ok () => task
  | .error _ => task.leave

/-- The packet that answers the client. -/
def packet (assocId : UInt16) (task : UdpTask) (source : TargetAddr) (payload : List UInt8) :
    Packet where
  assocId := assocId
  pktId := task.pktId
  fragTotal := 1
  fragId := 0
  target := some source
  payload := payload

def quicWrite (assocId : UInt16) (mode : UdpMode) (encoded : List UInt8) : QuicWrite :=
  match mode with
  | .native => .datagram (some assocId) encoded
  | .quic => .uniStream (some assocId) none encoded

/-- The packet ids wrap around. -/
def respond (core : TuicCore) (assocId : UInt16) (mode : UdpMode) (task : UdpTask)
    (source : TargetAddr) (payload : List UInt8) (queued : Bool) : UdpTask :=
  match encodePacket core (task.packet assocId source payload) with
  | .error _ => task.leave
  | .ok encoded =>
      if queued then
        { task with
          pktId := task.pktId + 1
          written := task.written ++ [quicWrite assocId mode encoded] }
      else task.leave

def request (tag : String) (task : UdpTask) (request : UdpRequest)
    (dial send : Except Error Unit) : UdpTask :=
  match task.stage with
  | .starting =>
      let session : Session := ⟨tag, .udpAssociate, request.target⟩
      let task := { task with dialled := task.dialled ++ [session] }
      match dial with
      | .ok () => task.sendTo request send
      | .error _ => task.leave
  | .relaying => task.sendTo request send
  | .ended => task

def handle (setting : Setting) (assocId : UInt16) (mode : UdpMode) (task : UdpTask) :
    UdpTaskEvent → UdpTask
  | .request none _ _ => task.leave
  | .request (some request) dial send => task.request setting.inbound request dial send
  | .response received queued =>
      match task.stage, received with
      | .relaying, .error _ => task.leave
      | .relaying, .ok (source, payload) =>
          task.respond setting.core assocId mode source payload queued
      | _, _ => task

/-- An answer whose source the wire carries is encoded and queued. -/
theorem respond_relays {core : TuicCore} (lawful : core.Lawful) (assocId : UInt16)
    (mode : UdpMode) {task : UdpTask} (relaying : task.stage = .relaying) {source : TargetAddr}
    {payload : List UInt8} {addr : Address} (small : payload.length ≤ u16Max)
    (portable : source.Portable) (addressed : targetToAddress source = .ok addr) :
    (task.respond core assocId mode source payload true).stage = .relaying := by
  have converted : packetAddress (some source) = .ok addr := addressed
  have named : ∀ target, some source = some target → target.Portable := by
    intro target same
    cases same
    exact portable
  obtain ⟨encodable, _⟩ := packetAddress_encodable named converted
  obtain ⟨header, marshalled⟩ := lawful.marshal_ok
    (.packet assocId task.pktId 1 0 (UInt16.ofNat payload.length) addr) encodable
  have encoded : encodePacket core (task.packet assocId source payload) =
      .ok (header ++ payload) :=
    encodePacket_of_marshal (by decide : (1 : UInt8) ≠ 0) (by decide : (0 : UInt8) < 1) small
      converted marshalled
  unfold respond
  rw [encoded]
  exact relaying

end UdpTask

end Rtunnel.Tuic.Inbound
