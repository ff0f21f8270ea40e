import Rtunnel.Tuic.Inbound.App

namespace Rtunnel.Tuic.Outbound

open Rtunnel.Data
open Rtunnel.Tuic.Inbound.App (SendAnswer Flow)

/-! The writes of a TUIC outbound connection for UDP: `TuicUdpOutboundApp`.

Packets wait as packets and are encoded when they are tried; one that exceeds the
datagram limit is cut and its pieces take its place in the queue.  The answers of
the QUIC library are arguments of the calls that ask for them.
-/

inductive TuicUdpWrite where
  | packet (packet : Packet)
  | heartbeat
deriving DecidableEq

/-- What `process_writes` reads and changes. -/
structure UdpClientApp where
  outbound : Channel TuicUdpWrite
  pendingWrites : List TuicUdpWrite
deriving DecidableEq

namespace UdpClientApp

abbrev Result := Attempt UdpClientApp Error

def requeue (app : UdpClientApp) (write : TuicUdpWrite) : UdpClientApp :=
  { app with pendingWrites := write :: app.pendingWrites }

/-- Put the fragments of a packet in front of the queue, the last one first. -/
def requeueFragments (app : UdpClientApp) (fragments : List Packet) : UdpClientApp :=
  fragments.reverse.foldl (fun app fragment => app.requeue (.packet fragment)) app

def writePacket (core : TuicCore) (app : UdpClientApp) (packet : Packet) (answer : SendAnswer) :
    UdpClientApp × Flow :=
  match encodePacket core packet with
  | .error reason => (app, .fail reason)
  | .ok _ =>
      match answer with
      | .sent _ => (app, .proceed)
      | .done => (app.requeue (.packet packet), .pause)
      | .bufferTooShort maxWritableLen =>
          match fragmentPacket core packet maxWritableLen with
          | .error _ => (app, .proceed)
          | .ok fragments => (app.requeueFragments fragments, .proceed)
      | .failed text => (app, .fail (.message text))

/-- A heartbeat is never cut. -/
def writeHeartbeat (core : TuicCore) (app : UdpClientApp) (answer : SendAnswer) :
    UdpClientApp × Flow :=
  match encodeHeartbeat core with
  | .error reason => (app, .fail reason)
  | .ok _ =>
      match answer with
      | .sent _ => (app, .proceed)
      | .done => (app.requeue .heartbeat, .pause)
      | answer => (app, .fail answer.failure)

def performWrite (core : TuicCore) (app : UdpClientApp) (write : TuicUdpWrite)
    (answer : SendAnswer) : UdpClientApp × Flow :=
  match write with
  | .packet packet => app.writePacket core packet answer
  | .heartbeat => app.writeHeartbeat core answer

/-- The write loop, one answer of the QUIC library for each send. -/
def writeLoop (core : TuicCore) (app : UdpClientApp) : List SendAnswer → Result
  | [] => (app, .ok ())
  | answer :: answers =>
      match app.pendingWrites with
      | [] => (app, .ok ())
      | write :: rest =>
          match { app with pendingWrites := rest }.performWrite core write answer with
          | (app, .proceed) => writeLoop core app answers
          | (app, .pause) => (app, .ok ())
          | (app, .fail reason) => (app, .error reason)

/-- Take over what the session has sent; `late` arrives while the queue is drained. -/
def drainOutbound (app : UdpClientApp) (late : List TuicUdpWrite) : UdpClientApp :=
  { app with
    pendingWrites := app.pendingWrites ++ app.outbound.queue ++ late
    outbound := .bounded app.outbound.capacity }

def processWrites (core : TuicCore) (app : UdpClientApp) (late : List TuicUdpWrite)
    (answers : List SendAnswer) : Result :=
  (app.drainOutbound late).writeLoop core answers

theorem requeueFragments_eq (app : UdpClientApp) (fragments : List Packet) :
    app.requeueFragments fragments =
      { app with pendingWrites := fragments.map .packet ++ app.pendingWrites } := by
  unfold requeueFragments
  rw [List.foldl_reverse]
  induction fragments with
  | nil => rfl
  | cons fragment fragments ih =>
      rw [List.foldr_cons, ih]
      rfl

end UdpClientApp

end Rtunnel.Tuic.Outbound
