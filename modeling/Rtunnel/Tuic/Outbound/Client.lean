import Rtunnel.Tuic.Inbound.App

namespace Rtunnel.Tuic.Outbound

open Rtunnel.Data
open Rtunnel.Tuic.Inbound.App (SendAnswer Flow)

/-! The TUIC outbound connection for one stream: `TuicClientApp` and its callbacks.

The client authenticates on one stream, sends the CONNECT header on another and
relays both directions of that one.  The answers of the QUIC library are arguments
of the calls that ask for them.
-/

def connectStreamId : UInt64 := 0

def heartbeatInterval : Nat := seconds 10

def channelCapacity : Nat := 32

inductive QuicWrite where
  | data (data : List UInt8)
  | heartbeat
  | close
deriving DecidableEq

/-- What a connection never changes: the codec's foreign half, the user, the target,
and the TLS exporter behind `codec::token`. -/
structure ClientSetting where
  core : TuicCore
  uuid : Uuid
  password : String
  target : TargetAddr
  exporter : Uuid → String → Except Error Token

structure ClientApp where
  outbound : Channel QuicWrite
  streamTx : Option (Channel (List UInt8))
  pendingWrites : List QuicWrite
  nextHeartbeat : Nat
deriving DecidableEq

namespace ClientApp

abbrev Result := Attempt ClientApp Error

/-- A connection on whose channel the reading task may already have sent. -/
def new (now : Nat) (outbound : Channel QuicWrite) : ClientApp where
  outbound := outbound
  streamTx := some (.bounded channelCapacity)
  pendingWrites := []
  nextHeartbeat := now + heartbeatInterval

def requeue (app : ClientApp) (write : QuicWrite) : ClientApp :=
  { app with pendingWrites := write :: app.pendingWrites }

def sendAllOrQueue (app : ClientApp) (data : List UInt8) : SendAnswer → Result
  | .sent count =>
      if count = data.length then (app, .ok ())
      else (app.requeue (.data (data.drop count)), .ok ())
  | .done => (app.requeue (.data data), .ok ())
  | answer => (app, .error answer.failure)

/-- The AUTHENTICATE command is sent once, on a stream of its own; its length is not
compared with the answer. -/
def onConnEstablished (app : ClientApp) (setting : ClientSetting) (authAnswer : SendAnswer)
    (connectAnswer : SendAnswer) : Result :=
  match setting.exporter setting.uuid setting.password with
  | .error reason => (app, .error reason)
  | .ok token =>
      match encodeAuthenticate setting.core setting.uuid token with
      | .error reason => (app, .error reason)
      | .ok _ =>
          match authAnswer with
          | .sent _ =>
              match encodeConnect setting.core setting.target [] with
              | .error reason => (app, .error reason)
              | .ok connect => app.sendAllOrQueue connect connectAnswer
          | answer => (app, .error answer.failure)

/-- What ends the wait: a message or the end of the channel, or the heartbeat timer. -/
inductive Wake where
  | received
  | timer (now : Nat)
deriving DecidableEq

def waitForData (app : ClientApp) (wake : Wake) : ClientApp :=
  if app.pendingWrites = [] then
    match wake with
    | .received =>
        match app.outbound.queue with
        | [] => app
        | write :: _ =>
            { app with pendingWrites := [write], outbound := app.outbound.recv }
    | .timer now =>
        { app with pendingWrites := [.heartbeat], nextHeartbeat := now + heartbeatInterval }
  else app

/-- One successful read of `process_reads`. -/
def readStream (app : ClientApp) (streamId : UInt64) (data : List UInt8) (fin : Bool) : Result :=
  let sent : Except TrySendError (Option (Channel (List UInt8))) :=
    match app.streamTx with
    | some streamTx =>
        if streamId = connectStreamId ∧ data ≠ [] then (streamTx.trySend data).map some
        else .ok app.streamTx
    | none => .ok none
  match sent with
  | .error reason =>
      let err := reason.text
      (app, .error (.message s!"tuic outbound receive queue backpressure: {err}"))
  | .ok streamTx =>
      if fin = true ∧ streamId = connectStreamId then ({ app with streamTx := none }, .ok ())
      else ({ app with streamTx := streamTx }, .ok ())

def performWrite (app : ClientApp) (setting : ClientSetting) :
    QuicWrite → SendAnswer → ClientApp × Flow
  | .data data, .sent count =>
      if count = data.length then (app, .proceed)
      else (app.requeue (.data (data.drop count)), .pause)
  | .data data, .done => (app.requeue (.data data), .pause)
  | .data _, answer => (app, .fail answer.failure)
  | .heartbeat, answer =>
      match encodeHeartbeat setting.core with
      | .error reason => (app, .fail reason)
      | .ok _ =>
          match answer with
          | .sent _ => (app, .proceed)
          | .done => (app.requeue .heartbeat, .pause)
          | answer => (app, .fail answer.failure)
  | .close, _ => (app, .proceed)

/-- The write loop, one answer of the QUIC library for each send. -/
def writeLoop (app : ClientApp) (setting : ClientSetting) : List SendAnswer → Result
  | [] => (app, .ok ())
  | answer :: answers =>
      match app.pendingWrites with
      | [] => (app, .ok ())
      | write :: rest =>
          match { app with pendingWrites := rest }.performWrite setting write answer with
          | (app, .proceed) => writeLoop app setting answers
          | (app, .pause) => (app, .ok ())
          | (app, .fail reason) => (app, .error reason)

/-- Take over what the tasks have sent; `late` arrives while the queue is drained. -/
def drainOutbound (app : ClientApp) (late : List QuicWrite) : ClientApp :=
  { app with
    pendingWrites := app.pendingWrites ++ app.outbound.queue ++ late
    outbound := .bounded app.outbound.capacity }

def processWrites (app : ClientApp) (setting : ClientSetting) (late : List QuicWrite)
    (answers : List SendAnswer) : Result :=
  (app.drainOutbound late).writeLoop setting answers

/-- The reading task sends a write; with a full queue it waits, and nothing changes yet. -/
def enqueue (app : ClientApp) (write : QuicWrite) : ClientApp :=
  match app.outbound.trySend write with
  | .ok outbound => { app with outbound := outbound }
  | .error _ => app

end ClientApp

/-- Everything that can happen to a connection once it is established. -/
inductive ClientEvent where
  | waitForData (wake : ClientApp.Wake)
  | readStream (streamId : UInt64) (data : List UInt8) (fin : Bool)
  | processWrites (late : List QuicWrite) (answers : List SendAnswer)
  | enqueue (write : QuicWrite)
  | streamReceives
  | streamEnds

def ClientApp.step (app : ClientApp) (setting : ClientSetting) : ClientEvent → ClientApp.Result
  | .waitForData wake => (app.waitForData wake, .ok ())
  | .readStream streamId data fin => app.readStream streamId data fin
  | .processWrites late answers => app.processWrites setting late answers
  | .enqueue write => (app.enqueue write, .ok ())
  | .streamReceives => ({ app with streamTx := app.streamTx.map Channel.recv }, .ok ())
  | .streamEnds => ({ app with streamTx := app.streamTx.map Channel.dropReceiver }, .ok ())

def clientMachine (setting : ClientSetting) :
    Machine ClientApp ClientEvent (Except Error Unit) :=
  ⟨fun app event => app.step setting event⟩

end Rtunnel.Tuic.Outbound
