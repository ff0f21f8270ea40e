import Rtunnel.Data.Attempt
import Rtunnel.Data.Channel
import Rtunnel.Data.Machine
import Rtunnel.Tuic.Codec

namespace Rtunnel.Tuic.Inbound

open Rtunnel.Data

/-! The TUIC inbound connection: `TuicApp` and its callbacks.

Every handler returns the state it leaves together with its result, since a
handler that fails keeps the changes it has made.  One clock value serves a
whole call.  Calls into the rest of the program are recorded in `trace`.
-/

def udpSessionIdleTimeout : Nat := seconds (5 * 60)

def udpSessionCleanupInterval : Nat := seconds 30

def channelCapacity : Nat := 32

def udpChannelCapacity : Nat := 128

def authenticationTimeout : Nat := seconds 10

def maxPreAuthBytes : Nat := 256 * 1024

def maxPreAuthItems : Nat := 256

structure TuicUser where
  name : String
  uuid : Uuid
  password : String
deriving DecidableEq

/-- What a connection never changes: the codec's foreign half, the inbound's
tag and users, and the TLS exporter behind `codec::token`, which may fail. -/
structure Setting where
  core : TuicCore
  inbound : String
  users : List TuicUser
  exporter : Uuid → String → Except Error Token

inductive UniStreamState where
  | receiving (command : List UInt8)
  | authenticated
deriving DecidableEq

structure PendingStream where
  data : List UInt8
  fin : Bool
deriving DecidableEq

structure StreamState where
  clientTx : Channel (List UInt8)
deriving DecidableEq

inductive UdpMode where
  | native
  | quic
deriving DecidableEq

structure UdpRequest where
  target : TargetAddr
  payload : List UInt8
deriving DecidableEq

structure UdpSession where
  tx : Channel UdpRequest
  mode : UdpMode
  lastUsed : Nat
deriving DecidableEq

inductive QuicWrite where
  | data (streamId : UInt64) (data : List UInt8) (fin : Bool)
  | datagram (assocId : Option UInt16) (data : List UInt8)
  | uniStream (assocId : Option UInt16) (streamId : Option UInt64) (data : List UInt8)
  | close (streamId : UInt64)
deriving DecidableEq

/-- A complete command that waits for authentication.  An AUTHENTICATE command
is never queued, so replaying the queue cannot authenticate again. -/
structure QueuedCommand (core : TuicCore) where
  data : List UInt8
  long : 2 ≤ data.length
  notAuthenticate : data.get ⟨1, long⟩ ≠ core.typeCodeAuthenticate
deriving DecidableEq

def QueuedCommand.code {core : TuicCore} (command : QueuedCommand core) : UInt8 :=
  command.data.get ⟨1, command.long⟩

/-- Calls that leave the connection's own state. -/
inductive Effect where
  | authenticate (now deadline : Nat) (command : List UInt8)
  | received (streamId : UInt64) (fin : Bool)
  | tryParseConnect (streamId : UInt64) (data : List UInt8)
  | spawnRelay (streamId : UInt64) (session : Session) (initial : List UInt8)
  | spawnUdpSession (assocId : UInt16) (mode : UdpMode)
  | forward (assocId : UInt16) (request : UdpRequest)
  | closed (streamId : UInt64)
deriving DecidableEq

structure App (setting : Setting) where
  authenticated : Bool
  authenticationDeadline : Nat
  preAuthBytes : Nat
  preAuthItems : Nat
  username : Option String
  uniStreams : KeyedMap UInt64 UniStreamState
  pendingUniCommands : List (QueuedCommand setting.core)
  pendingDatagrams : List (List UInt8)
  pendingStreams : KeyedMap UInt64 PendingStream
  streams : KeyedMap UInt64 StreamState
  udpSessions : KeyedMap UInt16 UdpSession
  packetAssembler : PacketAssembler
  nextUdpCleanup : Nat
  nextUniStreamId : UInt64
  outbound : Channel QuicWrite
  pendingWrites : List QuicWrite
  trace : List Effect

/-- The order in which a hash map hands out its entries; any order may occur. -/
structure IterationOrder (κ ν : Type) where
  arrange : List (Sigma fun _ : κ => ν) → List (Sigma fun _ : κ => ν)
  perm : ∀ entries, (arrange entries).Perm entries

namespace App

variable {setting : Setting}

abbrev Result (setting : Setting) := Attempt (App setting) Error

def new (setting : Setting) (now : Nat) : App setting where
  authenticated := false
  authenticationDeadline := now + authenticationTimeout
  preAuthBytes := 0
  preAuthItems := 0
  username := none
  uniStreams := ∅
  pendingUniCommands := []
  pendingDatagrams := []
  pendingStreams := ∅
  streams := ∅
  udpSessions := ∅
  packetAssembler := .empty
  nextUdpCleanup := now + udpSessionCleanupInterval
  nextUniStreamId := 3
  outbound := .bounded channelCapacity
  pendingWrites := []
  trace := []

def emit (app : App setting) (effect : Effect) : App setting :=
  { app with trace := app.trace ++ [effect] }

def checkAuthenticationDeadline (app : App setting) (now : Nat) : Except Error Unit :=
  if app.authenticated = false ∧ app.authenticationDeadline ≤ now then
    .error (.message "tuic authentication timed out")
  else
    .ok ()

/-- A stream counts as an item when its first bytes arrive. -/
def newItems {ν : Type} (map : KeyedMap UInt64 ν) (streamId : UInt64) : Nat :=
  if (map.lookup streamId).isSome then 0 else 1

def charge (app : App setting) (bytes items : Nat) : App setting :=
  { app with
    preAuthBytes := app.preAuthBytes + bytes
    preAuthItems := app.preAuthItems + items }

/-- The budget is charged before anything is retained. -/
def reservePreAuth (app : App setting) (now bytes items : Nat) : Result setting :=
  Attempt.andThen (app, app.checkAuthenticationDeadline now) fun app =>
    if app.authenticated then (app, .ok ())
    else if maxPreAuthBytes - app.preAuthBytes < bytes ∨
        maxPreAuthItems - app.preAuthItems < items then
      (app, .error (.message "tuic unauthenticated buffer limit exceeded"))
    else (app.charge bytes items, .ok ())

def putUdpSession (app : App setting) (assocId : UInt16) (session : UdpSession) : App setting :=
  { app with udpSessions := app.udpSessions.insert assocId session }

def endUdpSession (app : App setting) (assocId : UInt16) : App setting :=
  { app with udpSessions := app.udpSessions.erase assocId }

def putStream (app : App setting) (streamId : UInt64) (state : StreamState) : App setting :=
  { app with streams := app.streams.insert streamId state }

/-- `udp_sessions.entry(assoc_id).or_insert_with(spawn_udp_session)`. -/
def udpSession (app : App setting) (assocId : UInt16) (mode : UdpMode) (now : Nat) :
    App setting × UdpSession :=
  match app.udpSessions.lookup assocId with
  | some session => (app, session)
  | none =>
      let session := { tx := .bounded udpChannelCapacity, mode := mode, lastUsed := now }
      ((app.putUdpSession assocId session).emit (.spawnUdpSession assocId mode), session)

/-- Hand a whole packet to its relay; a relay that cannot take it loses it. -/
def deliver (app : App setting) (packet : Packet) (target : TargetAddr) (mode : UdpMode)
    (now : Nat) : Result setting :=
  let (app, session) := app.udpSession packet.assocId mode now
  if session.mode ≠ mode then
    (app, .error (.message "tuic udp relay mode changed"))
  else
    let request := { target := target, payload := packet.payload }
    match session.tx.trySend request with
    | .ok tx =>
        ((app.putUdpSession packet.assocId { session with tx := tx, lastUsed := now }).emit
          (.forward packet.assocId request), .ok ())
    | .error _ => (app.putUdpSession packet.assocId { session with lastUsed := now }, .ok ())

def handlePacket (app : App setting) (now : Nat) (data : List UInt8) (mode : UdpMode) :
    Result setting :=
  match parsePacket setting.core data with
  | .error reason => (app, .error reason)
  | .ok packet =>
      let pushed := app.packetAssembler.push packet now
      let app := { app with packetAssembler := pushed.1 }
      match pushed.2 with
      | .error reason => (app, .error reason)
      | .ok none => (app, .ok ())
      | .ok (some packet) =>
          match packet.target with
          | none => (app, .error (.message "tuic packet is missing target"))
          | some target => app.deliver packet target mode now

/-- Data on a stream that already has a relay. -/
def sendToRelay (app : App setting) (streamId : UInt64) (state : StreamState)
    (data : List UInt8) (fin : Bool) : Result setting :=
  let sent := if data = [] then .ok state.clientTx else state.clientTx.trySend data
  match sent with
  | .error reason =>
      let err := reason.text
      (app, .error (.message s!"tuic inbound stream receive backpressure: {err}"))
  | .ok clientTx =>
      if fin then ({ app with streams := app.streams.erase streamId }, .ok ())
      else (app.putStream streamId ⟨clientTx⟩, .ok ())

def connectStream (app : App setting) (streamId : UInt64) (target : TargetAddr)
    (initial : List UInt8) (fin : Bool) : App setting :=
  let session : Session := { inbound := setting.inbound, command := .connect, target := target }
  let app := if fin then app else app.putStream streamId ⟨.bounded channelCapacity⟩
  app.emit (.spawnRelay streamId session initial)

def parsePending (app : App setting) (streamId : UInt64) (pending : PendingStream) :
    Result setting :=
  match tryParseConnect setting.core pending.data with
  | .error reason => (app, .error reason)
  | .ok none =>
      if pending.fin then (app, .error (.message "truncated tuic connect header"))
      else ({ app with pendingStreams := app.pendingStreams.insert streamId pending }, .ok ())
  | .ok (some (target, consumed)) =>
      (app.connectStream streamId target (pending.data.drop consumed) pending.fin, .ok ())

/-- The bytes held back for a stream, with those that arrive now. -/
def extendPending (app : App setting) (streamId : UInt64) (data : List UInt8) (fin : Bool) :
    PendingStream :=
  let held := (app.pendingStreams.lookup streamId).getD ⟨[], false⟩
  ⟨held.data ++ data, held.fin || fin⟩

/-- Data on a stream without a relay: it belongs to the CONNECT header. -/
def openStream (app : App setting) (streamId : UInt64) (data : List UInt8) (fin : Bool) :
    Result setting :=
  let pending := app.extendPending streamId data fin
  let app := { app with pendingStreams := app.pendingStreams.erase streamId }
  (app.emit (.tryParseConnect streamId pending.data)).parsePending streamId pending

def bufferStream (app : App setting) (now : Nat) (streamId : UInt64) (data : List UInt8)
    (fin : Bool) : Result setting :=
  (app.reservePreAuth now data.length (newItems app.pendingStreams streamId)).andThen fun app =>
    let pending := app.extendPending streamId data fin
    ({ app with pendingStreams := app.pendingStreams.insert streamId pending }, .ok ())

def handleStreamData (app : App setting) (now : Nat) (streamId : UInt64) (data : List UInt8)
    (fin : Bool) : Result setting :=
  let app := app.emit (.received streamId fin)
  if app.authenticated = false then app.bufferStream now streamId data fin
  else
    match app.streams.lookup streamId with
    | some state => app.sendToRelay streamId state data fin
    | none => app.openStream streamId data fin

def queueDatagram (app : App setting) (now : Nat) (data : List UInt8) : Result setting :=
  (app.reservePreAuth now data.length 1).andThen fun app =>
    ({ app with pendingDatagrams := app.pendingDatagrams ++ [data] }, .ok ())

def handleDatagram (app : App setting) (now : Nat) (data : List UInt8) : Result setting :=
  Attempt.andThen (app, app.checkAuthenticationDeadline now) fun app =>
    match data[1]? with
    | none => (app, .error (.message "short tuic datagram"))
    | some code =>
        if code = setting.core.typeCodeHeartbeat then (app, .ok ())
        else if code = setting.core.typeCodePacket then
          if app.authenticated = false then app.queueDatagram now data
          else app.handlePacket now data .native
        else (app, .error (.message s!"unsupported tuic datagram command {code}"))

/-- `handle_unidirectional_command` on every command but AUTHENTICATE. -/
def dispatchCommand (app : App setting) (now : Nat) (command : QueuedCommand setting.core) :
    Result setting :=
  if command.code = setting.core.typeCodePacket then
    if app.authenticated = false then
      ({ app with pendingUniCommands := app.pendingUniCommands ++ [command] }, .ok ())
    else app.handlePacket now command.data .quic
  else if command.code = setting.core.typeCodeDissociate then
    if app.authenticated = false then
      ({ app with pendingUniCommands := app.pendingUniCommands ++ [command] }, .ok ())
    else
      match parseDissociate setting.core command.data with
      | .error reason => (app, .error reason)
      | .ok assocId => (app.endUdpSession assocId, .ok ())
  else
    let other := command.code
    (app, .error (.message s!"unsupported tuic unidirectional command {other}"))

/-- The user whose uuid and token an AUTHENTICATE command carries. -/
def verify (setting : Setting) (data : List UInt8) : Except Error TuicUser :=
  match parseAuthenticate setting.core data with
  | .error reason => .error reason
  | .ok (uuid, presented) =>
      match setting.users.find? fun user => user.uuid = uuid with
      | none =>
          let text := uuid.hyphenated
          .error (.message s!"tuic authentication: unknown uuid {text}")
      | some user =>
          match setting.exporter user.uuid user.password with
          | .error reason => .error reason
          | .ok expected =>
              if expected = presented then .ok user
              else .error (.message "tuic authentication: token mismatch")

/-- What a verified AUTHENTICATE command sets before the queues are replayed. -/
def admitUser (app : App setting) (user : TuicUser) : App setting :=
  { app with
    authenticated := true
    preAuthBytes := 0
    preAuthItems := 0
    username := some user.name }

def replayCommands (app : App setting) (now : Nat) : Result setting :=
  Attempt.forEach (fun app command => app.dispatchCommand now command)
    { app with pendingUniCommands := [] } app.pendingUniCommands

def replayDatagrams (app : App setting) (now : Nat) : Result setting :=
  Attempt.forEach (fun app datagram => app.handleDatagram now datagram)
    { app with pendingDatagrams := [] } app.pendingDatagrams

def replayStream (app : App setting) (now : Nat)
    (entry : Sigma fun _ : UInt64 => PendingStream) : Result setting :=
  if entry.2.data = [] then (app, .ok ())
  else app.handleStreamData now entry.1 entry.2.data entry.2.fin

def replayStreams (app : App setting) (now : Nat)
    (order : IterationOrder UInt64 PendingStream) : Result setting :=
  Attempt.forEach (fun app entry => app.replayStream now entry)
    { app with pendingStreams := ∅ } (order.arrange app.pendingStreams.entries)

def handleAuthData (app : App setting) (now : Nat)
    (order : IterationOrder UInt64 PendingStream) (data : List UInt8) : Result setting :=
  let app := app.emit (.authenticate now app.authenticationDeadline data)
  Attempt.andThen (app, app.checkAuthenticationDeadline now) fun app =>
    match verify setting data with
    | .error reason => (app, .error reason)
    | .ok user =>
        ((app.admitUser user).replayCommands now).andThen fun app =>
          (app.replayDatagrams now).andThen fun app => app.replayStreams now order

def handleUnidirectionalCommand (app : App setting) (now : Nat)
    (order : IterationOrder UInt64 PendingStream) (data : List UInt8) : Result setting :=
  if long : 2 ≤ data.length then
    if authenticates : data.get ⟨1, long⟩ = setting.core.typeCodeAuthenticate then
      app.handleAuthData now order data
    else app.dispatchCommand now ⟨data, long, authenticates⟩
  else (app, .error (.message "short tuic command"))

def authComplete (setting : Setting) (command : List UInt8) : Bool :=
  decide (authenticateLen ≤ command.length) &&
    decide (command[1]? = some setting.core.typeCodeAuthenticate)

/-- A stream in the `Receiving` state after its bytes have been extended. -/
def advanceUniStream (app : App setting) (now : Nat)
    (order : IterationOrder UInt64 PendingStream) (streamId : UInt64) (command : List UInt8)
    (fin : Bool) : Result setting :=
  let app := { app with uniStreams := app.uniStreams.insert streamId (.receiving command) }
  if authComplete setting command = true ∧ command.length ≠ authenticateLen then
    (app, .error (.message "unexpected data after tuic authentication"))
  else if fin = false ∧ authComplete setting command = false then (app, .ok ())
  else
    let app :=
      if fin then { app with uniStreams := app.uniStreams.erase streamId }
      else { app with uniStreams :=
              (app.uniStreams.erase streamId).insert streamId .authenticated }
    app.handleUnidirectionalCommand now order command

def handleUnidirectionalStream (app : App setting) (now : Nat)
    (order : IterationOrder UInt64 PendingStream) (streamId : UInt64) (data : List UInt8)
    (fin : Bool) : Result setting :=
  (app.reservePreAuth now data.length (newItems app.uniStreams streamId)).andThen fun app =>
    match (app.uniStreams.lookup streamId).getD (.receiving []) with
    | .authenticated =>
        if data ≠ [] then
          (app, .error (.message "unexpected data after tuic authentication"))
        else if fin then ({ app with uniStreams := app.uniStreams.erase streamId }, .ok ())
        else (app, .ok ())
    | .receiving command => app.advanceUniStream now order streamId (command ++ data) fin

def evictIdleUdpSessions (app : App setting) (now : Nat) : App setting :=
  { app with udpSessions := app.udpSessions.retain fun _ session =>
      now - session.lastUsed < udpSessionIdleTimeout }

def maybeCleanupUdpState (app : App setting) (now : Nat) : App setting :=
  if now < app.nextUdpCleanup then app
  else
    let app := app.evictIdleUdpSessions now
    { app with
      packetAssembler := app.packetAssembler.evictIdle now fragmentIdleTimeout
      nextUdpCleanup := now + udpSessionCleanupInterval }

def modifyUdpSession (app : App setting) (assocId : UInt16)
    (update : UdpSession → UdpSession) : App setting :=
  match app.udpSessions.lookup assocId with
  | none => app
  | some session => app.putUdpSession assocId (update session)

def touchUdpSession (app : App setting) (assocId : Option UInt16) (now : Nat) : App setting :=
  match assocId with
  | none => app
  | some assocId => app.modifyUdpSession assocId fun session => { session with lastUsed := now }

/-- What the QUIC library answers to one send. -/
inductive SendAnswer where
  | sent (count : Nat)
  | done
  | bufferTooShort (maxWritableLen : Nat)
  | failed (text : String)
deriving DecidableEq

/-- How the write loop goes on after one write. -/
inductive Flow where
  | proceed
  | pause
  | fail (reason : Error)
deriving DecidableEq

def SendAnswer.failure : SendAnswer → Error
  | .bufferTooShort _ => .message "BufferTooShort"
  | .failed text => .message text
  | .done => .message "Done"
  | .sent _ => .message ""

def requeue (app : App setting) (write : QuicWrite) : App setting :=
  { app with pendingWrites := write :: app.pendingWrites }

/-- Put the fragments of a datagram in front of the queue, the last one first. -/
def requeueFragments (app : App setting) (assocId : Option UInt16) :
    List Packet → App setting × Flow
  | [] => (app, .proceed)
  | fragment :: rest =>
      match encodePacket setting.core fragment with
      | .error reason => (app, .fail reason)
      | .ok data => requeueFragments (app.requeue (.datagram assocId data)) assocId rest

def writeData (app : App setting) (streamId : UInt64) (data : List UInt8) (fin : Bool) :
    SendAnswer → App setting × Flow
  | .sent count =>
      if count = data.length then (app, .proceed)
      else (app.requeue (.data streamId (data.drop count) fin), .pause)
  | .done =>
      if fin = true ∧ data = [] then (app, .proceed)
      else (app.requeue (.data streamId data fin), .pause)
  | answer => (app, .fail answer.failure)

def writeDatagram (app : App setting) (now : Nat) (assocId : Option UInt16)
    (data : List UInt8) (answer : SendAnswer) : App setting × Flow :=
  let app := app.touchUdpSession assocId now
  match answer with
  | .sent _ => (app, .proceed)
  | .done => (app.requeue (.datagram assocId data), .pause)
  | .bufferTooShort maxWritableLen =>
      match parsePacket setting.core data with
      | .error _ => (app, .proceed)
      | .ok packet =>
          match fragmentPacket setting.core packet maxWritableLen with
          | .error _ => (app, .proceed)
          | .ok fragments => app.requeueFragments assocId fragments.reverse
  | .failed text => (app, .fail (.message text))

def writeUniStream (app : App setting) (now : Nat) (assocId : Option UInt16)
    (streamId : Option UInt64) (data : List UInt8) (answer : SendAnswer) : App setting × Flow :=
  let app := app.touchUdpSession assocId now
  let id := streamId.getD app.nextUniStreamId
  let app :=
    if streamId.isSome then app else { app with nextUniStreamId := app.nextUniStreamId + 4 }
  match answer with
  | .sent count =>
      if count = data.length then (app, .proceed)
      else (app.requeue (.uniStream assocId (some id) (data.drop count)), .pause)
  | .done => (app.requeue (.uniStream assocId (some id) data), .pause)
  | answer => (app, .fail answer.failure)

/-- Whatever the QUIC library answers to the final send, the stream is forgotten. -/
def writeClose (app : App setting) (streamId : UInt64) : App setting × Flow :=
  ({ app with streams := app.streams.erase streamId }.emit (.closed streamId), .proceed)

def performWrite (app : App setting) (now : Nat) (write : QuicWrite) (answer : SendAnswer) :
    App setting × Flow :=
  match write with
  | .data streamId data fin => app.writeData streamId data fin answer
  | .datagram assocId data => app.writeDatagram now assocId data answer
  | .uniStream assocId streamId data => app.writeUniStream now assocId streamId data answer
  | .close streamId => app.writeClose streamId

/-- The write loop, one answer of the QUIC library for each send.  Answers may
run out only in a run that is cut short, which leaves the queue as it is then. -/
def writeLoop (app : App setting) (now : Nat) : List SendAnswer → Result setting
  | [] => (app, .ok ())
  | answer :: answers =>
      match app.pendingWrites with
      | [] => (app, .ok ())
      | write :: rest =>
          match { app with pendingWrites := rest }.performWrite now write answer with
          | (app, .proceed) => writeLoop app now answers
          | (app, .pause) => (app, .ok ())
          | (app, .fail reason) => (app, .error reason)

/-- Take over what the tasks have sent; `late` arrives while the queue is drained. -/
def drainOutbound (app : App setting) (late : List QuicWrite) : App setting :=
  { app with
    pendingWrites := app.pendingWrites ++ app.outbound.queue ++ late
    outbound := .bounded app.outbound.capacity }

def processWrites (app : App setting) (now : Nat) (late : List QuicWrite)
    (answers : List SendAnswer) : Result setting :=
  Attempt.andThen (app, app.checkAuthenticationDeadline now) fun app =>
    ((app.maybeCleanupUdpState now).drainOutbound late).writeLoop now answers

def onConnEstablished (app : App setting) (now : Nat) : App setting :=
  { app with authenticationDeadline := now + authenticationTimeout }

/-- What `wait_for_data` received from the tasks before its timer, if anything. -/
def receiveOutbound (app : App setting) : App setting :=
  match app.outbound.queue with
  | [] => app
  | write :: _ =>
      { app with
        pendingWrites := app.pendingWrites ++ [write]
        outbound := app.outbound.recv }

def waitForData (app : App setting) (now later : Nat) (woken : Bool) : Result setting :=
  Attempt.andThen (app, app.checkAuthenticationDeadline now) fun app =>
    let app := app.maybeCleanupUdpState now
    let app := if app.pendingWrites = [] ∧ woken = true then app.receiveOutbound else app
    (app, app.checkAuthenticationDeadline later)

/-- The part of `process_reads` before its loops. -/
def beginReads (app : App setting) (now : Nat) : Result setting :=
  Attempt.andThen (app, app.checkAuthenticationDeadline now) fun app =>
    (app.maybeCleanupUdpState now, .ok ())

/-- A task sends a write; with a full queue it waits, and nothing changes yet. -/
def enqueue (app : App setting) (write : QuicWrite) : App setting :=
  match app.outbound.trySend write with
  | .ok outbound => { app with outbound := outbound }
  | .error _ => app

def updateStream (app : App setting) (streamId : UInt64)
    (update : Channel (List UInt8) → Channel (List UInt8)) : App setting :=
  match app.streams.lookup streamId with
  | none => app
  | some state => app.putStream streamId ⟨update state.clientTx⟩

def updateUdpSession (app : App setting) (assocId : UInt16)
    (update : Channel UdpRequest → Channel UdpRequest) : App setting :=
  app.modifyUdpSession assocId fun session => { session with tx := update session.tx }

end App

/-- Everything that can happen to a connection: the callbacks, the handlers that
`process_reads` calls in its loops, and the steps of the relay tasks. -/
inductive Event where
  | established (now : Nat)
  | beginReads (now : Nat)
  | uniStream (now : Nat) (order : IterationOrder UInt64 PendingStream) (streamId : UInt64)
      (data : List UInt8) (fin : Bool)
  | streamData (now : Nat) (streamId : UInt64) (data : List UInt8) (fin : Bool)
  | datagram (now : Nat) (data : List UInt8)
  | processWrites (now : Nat) (late : List QuicWrite) (answers : List App.SendAnswer)
  | waitForData (now later : Nat) (woken : Bool)
  | enqueue (write : QuicWrite)
  | relayReceives (streamId : UInt64)
  | relayEnds (streamId : UInt64)
  | udpRelayReceives (assocId : UInt16)
  | udpRelayEnds (assocId : UInt16)

namespace App

variable {setting : Setting}

def step (app : App setting) : Event → Result setting
  | .established now => (app.onConnEstablished now, .ok ())
  | .beginReads now => app.beginReads now
  | .uniStream now order streamId data fin =>
      app.handleUnidirectionalStream now order streamId data fin
  | .streamData now streamId data fin => app.handleStreamData now streamId data fin
  | .datagram now data => app.handleDatagram now data
  | .processWrites now late answers => app.processWrites now late answers
  | .waitForData now later woken => app.waitForData now later woken
  | .enqueue write => (app.enqueue write, .ok ())
  | .relayReceives streamId => (app.updateStream streamId Channel.recv, .ok ())
  | .relayEnds streamId => (app.updateStream streamId Channel.dropReceiver, .ok ())
  | .udpRelayReceives assocId => (app.updateUdpSession assocId Channel.recv, .ok ())
  | .udpRelayEnds assocId => (app.updateUdpSession assocId Channel.dropReceiver, .ok ())

end App

/-- On an authenticated connection, data goes to the stream's relay or opens it. -/
theorem App.handleStreamData_of_inside {setting : Setting} {app : App setting}
    (inside : app.authenticated = true) (now : Nat) (streamId : UInt64) (data : List UInt8)
    (fin : Bool) :
    app.handleStreamData now streamId data fin =
      match app.streams.lookup streamId with
      | some state => (app.emit (.received streamId fin)).sendToRelay streamId state data fin
      | none => (app.emit (.received streamId fin)).openStream streamId data fin :=
  if_neg (by simp [App.emit, inside])

def appMachine (setting : Setting) : Machine (App setting) Event (Except Error Unit) :=
  ⟨App.step⟩

end Rtunnel.Tuic.Inbound
