import Mathlib.Data.Finset.Erase
import Mathlib.Data.Finset.Insert
import Rtunnel.Anytls.Codec
import Rtunnel.Data.Attempt
import Rtunnel.Data.KeyedMap
import Rtunnel.Data.Machine

namespace Rtunnel.Anytls.Inbound

open Rtunnel.Data

/-! The AnyTLS inbound: the frame loop of one authenticated session.

The loop reads a frame at a time.  What the rest of the program answers while a
frame is handled comes with the frame: the TLS writes, the dial and the write to
the outbound may each fail.  The tasks that carry replies back only write to the
client and leave the state of the loop alone.
-/

/-- What a session never changes: the inbound's tag and its padding scheme. -/
structure Config where
  tag : String
  serverPaddingMd5 : String
  serverPaddingScheme : List UInt8

inductive InboundStream where
  | tcp
  | udp
deriving DecidableEq

inductive Effect where
  | received (frame : Frame)
  | reply (frame : Frame)
  | decode (streamId : UInt32) (data : List UInt8)
  | dial (streamId : UInt32) (session : Session)
  | outboundWrite (streamId : UInt32) (data : List UInt8)
  | spawnOutboundReader (streamId : UInt32)
  | uotSend (streamId : UInt32) (data : List UInt8)
  | spawnUotReader (streamId : UInt32)
deriving DecidableEq

structure SessionLoop where
  streams : KeyedMap UInt32 InboundStream
  synackedStreams : Finset UInt32
  settingsSeen : Bool
  clientV2 : Bool
  ended : Bool
  trace : List Effect

/-- The answers of the environment to one frame; no frame needs more than two
TLS writes. -/
structure Answers where
  reply : Except Failure Unit
  secondReply : Except Failure Unit
  dial : Except Failure Unit
  write : Except Failure Unit
deriving DecidableEq

def Answers.fine : Answers := ⟨.ok (), .ok (), .ok (), .ok ()⟩

abbrev Outcome := Attempt SessionLoop Failure

namespace SessionLoop

def new : SessionLoop where
  streams := ∅
  synackedStreams := ∅
  settingsSeen := false
  clientV2 := false
  ended := false
  trace := []

def emit (loop : SessionLoop) (effect : Effect) : SessionLoop :=
  { loop with trace := loop.trace ++ [effect] }

def putStream (loop : SessionLoop) (streamId : UInt32) (stream : InboundStream) : SessionLoop :=
  { loop with streams := loop.streams.insert streamId stream }

def removeStream (loop : SessionLoop) (streamId : UInt32) : SessionLoop :=
  { loop with streams := loop.streams.erase streamId }

def writeFrame (loop : SessionLoop) (answer : Except Failure Unit) (command : FrameCommand)
    (streamId : UInt32) (data : List UInt8) : Outcome :=
  if fits : data.length ≤ u16Max then
    match answer with
    | .ok () => (loop.emit (.reply ⟨command, streamId, data, fits⟩), .ok ())
    | .error reason => (loop, .error reason)
  else (loop, .error "anytls frame is too large")

def writeAlert (loop : SessionLoop) (answer : Except Failure Unit) (message : String) : Outcome :=
  loop.writeFrame answer .alert 0 (utf8Bytes message)

/-- A FIN tells the client that its stream is gone. -/
def writeFin (loop : SessionLoop) (answers : Answers) (streamId : UInt32) : Outcome :=
  loop.writeFrame answers.reply .fin streamId []

/-- Every stream of a version 2 client is acknowledged once. -/
def acknowledge (loop : SessionLoop) (answers : Answers) (streamId : UInt32) : Outcome :=
  if loop.clientV2 = true ∧ streamId ∉ loop.synackedStreams then
    { loop with synackedStreams := insert streamId loop.synackedStreams }.writeFrame
      answers.reply .synack streamId []
  else (loop, .ok ())

def noteSettings (loop : SessionLoop) (data : List UInt8) : SessionLoop :=
  { loop with
    settingsSeen := true
    clientV2 := (settingsVersion data).any fun version => decide (2 ≤ version) }

def handleSettings (config : Config) (loop : SessionLoop) (answers : Answers) (frame : Frame) :
    Outcome :=
  let loop := loop.noteSettings frame.data
  let greeted :=
    if loop.clientV2 then loop.writeFrame answers.reply .serverSettings 0 serverSettings
    else (loop, .ok ())
  greeted.andThen fun loop =>
    if settingsValue frame.data "padding-md5" ≠ some (utf8Bytes config.serverPaddingMd5) then
      loop.writeFrame answers.secondReply .updatePaddingScheme 0 config.serverPaddingScheme
    else (loop, .ok ())

def handleSyn (loop : SessionLoop) (answers : Answers) (frame : Frame) : Outcome :=
  if loop.settingsSeen = false then
    (loop.writeAlert answers.reply "cmdSettings is required before cmdSYN").andThen fun loop =>
      (loop, .error "anytls stream opened before settings")
  else loop.acknowledge answers frame.streamId

/-- Data on a stream that is open. -/
def writePayload (loop : SessionLoop) (answers : Answers) (stream : InboundStream)
    (frame : Frame) : Outcome :=
  match stream with
  | .udp => (loop.emit (.uotSend frame.streamId frame.data), .ok ())
  | .tcp =>
      match answers.write with
      | .ok () => (loop.emit (.outboundWrite frame.streamId frame.data), .ok ())
      | .error _ => (loop.removeStream frame.streamId).writeFin answers frame.streamId

def openUot (loop : SessionLoop) (answers : Answers) (streamId : UInt32)
    (initial : List UInt8) : Outcome :=
  let loop := if initial = [] then loop else loop.emit (.uotSend streamId initial)
  ((loop.putStream streamId .udp).acknowledge answers streamId).andThen fun loop =>
    (loop.emit (.spawnUotReader streamId), .ok ())

/-- The outbound is connected and has taken the bytes behind the target. -/
def establish (loop : SessionLoop) (answers : Answers) (streamId : UInt32) : Outcome :=
  ((loop.putStream streamId .tcp).acknowledge answers streamId).andThen fun loop =>
    (loop.emit (.spawnOutboundReader streamId), .ok ())

def openTcp (config : Config) (loop : SessionLoop) (answers : Answers) (streamId : UInt32)
    (target : TargetAddr) (initial : List UInt8) : Outcome :=
  let session : Session := { inbound := config.tag, command := .connect, target := target }
  let loop := loop.emit (.dial streamId session)
  match answers.dial with
  | .error _ => loop.writeFin answers streamId
  | .ok () =>
      if initial = [] then loop.establish answers streamId
      else
        match answers.write with
        | .error _ => loop.writeFin answers streamId
        | .ok () => (loop.emit (.outboundWrite streamId initial)).establish answers streamId

def readTarget (config : Config) (loop : SessionLoop) (answers : Answers) (frame : Frame) :
    Outcome :=
  match decodeSocksaddr frame.data with
  | .error _ => loop.writeFin answers frame.streamId
  | .ok (target, consumed) =>
      let initial := frame.data.drop consumed
      if isUotV2MagicTarget target then loop.openUot answers frame.streamId initial
      else openTcp config loop answers frame.streamId target initial

/-- Data on a stream that is not open: it starts with the target. -/
def openStream (config : Config) (loop : SessionLoop) (answers : Answers) (frame : Frame) :
    Outcome :=
  readTarget config (loop.emit (.decode frame.streamId frame.data)) answers frame

def handlePsh (config : Config) (loop : SessionLoop) (answers : Answers) (frame : Frame) :
    Outcome :=
  if loop.settingsSeen = false then
    (loop.writeAlert answers.reply "cmdSettings is required before cmdPSH").andThen fun loop =>
      (loop, .error "anytls data sent before settings")
  else
    match loop.streams.lookup frame.streamId with
    | some stream => loop.writePayload answers stream frame
    | none => openStream config loop answers frame

def handleFin (loop : SessionLoop) (frame : Frame) : Outcome :=
  ({ loop.removeStream frame.streamId with
    synackedStreams := loop.synackedStreams.erase frame.streamId }, .ok ())

def handleFrame (config : Config) (loop : SessionLoop) (answers : Answers) (frame : Frame) :
    Outcome :=
  let loop := loop.emit (.received frame)
  match frame.command with
  | .settings => handleSettings config loop answers frame
  | .syn => loop.handleSyn answers frame
  | .psh => handlePsh config loop answers frame
  | .fin => loop.handleFin frame
  | .waste => (loop, .ok ())
  | .heartRequest => loop.writeFrame answers.reply .heartResponse frame.streamId []
  | _ => (loop, .ok ())

/-- A failure ends the loop. -/
def conclude (outcome : Outcome) : Outcome :=
  match outcome with
  | (loop, .ok ()) => (loop, .ok ())
  | (loop, .error reason) => ({ loop with ended := true }, .error reason)

end SessionLoop

inductive Event where
  | frame (frame : Frame) (answers : Answers)
  | readFails (reason : Failure)
deriving DecidableEq

/-- Once the loop has ended, nothing is read any more. -/
def SessionLoop.step (config : Config) (loop : SessionLoop) (event : Event) : Outcome :=
  if loop.ended then (loop, .ok ())
  else
    match event with
    | .readFails reason => conclude (loop, .error reason)
    | .frame frame answers => conclude (loop.handleFrame config answers frame)

def sessionMachine (config : Config) : Machine SessionLoop Event (Except Failure Unit) :=
  ⟨SessionLoop.step config⟩

namespace SessionLoop

theorem conclude_trace (outcome : Outcome) :
    (conclude outcome).1.trace = outcome.1.trace := by
  obtain ⟨loop, reason | done⟩ := outcome <;> rfl

theorem conclude_settingsSeen (outcome : Outcome) :
    (conclude outcome).1.settingsSeen = outcome.1.settingsSeen := by
  obtain ⟨loop, reason | done⟩ := outcome <;> rfl

variable (config : Config) {loop : SessionLoop}

theorem next_of_ended (ended : loop.ended = true) (event : Event) :
    (sessionMachine config).next loop event = loop := by
  simp only [Machine.next, sessionMachine, step, ended, if_true]

theorem run_of_ended (ended : loop.ended = true) (events : List Event) :
    (sessionMachine config).run loop events = loop := by
  have keeps : ∀ state event, state = loop → (sessionMachine config).next state event = loop := by
    rintro state event rfl
    exact next_of_ended config ended event
  exact (sessionMachine config).run_invariant keeps rfl events

theorem next_readFails (running : loop.ended = false) (reason : Failure) :
    (sessionMachine config).next loop (.readFails reason) = { loop with ended := true } := by
  simp [Machine.next, sessionMachine, step, running, conclude]

theorem next_frame (running : loop.ended = false) (read : Frame) (answers : Answers) :
    (sessionMachine config).next loop (.frame read answers) =
      (conclude (loop.handleFrame config answers read)).1 := by
  simp [Machine.next, sessionMachine, step, running]

theorem handleFrame_settings {read : Frame} (settings : read.command = .settings)
    (answers : Answers) :
    loop.handleFrame config answers read =
      (loop.emit (.received read)).handleSettings config answers read := by
  simp only [handleFrame, settings]

end SessionLoop

end Rtunnel.Anytls.Inbound
