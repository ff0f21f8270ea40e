import Rtunnel.Anytls.Codec
import Rtunnel.Data.Machine

namespace Rtunnel.Anytls.Inbound

open Rtunnel.Data

/-! Clients that do not authenticate.

The inbound reads the hash of a password off the front of the stream.  When no
user has it, the connection goes to the fallback, which must see the stream from
its first byte: the bytes that were inspected are written to the fallback target,
or put in front of what the HTTP service reads.
-/

def passwordHashLen : Nat := 32

structure UserConfig where
  username : String
  password : String

/-- The inbound as far as a client's first bytes matter; SHA-256 is a parameter. -/
structure Gate where
  passwordHash : String → Octets passwordHashLen
  users : List UserConfig
  fallback : Option TargetAddr

inductive ClientHelloAuth where
  | authenticated (username : String)
  | rejected (presented : Octets passwordHashLen)

/-- Fill a buffer from the stream, which may end before that. -/
def fillBuffer (ended : Failure) (width : Nat) (input : List UInt8) :
    Except Failure (Octets width × List UInt8) :=
  match readExact width input with
  | some found => .ok found
  | none => .error ended

namespace Gate

/-- The padding of an authenticated client is skipped. -/
def readClientHelloOrFallback (gate : Gate) (input : List UInt8) :
    Except Failure (ClientHelloAuth × List UInt8) := do
  let (presented, rest) ← fillBuffer earlyEof passwordHashLen input
  match gate.users.find? fun user => gate.passwordHash user.password = presented with
  | none => return (.rejected presented, rest)
  | some user =>
      let (paddingLen, rest) ← fillBuffer endOfFile 2 rest
      let (_, rest) ← fillBuffer earlyEof paddingLen.toNat rest
      return (.authenticated user.username, rest)

end Gate

/-- A read of at most `remaining` bytes, when the client's stream hands out at
most `granted`; while it has nothing to hand out it grants none. -/
structure ReadPoll where
  remaining : Nat
  granted : Nat
deriving DecidableEq

def ReadPoll.Productive (poll : ReadPoll) : Prop := 0 < poll.remaining ∧ 0 < poll.granted

/-- The inspected bytes in front of the rest of the stream. -/
structure PrefixedIo where
  inspected : List UInt8
  position : Nat
  inner : List UInt8

namespace PrefixedIo

def new (inspected inner : List UInt8) : PrefixedIo := ⟨inspected, 0, inner⟩

def pollRead (io : PrefixedIo) (poll : ReadPoll) : PrefixedIo × List UInt8 :=
  if io.position < io.inspected.length then
    let len := min poll.remaining (io.inspected.length - io.position)
    ({ io with position := io.position + len }, (io.inspected.drop io.position).take len)
  else
    let len := min poll.remaining poll.granted
    ({ io with inner := io.inner.drop len }, io.inner.take len)

def unread (io : PrefixedIo) : List UInt8 := io.inspected.drop io.position ++ io.inner

theorem pollRead_unread (io : PrefixedIo) (poll : ReadPoll) :
    (io.pollRead poll).2 ++ (io.pollRead poll).1.unread = io.unread := by
  unfold pollRead
  split
  · simp only [unread]
    rw [← List.drop_drop, ← List.append_assoc, List.take_append_drop]
  · rename_i passed
    have empty : io.inspected.drop io.position = [] :=
      List.drop_eq_nil_of_le (Nat.le_of_not_lt passed)
    simp only [unread, empty, List.nil_append, List.take_append_drop]

/-- A productive read takes a byte if one is left. -/
theorem pollRead_progress (io : PrefixedIo) {poll : ReadPoll} (productive : poll.Productive) :
    (io.pollRead poll).1.unread.length ≤ io.unread.length - 1 := by
  obtain ⟨room, granted⟩ := productive
  unfold pollRead
  split
  · simp only [unread, List.length_append, List.length_drop]
    omega
  · simp only [unread, List.length_append, List.length_drop]
    omega

end PrefixedIo

/-- The other side of a connection that was turned away: the target with what
was written to it, or the HTTP service with what it has read. -/
inductive Fallback where
  | target (written inner : List UInt8)
  | http (io : PrefixedIo) (read : List UInt8)

namespace Fallback

def received : Fallback → List UInt8
  | .target written _ => written
  | .http _ read => read

def unread : Fallback → List UInt8
  | .target _ inner => inner
  | .http io _ => io.unread

/-- The relay to the target copies what it reads. -/
def step (side : Fallback) (poll : ReadPoll) : Fallback :=
  match side with
  | .target written inner =>
      let len := min poll.remaining poll.granted
      .target (written ++ inner.take len) (inner.drop len)
  | .http io read => .http (io.pollRead poll).1 (read ++ (io.pollRead poll).2)

end Fallback

def fallbackMachine : Machine Fallback ReadPoll Unit := ⟨fun side poll => (side.step poll, ())⟩

/-- The connection to the fallback target and the write of the inspected bytes. -/
structure FallbackAnswers where
  connect : Except Failure Unit
  write : Except Failure Unit

def FallbackAnswers.fine : FallbackAnswers := ⟨.ok (), .ok ()⟩

inductive Service where
  | session (username : String) (rest : List UInt8)
  | fallback (side : Fallback)

namespace Gate

def serveFallback (gate : Gate) (answers : FallbackAnswers) (inspected rest : List UInt8) :
    Except Failure Fallback :=
  match gate.fallback with
  | none => .ok (.http (.new inspected rest) [])
  | some _ =>
      match answers.connect, answers.write with
      | .error reason, _ => .error reason
      | .ok (), .error reason => .error reason
      | .ok (), .ok () => .ok (.target inspected rest)

def serve (gate : Gate) (answers : FallbackAnswers) (input : List UInt8) :
    Except Failure Service :=
  match gate.readClientHelloOrFallback input with
  | .error reason => .error reason
  | .ok (.authenticated username, rest) => .ok (.session username rest)
  | .ok (.rejected presented, rest) =>
      match gate.serveFallback answers presented.bytes rest with
      | .error reason => .error reason
      | .ok side => .ok (.fallback side)

end Gate

namespace Fallback

theorem step_received (side : Fallback) (poll : ReadPoll) :
    (side.step poll).received ++ (side.step poll).unread = side.received ++ side.unread := by
  cases side with
  | target written inner =>
      simp only [step, received, unread, List.append_assoc, List.take_append_drop]
  | http io read =>
      simp only [step, received, unread, List.append_assoc, io.pollRead_unread]

theorem step_progress (side : Fallback) {poll : ReadPoll} (productive : poll.Productive) :
    (side.step poll).unread.length ≤ side.unread.length - 1 := by
  cases side with
  | target written inner =>
      obtain ⟨room, granted⟩ := productive
      simp only [step, unread, List.length_drop]
      omega
  | http io read => exact io.pollRead_progress productive

/-- Nothing is lost or repeated, whatever the sizes of the reads. -/
theorem run_received (side : Fallback) (polls : List ReadPoll) :
    (fallbackMachine.run side polls).received ++ (fallbackMachine.run side polls).unread =
      side.received ++ side.unread := by
  induction polls generalizing side with
  | nil => rfl
  | cons poll polls ih => exact (ih (side.step poll)).trans (side.step_received poll)

theorem run_progress (side : Fallback) {polls : List ReadPoll}
    (productive : ∀ poll ∈ polls, poll.Productive) :
    (fallbackMachine.run side polls).unread.length ≤ side.unread.length - polls.length := by
  induction polls generalizing side with
  | nil => exact Nat.le_refl _
  | cons poll polls ih =>
      have first := side.step_progress (productive poll List.mem_cons_self)
      have later := ih (side.step poll) fun other member =>
        productive other (List.mem_cons_of_mem _ member)
      have next : fallbackMachine.next side poll = side.step poll := rfl
      rw [Machine.run_cons, next, List.length_cons]
      omega

/-- The fallback side sees the stream from its first byte: at any time what it
has received and what is still to come make up the stream, and enough reads
bring it all. -/
def Sees (side : Fallback) (input : List UInt8) : Prop :=
  ∀ polls : List ReadPoll,
    (fallbackMachine.run side polls).received ++ (fallbackMachine.run side polls).unread =
      input ∧
    ((∀ poll ∈ polls, poll.Productive) → input.length ≤ polls.length →
      (fallbackMachine.run side polls).received = input)

theorem sees (side : Fallback) : side.Sees (side.received ++ side.unread) := by
  intro polls
  have whole := side.run_received polls
  refine ⟨whole, fun productive enough => ?_⟩
  have progress := side.run_progress productive
  rw [List.length_append] at enough
  have drained : (fallbackMachine.run side polls).unread = [] :=
    List.eq_nil_of_length_eq_zero (by omega)
  rw [drained, List.append_nil] at whole
  exact whole

end Fallback

namespace Gate

/-- Too short a stream ends the connection before any fallback is chosen. -/
theorem serve_short (gate : Gate) (answers : FallbackAnswers) {input : List UInt8}
    (short : input.length < passwordHashLen) : gate.serve answers input = .error earlyEof := by
  have missing : fillBuffer earlyEof passwordHashLen input = .error earlyEof := by
    simp [fillBuffer, readExact, Nat.not_le.mpr short]
  simp [serve, readClientHelloOrFallback, missing, bind, Except.bind]

/-- A stream of enough bytes that starts with no user's hash is turned away. -/
theorem serve_stranger (gate : Gate) {input : List UInt8}
    (enough : passwordHashLen ≤ input.length)
    (stranger : ∀ user ∈ gate.users, ¬ (gate.passwordHash user.password).bytes <+: input) :
    ∃ side : Fallback, gate.serve .fine input = .ok (.fallback side) ∧
      side.received ++ side.unread = input := by
  let presented : Octets passwordHashLen := ⟨input.take passwordHashLen, by simp [enough]⟩
  have read : fillBuffer earlyEof passwordHashLen input =
      .ok (presented, input.drop passwordHashLen) := by
    simp [fillBuffer, readExact, enough, presented]
  have unknown : gate.users.find? (fun user => gate.passwordHash user.password = presented) =
      none := by
    rw [List.find?_eq_none]
    intro user member same
    simp only [decide_eq_true_eq] at same
    apply stranger user member
    rw [same]
    exact List.take_prefix _ _
  have rejected : gate.readClientHelloOrFallback input =
      .ok (.rejected presented, input.drop passwordHashLen) := by
    simp [readClientHelloOrFallback, read, unknown, bind, Except.bind, pure, Except.pure]
  have joined : presented.bytes ++ input.drop passwordHashLen = input :=
    List.take_append_drop passwordHashLen input
  cases target : gate.fallback with
  | none =>
      refine ⟨.http (.new presented.bytes (input.drop passwordHashLen)) [], ?_, joined⟩
      simp [serve, rejected, serveFallback, target]
  | some address =>
      refine ⟨.target presented.bytes (input.drop passwordHashLen), ?_, joined⟩
      simp [serve, rejected, serveFallback, target, FallbackAnswers.fine]

end Gate

/-- The fallback sees the stream of a client that is no user exactly if the
stream is as long as a hash. -/
theorem fallback_sees_stream_iff (gate : Gate) {input : List UInt8}
    (stranger : ∀ user ∈ gate.users, ¬ (gate.passwordHash user.password).bytes <+: input) :
    (∃ side : Fallback, gate.serve .fine input = .ok (.fallback side) ∧ side.Sees input) ↔
      passwordHashLen ≤ input.length := by
  constructor
  · rintro ⟨side, served, _⟩
    apply Nat.le_of_not_lt
    intro short
    rw [gate.serve_short .fine short] at served
    cases served
  · intro enough
    obtain ⟨side, served, whole⟩ := gate.serve_stranger enough stranger
    exact ⟨side, served, whole ▸ side.sees⟩

/-- One user; every password has the same hash. -/
def sampleGate : Gate where
  passwordHash := fun _ => ⟨List.replicate 32 170, rfl⟩
  users := [⟨"alice", "secret"⟩]
  fallback := some (.ip (.v4 loopback 8080))

theorem long_stranger_reaches_fallback :
    ∃ side : Fallback,
      sampleGate.serve .fine (List.replicate 40 65) = .ok (.fallback side) ∧
        side.Sees (List.replicate 40 65) := by
  have stranger : ∀ user ∈ sampleGate.users,
      ¬ (sampleGate.passwordHash user.password).bytes <+: List.replicate 40 65 := by
    intro user _
    have different : ¬ List.replicate 32 (170 : UInt8) <+: List.replicate 40 65 := by decide
    exact different
  exact (fallback_sees_stream_iff sampleGate stranger).mpr (by decide)

/-- A client sends a short request and closes its side: no fallback sees it. -/
theorem short_stranger_is_dropped :
    let request := utf8Bytes "GET / HTTP/1.0\r\n\r\n"
    (¬ List.replicate 32 (170 : UInt8) <+: request) ∧
      sampleGate.serve .fine request = .error earlyEof :=
  ⟨by decide +kernel, sampleGate.serve_short .fine (by decide +kernel)⟩

end Rtunnel.Anytls.Inbound
