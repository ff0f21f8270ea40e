import Rtunnel.Data.KeyedMap
import Rtunnel.Data.Machine
import Rtunnel.Data.Mailbox
import Rtunnel.Session

namespace Rtunnel.Anytls.Outbound

open Rtunnel.Data

/-! The datagrams of a client that go over AnyTLS streams.

A UDP session keeps one stream per target, each with a task that relays what
comes out of the stream's channel.  `send_to` finds or starts the stream of its
target and waits for room in its channel; when the task has gone it forgets the
stream and tries once more.  Streams that were idle for five minutes are evicted
from the map, by every `send_to` and by a cleaner.  An event is one access; any
number of calls may be under way.  A datagram is named by its call.
-/

def udpStreamIdleTimeout : Nat := 5 * 60 * 1000

def udpChannelCapacity : Nat := 128

/-- A stream that was started: its channel and when it was used last. -/
structure UdpStream where
  target : TargetAddr
  mailbox : Mailbox Nat
  lastUsed : Nat

/-- Where a call of `send_to` is.  `earlier` is the stream that refused the first
attempt. -/
inductive SendStage where
  | acquiring (earlier : Option Nat)
  | holding (earlier : Option Nat) (stream : Nat)
  | waiting (earlier : Option Nat) (stream : Nat)
  | removing (stream : Nat)
  | returnedOk (stream : Nat)
  | returnedErr (first second : Nat)
deriving DecidableEq

namespace SendStage

/-- The call holds a sender of the stream's channel. -/
def holds (stream : Nat) : SendStage → Bool
  | .holding _ other => decide (other = stream)
  | .waiting _ other => decide (other = stream)
  | _ => false

/-- The channel is closed: the first time the call tries again. -/
def refused (earlier : Option Nat) (stream : Nat) : SendStage :=
  match earlier with
  | none => .removing stream
  | some first => .returnedErr first stream

end SendStage

structure SendCall where
  target : TargetAddr
  payload : List UInt8
  stage : SendStage

/-- Streams are known by their place in `spawned`, calls by theirs in `calls`. -/
structure UdpSession where
  streams : KeyedMap TargetAddr Nat
  spawned : List UdpStream
  calls : List SendCall

inductive UdpSessionEvent where
  | sendTo (target : TargetAddr) (payload : List UInt8)
  | advance (call : Nat) (now : Nat)
  | recv (stream : Nat) (now : Nat)
  | respond (stream : Nat) (now : Nat)
  | taskEnds (stream : Nat)
  | cleanup (now : Nat)
deriving DecidableEq

namespace UdpSession

def new : UdpSession := ⟨∅, [], []⟩

def putStream (session : UdpSession) (index : Nat) (stream : UdpStream) : UdpSession :=
  { session with spawned := session.spawned.set index stream }

def setStage (session : UdpSession) (index : Nat) (call : SendCall) (stage : SendStage) :
    UdpSession :=
  { session with calls := session.calls.set index { call with stage := stage } }

def recentlyUsed (session : UdpSession) (now : Nat) (index : Nat) : Bool :=
  match session.spawned[index]? with
  | none => false
  | some stream => decide (now - stream.lastUsed < udpStreamIdleTimeout)

def evictIdleUdpStreams (session : UdpSession) (now : Nat) : UdpSession :=
  { session with streams := session.streams.retain fun _ index => session.recentlyUsed now index }

/-- A new stream for the target, entered in the map. -/
def spawnUotStream (session : UdpSession) (target : TargetAddr) (now : Nat) : UdpSession :=
  { session with
    streams := session.streams.insert target session.spawned.length
    spawned := session.spawned ++ [⟨target, .bounded udpChannelCapacity, now⟩] }

/-- The stream of a target, started if there is none. -/
def senderFor (session : UdpSession) (target : TargetAddr) (now : Nat) : UdpSession × Nat :=
  let session := session.evictIdleUdpStreams now
  match session.streams.lookup target with
  | some index =>
      match session.spawned[index]? with
      | some stream => (session.putStream index { stream with lastUsed := now }, index)
      | none => (session, index)
  | none => (session.spawnUotStream target now, session.spawned.length)

/-- The next access of a call of `send_to`. -/
def continueCall (session : UdpSession) (index : Nat) (call : SendCall) (now : Nat) :
    UdpSession :=
  match call.stage with
  | .acquiring earlier =>
      let (session, stream) := session.senderFor call.target now
      session.setStage index call (.holding earlier stream)
  | .holding earlier stream =>
      match session.spawned[stream]? with
      | none => session
      | some found =>
          if found.mailbox.receiverAlive then
            (session.putStream stream { found with mailbox := found.mailbox.send index }).setStage
              index call (.waiting earlier stream)
          else session.setStage index call (.refused earlier stream)
  | .waiting earlier stream =>
      match session.spawned[stream]? with
      | none => session
      | some found =>
          if found.mailbox.receiverAlive then
            if found.mailbox.waiting.head? = some index ∧ found.mailbox.HasRoom then
              (session.putStream stream { found with mailbox := found.mailbox.letIn }).setStage
                index call (.returnedOk stream)
            else session
          else session.setStage index call (.refused earlier stream)
  | .removing stream =>
      { session.setStage index call (.acquiring (some stream)) with
        streams := session.streams.erase call.target }
  | .returnedOk _ => session
  | .returnedErr _ _ => session

def hasSender (session : UdpSession) (index : Nat) (stream : UdpStream) : Bool :=
  decide (session.streams.lookup stream.target = some index) ||
    session.calls.any fun call => call.stage.holds index

/-- The task of a stream waits for a datagram; without senders it ends. -/
def recv (session : UdpSession) (index : Nat) (stream : UdpStream) (now : Nat) : UdpSession :=
  if stream.mailbox.receiverAlive then
    if stream.mailbox.queue = [] then
      if session.hasSender index stream then session
      else session.putStream index { stream with mailbox := stream.mailbox.dropReceiver }
    else session.putStream index { stream with mailbox := stream.mailbox.recv, lastUsed := now }
  else session

def onStream (session : UdpSession) (index : Nat) (access : UdpStream → UdpSession) :
    UdpSession :=
  match session.spawned[index]? with
  | none => session
  | some stream => access stream

def step (session : UdpSession) : UdpSessionEvent → UdpSession
  | .sendTo target payload =>
      { session with calls := session.calls ++ [⟨target, payload, .acquiring none⟩] }
  | .advance index now =>
      match session.calls[index]? with
      | none => session
      | some call => session.continueCall index call now
  | .recv index now => session.onStream index (session.recv index · now)
  | .respond index now =>
      session.onStream index fun stream => session.putStream index { stream with lastUsed := now }
  | .taskEnds index =>
      session.onStream index fun stream =>
        session.putStream index { stream with mailbox := stream.mailbox.dropReceiver }
  | .cleanup now => session.evictIdleUdpStreams now

end UdpSession

def udpSessionMachine : Machine UdpSession UdpSessionEvent Unit :=
  ⟨fun session event => (session.step event, ())⟩

namespace UdpSession

/-- A stream of the target. -/
def Serves (session : UdpSession) (target : TargetAddr) (index : Nat) : Prop :=
  ∃ stream, session.spawned[index]? = some stream ∧ stream.target = target

/-- A stream of the target whose task has gone. -/
def Ended (session : UdpSession) (target : TargetAddr) (index : Nat) : Prop :=
  ∃ stream, session.spawned[index]? = some stream ∧ stream.target = target ∧
    stream.mailbox.receiverAlive = false

/-- What the stage of a call says about the streams. -/
def Placed (session : UdpSession) (index : Nat) (call : SendCall) : Prop :=
  match call.stage with
  | .acquiring earlier => ∀ first, earlier = some first →
      session.Ended call.target first ∧ session.streams.lookup call.target ≠ some first
  | .holding earlier stream => session.Serves call.target stream ∧
      ∀ first, earlier = some first → session.Ended call.target first ∧ first ≠ stream
  | .waiting earlier stream =>
      (∃ found, session.spawned[stream]? = some found ∧ found.target = call.target ∧
        (found.mailbox.receiverAlive = true → index ∈ found.mailbox.waiting)) ∧
      ∀ first, earlier = some first → session.Ended call.target first ∧ first ≠ stream
  | .removing stream => session.Ended call.target stream
  | .returnedOk stream => ∃ found, session.spawned[stream]? = some found ∧
      found.target = call.target ∧ index ∈ found.mailbox.accepted
  | .returnedErr first second =>
      session.Ended call.target first ∧ session.Ended call.target second ∧ first ≠ second

structure Sound (session : UdpSession) : Prop where
  keyed : ∀ target index, session.streams.lookup target = some index → session.Serves target index
  placed : ∀ (index : Nat) (call : SendCall), session.calls[index]? = some call →
    session.Placed index call
  once : ∀ (index : Nat) (stream : UdpStream), session.spawned[index]? = some stream →
    stream.mailbox.offered.Nodup
  waits : ∀ (index : Nat) (stream : UdpStream), session.spawned[index]? = some stream →
    ∀ waiting ∈ stream.mailbox.waiting, ∃ (call : SendCall) (earlier : Option Nat),
      session.calls[waiting]? = some call ∧ call.stage = .waiting earlier index
  accepted : ∀ (index : Nat) (stream : UdpStream), session.spawned[index]? = some stream →
    ∀ accepted ∈ stream.mailbox.accepted, ∃ call : SendCall,
      session.calls[accepted]? = some call ∧ call.stage = .returnedOk index

/-- How the streams may change under a call that does not act itself: streams
stay where they are, with the call's datagram, and no stream that has ended
comes back into the map. -/
structure Preserves (before after : UdpSession) (call : Nat) : Prop where
  streams : ∀ target first, before.Ended target first →
    after.streams.lookup target = some first → before.streams.lookup target = some first
  spawned : ∀ (index : Nat) (stream : UdpStream), before.spawned[index]? = some stream →
    ∃ later, after.spawned[index]? = some later ∧ later.target = stream.target ∧
      (later.mailbox.receiverAlive = true → stream.mailbox.receiverAlive = true) ∧
      (call ∈ stream.mailbox.accepted → call ∈ later.mailbox.accepted) ∧
      (later.mailbox.receiverAlive = true → call ∈ stream.mailbox.waiting →
        call ∈ later.mailbox.waiting)

namespace Preserves

variable {before after : UdpSession} {index : Nat}

theorem serves (preserves : Preserves before after index) {target : TargetAddr} {stream : Nat}
    (serves : before.Serves target stream) : after.Serves target stream := by
  obtain ⟨found, known, own⟩ := serves
  obtain ⟨later, now, same, -⟩ := preserves.spawned stream found known
  exact ⟨later, now, same.trans own⟩

theorem ended (preserves : Preserves before after index) {target : TargetAddr} {stream : Nat}
    (ended : before.Ended target stream) : after.Ended target stream := by
  obtain ⟨found, known, own, dead⟩ := ended
  obtain ⟨later, now, same, alive, -⟩ := preserves.spawned stream found known
  refine ⟨later, now, same.trans own, Bool.not_eq_true _ ▸ fun revived => ?_⟩
  rw [alive revived] at dead
  cases dead

theorem placed (preserves : Preserves before after index) {call : SendCall}
    (placed : before.Placed index call) : after.Placed index call := by
  unfold Placed at placed ⊢
  cases stage : call.stage with
  | acquiring earlier =>
      rw [stage] at placed
      intro first known
      obtain ⟨ended, unmapped⟩ := placed first known
      exact ⟨preserves.ended ended, fun mapped => unmapped (preserves.streams _ _ ended mapped)⟩
  | holding earlier stream =>
      rw [stage] at placed
      obtain ⟨serves, tried⟩ := placed
      exact ⟨preserves.serves serves, fun first known =>
        ⟨preserves.ended (tried first known).1, (tried first known).2⟩⟩
  | waiting earlier stream =>
      rw [stage] at placed
      obtain ⟨⟨found, known, own, waits⟩, tried⟩ := placed
      obtain ⟨later, now, same, alive, -, still⟩ := preserves.spawned stream found known
      refine ⟨⟨later, now, same.trans own, fun living => ?_⟩, fun first known =>
        ⟨preserves.ended (tried first known).1, (tried first known).2⟩⟩
      exact still living (waits (alive living))
  | removing stream =>
      rw [stage] at placed
      exact preserves.ended placed
  | returnedOk stream =>
      rw [stage] at placed
      obtain ⟨found, known, own, member⟩ := placed
      obtain ⟨later, now, same, -, accepted, -⟩ := preserves.spawned stream found known
      exact ⟨later, now, same.trans own, accepted member⟩
  | returnedErr first second =>
      rw [stage] at placed
      exact ⟨preserves.ended placed.1, preserves.ended placed.2.1, placed.2.2⟩

theorem of_fewer {session : UdpSession} {streams : KeyedMap TargetAddr Nat}
    (sub : ∀ target stream, streams.lookup target = some stream →
      session.streams.lookup target = some stream) (index : Nat) :
    Preserves session { session with streams := streams } index where
  streams := fun target first _ mapped => sub target first mapped
  spawned := fun _ stream known => ⟨stream, known, rfl, id, id, fun _ => id⟩

end Preserves

theorem putStream_self {session : UdpSession} {index : Nat} {stream : UdpStream}
    (found : session.spawned[index]? = some stream) (changed : UdpStream) :
    (session.putStream index changed).spawned[index]? = some changed := by
  have within := (List.getElem?_eq_some_iff.mp found).1
  simp [putStream, within]

theorem putStream_ne (session : UdpSession) {index other : Nat} (different : other ≠ index)
    (changed : UdpStream) :
    (session.putStream index changed).spawned[other]? = session.spawned[other]? := by
  simp [putStream, Ne.symm different]

/-- A stream after a change is the changed one or one from before. -/
theorem putStream_cases {session : UdpSession} {index other : Nat} {changed later : UdpStream}
    (known : (session.putStream index changed).spawned[other]? = some later) :
    (other = index ∧ later = changed) ∨ other ≠ index ∧ session.spawned[other]? = some later := by
  by_cases same : other = index
  · subst same
    have within := (List.getElem?_eq_some_iff.mp known).1
    simp only [putStream, List.length_set] at within
    simp only [putStream, List.getElem?_set_self within, Option.some.injEq] at known
    exact .inl ⟨rfl, known.symm⟩
  · exact .inr ⟨same, (session.putStream_ne same changed).symm.trans known⟩

theorem Preserves.putStream {session : UdpSession} {index : Nat} {stream changed : UdpStream}
    (found : session.spawned[index]? = some stream) (sameTarget : changed.target = stream.target)
    (alive : changed.mailbox.receiverAlive = true → stream.mailbox.receiverAlive = true)
    {call : Nat} (accepted : call ∈ stream.mailbox.accepted → call ∈ changed.mailbox.accepted)
    (waits : changed.mailbox.receiverAlive = true → call ∈ stream.mailbox.waiting →
      call ∈ changed.mailbox.waiting) :
    Preserves session (session.putStream index changed) call where
  streams := fun _ _ _ mapped => mapped
  spawned := by
    intro other another known
    by_cases same : other = index
    · subst same
      have isStream := found.symm.trans known
      cases isStream
      exact ⟨changed, putStream_self found changed, sameTarget, alive, accepted, waits⟩
    · exact ⟨another, (session.putStream_ne same changed).trans known, rfl, id, id, fun _ => id⟩

namespace Sound

variable {session : UdpSession} {index stream : Nat} {call : SendCall} {outlet : UdpStream}
  {earlier : Option Nat}

theorem new : UdpSession.new.Sound where
  keyed := fun _ _ mapped => nomatch mapped
  placed := fun _ _ found => nomatch found
  once := fun _ _ found => nomatch found
  waits := fun _ _ found => nomatch found
  accepted := fun _ _ found => nomatch found

/-- A step in which no call takes part. -/
theorem react (sound : session.Sound) (after : UdpSession) (calls : after.calls = session.calls)
    (keyed : ∀ target index, after.streams.lookup target = some index →
      after.Serves target index)
    (preserves : ∀ call, Preserves session after call)
    (within : ∀ (index : Nat) (later : UdpStream), after.spawned[index]? = some later →
      later.mailbox.offered = [] ∨ ∃ stream, session.spawned[index]? = some stream ∧
        later.mailbox.accepted = stream.mailbox.accepted ∧
        later.mailbox.waiting.Sublist stream.mailbox.waiting) : after.Sound := by
  constructor
  case keyed => exact keyed
  case placed =>
      intro index call found
      rw [calls] at found
      exact (preserves index).placed (sound.placed index call found)
  case once =>
      intro index later found
      rcases within index later found with empty | ⟨stream, known, accepted, waiting⟩
      · rw [empty]
        exact List.nodup_nil
      · have fewer : later.mailbox.offered.Sublist stream.mailbox.offered := by
          rw [Mailbox.offered, Mailbox.offered, accepted]
          exact (List.Sublist.refl _).append waiting
        exact List.Nodup.sublist fewer (sound.once index stream known)
  case waits =>
      intro index later found call member
      rw [calls]
      rcases within index later found with empty | ⟨stream, known, -, waiting⟩
      · have none := (List.append_eq_nil_iff.mp empty).2
        rw [none] at member
        cases member
      · exact sound.waits index stream known call (waiting.subset member)
  case accepted =>
      intro index later found call member
      rw [calls]
      rcases within index later found with empty | ⟨stream, known, accepted, -⟩
      · have none := (List.append_eq_nil_iff.mp empty).1
        rw [none] at member
        cases member
      · exact sound.accepted index stream known call (accepted ▸ member)

/-- A step of a stream's task. -/
theorem putStream (sound : session.Sound) {stream changed : UdpStream}
    (found : session.spawned[index]? = some stream) (sameTarget : changed.target = stream.target)
    (alive : changed.mailbox.receiverAlive = true → stream.mailbox.receiverAlive = true)
    (accepted : changed.mailbox.accepted = stream.mailbox.accepted)
    (waits : changed.mailbox.receiverAlive = true →
      changed.mailbox.waiting = stream.mailbox.waiting)
    (sub : changed.mailbox.waiting.Sublist stream.mailbox.waiting) :
    (session.putStream index changed).Sound := by
  have preserves : ∀ call, Preserves session (session.putStream index changed) call := by
    intro call
    exact .putStream found sameTarget alive (accepted ▸ id) fun living => waits living ▸ id
  apply sound.react (session.putStream index changed) rfl
  · intro target other mapped
    exact (preserves 0).serves (sound.keyed target other mapped)
  · exact preserves
  · intro other later known
    rcases putStream_cases known with ⟨rfl, rfl⟩ | ⟨-, before⟩
    · exact .inr ⟨stream, found, accepted, sub⟩
    · exact .inr ⟨later, before, rfl, List.Sublist.refl _⟩

theorem fewer (sound : session.Sound) {streams : KeyedMap TargetAddr Nat}
    (sub : ∀ target stream, streams.lookup target = some stream →
      session.streams.lookup target = some stream) :
    { session with streams := streams }.Sound := by
  apply sound.react { session with streams := streams } rfl
  · exact fun target index mapped => sound.keyed target index (sub target index mapped)
  · exact Preserves.of_fewer sub
  · exact fun index later known => .inr ⟨later, known, rfl, List.Sublist.refl _⟩

theorem evictIdleUdpStreams (sound : session.Sound) (now : Nat) :
    (session.evictIdleUdpStreams now).Sound := by
  apply sound.fewer
  intro target stream mapped
  rw [KeyedMap.lookup_retain, Option.filter_eq_some_iff] at mapped
  exact mapped.1

theorem removeStream (sound : session.Sound) (target : TargetAddr) :
    { session with streams := session.streams.erase target }.Sound :=
  sound.fewer fun _ _ mapped => (KeyedMap.lookup_erase_eq_some mapped).2

/-- A call that neither waits nor has returned is in no channel. -/
theorem not_offered (sound : session.Sound) (found : session.calls[index]? = some call)
    (known : session.spawned[stream]? = some outlet)
    (idle : ∀ earlier, call.stage ≠ .waiting earlier stream)
    (unsent : call.stage ≠ .returnedOk stream) : index ∉ outlet.mailbox.offered := by
  intro member
  rcases List.mem_append.mp member with accepted | waiting
  · obtain ⟨other, same, returned⟩ := sound.accepted stream outlet known index accepted
    rw [found] at same
    cases same
    exact unsent returned
  · obtain ⟨other, earlier, same, waits⟩ := sound.waits stream outlet known index waiting
    rw [found] at same
    cases same
    exact idle earlier waits

theorem setStage_ne (session : UdpSession) {other : Nat} (different : other ≠ index)
    (call : SendCall) (stage : SendStage) :
    (session.setStage index call stage).calls[other]? = session.calls[other]? := by
  simp [UdpSession.setStage, Ne.symm different]

theorem setStage_self (found : session.calls[index]? = some call) (stage : SendStage) :
    (session.setStage index call stage).calls[index]? = some { call with stage := stage } := by
  have within := (List.getElem?_eq_some_iff.mp found).1
  simp [UdpSession.setStage, within]

theorem setStage_cases {other : Nat} {another : SendCall} {stage : SendStage}
    (found : session.calls[index]? = some call)
    (known : (session.setStage index call stage).calls[other]? = some another) :
    (other = index ∧ another = { call with stage := stage }) ∨
      other ≠ index ∧ session.calls[other]? = some another := by
  by_cases same : other = index
  · subst same
    have isCall := (setStage_self found stage).symm.trans known
    cases isCall
    exact .inl ⟨rfl, rfl⟩
  · exact .inr ⟨same, (setStage_ne session same call stage).symm.trans known⟩

/-- One call goes on, and one stream may change with it.  `after` holds the
streams after the step and the calls before it. -/
theorem move (sound : session.Sound) (after : UdpSession)
    (found : session.calls[index]? = some call) (calls : after.calls = session.calls)
    (stage : SendStage)
    (keyed : ∀ target index, after.streams.lookup target = some index →
      after.Serves target index)
    (preserves : ∀ other ≠ index, Preserves session after other)
    (placed : after.Placed index { call with stage := stage })
    (once : ∀ (stream : Nat) (later : UdpStream), after.spawned[stream]? = some later →
      later.mailbox.offered.Nodup)
    (waits : ∀ (stream : Nat) (later : UdpStream), after.spawned[stream]? = some later →
      ∀ waiting ∈ later.mailbox.waiting,
        (waiting = index ∧ ∃ earlier, stage = .waiting earlier stream) ∨
        waiting ≠ index ∧ ∃ outlet, session.spawned[stream]? = some outlet ∧
          waiting ∈ outlet.mailbox.waiting)
    (accepted : ∀ (stream : Nat) (later : UdpStream), after.spawned[stream]? = some later →
      ∀ accepted ∈ later.mailbox.accepted, (accepted = index ∧ stage = .returnedOk stream) ∨
        accepted ≠ index ∧ ∃ outlet, session.spawned[stream]? = some outlet ∧
          accepted ∈ outlet.mailbox.accepted) :
    (after.setStage index call stage).Sound := by
  have foundAfter : after.calls[index]? = some call := calls ▸ found
  constructor
  case keyed => exact keyed
  case placed =>
      intro other another known
      rcases setStage_cases foundAfter known with ⟨rfl, rfl⟩ | ⟨different, before⟩
      · exact placed
      · exact (preserves other different).placed (sound.placed other another (calls ▸ before))
  case once => exact once
  case waits =>
      intro stream later known waiting member
      rcases waits stream later known waiting member with ⟨rfl, earlier, isWaiting⟩ |
        ⟨different, outlet, before, was⟩
      · exact ⟨_, earlier, setStage_self foundAfter stage, isWaiting⟩
      · obtain ⟨other, earlier, same, waits⟩ := sound.waits stream outlet before waiting was
        exact ⟨other, earlier, (setStage_ne after different call stage).trans (calls ▸ same), waits⟩
  case accepted =>
      intro stream later known taken member
      rcases accepted stream later known taken member with ⟨rfl, returned⟩ |
        ⟨different, outlet, before, was⟩
      · exact ⟨_, setStage_self foundAfter stage, returned⟩
      · obtain ⟨other, same, returned⟩ := sound.accepted stream outlet before taken was
        exact ⟨other, (setStage_ne after different call stage).trans (calls ▸ same), returned⟩

/-- A call that is in no channel goes on without entering one. -/
theorem setStage (sound : session.Sound) (found : session.calls[index]? = some call)
    (stage : SendStage) (placed : session.Placed index { call with stage := stage })
    (absent : ∀ (stream : Nat) (outlet : UdpStream), session.spawned[stream]? = some outlet →
      index ∉ outlet.mailbox.offered) : (session.setStage index call stage).Sound := by
  apply sound.move session found rfl stage sound.keyed
  · exact fun other _ => .of_fewer (fun _ _ => id) other
  · exact placed
  · exact sound.once
  · intro stream later known waiting member
    refine .inr ⟨?_, later, known, member⟩
    rintro rfl
    exact absent stream later known (List.mem_append_right _ member)
  · intro stream later known accepted member
    refine .inr ⟨?_, later, known, member⟩
    rintro rfl
    exact absent stream later known (List.mem_append_left _ member)

theorem spawnUotStream_cases {target : TargetAddr} {now : Nat} {later : UdpStream}
    (known : (session.spawnUotStream target now).spawned[index]? = some later) :
    session.spawned[index]? = some later ∨
      index = session.spawned.length ∧ later = ⟨target, .bounded udpChannelCapacity, now⟩ := by
  by_cases before : index < session.spawned.length
  · exact .inl ((List.getElem?_append_left before).symm.trans known)
  · have tail := (List.getElem?_append_right (Nat.le_of_not_lt before)).symm.trans known
    have within := (List.getElem?_eq_some_iff.mp known).1
    simp only [UdpSession.spawnUotStream, List.length_append, List.length_singleton] at within
    exact .inr ⟨by omega, List.mem_singleton.mp (List.mem_of_getElem? tail)⟩

theorem spawnUotStream (sound : session.Sound) (target : TargetAddr) (now : Nat) :
    (session.spawnUotStream target now).Sound := by
  have older : ∀ (index : Nat) (stream : UdpStream), session.spawned[index]? = some stream →
      (session.spawnUotStream target now).spawned[index]? = some stream := by
    intro index stream known
    have within := (List.getElem?_eq_some_iff.mp known).1
    exact (List.getElem?_append_left within).trans known
  apply sound.react (session.spawnUotStream target now) rfl
  · intro other index mapped
    by_cases same : other = target
    · subst same
      have last := (AList.lookup_insert session.streams).symm.trans mapped
      cases last
      exact ⟨_, List.getElem?_concat_length, rfl⟩
    · have before := (AList.lookup_insert_ne same).symm.trans mapped
      obtain ⟨stream, known, own⟩ := sound.keyed other index before
      exact ⟨stream, older index stream known, own⟩
  · intro call
    constructor
    · intro other first ended mapped
      obtain ⟨stream, known, -⟩ := ended
      have within := (List.getElem?_eq_some_iff.mp known).1
      by_cases same : other = target
      · subst same
        have last := (AList.lookup_insert session.streams).symm.trans mapped
        rw [Option.some.injEq] at last
        omega
      · exact (AList.lookup_insert_ne same).symm.trans mapped
    · exact fun index stream known =>
        ⟨stream, older index stream known, rfl, id, id, fun _ => id⟩
  · intro index later known
    rcases spawnUotStream_cases known with before | ⟨-, rfl⟩
    · exact .inr ⟨later, before, rfl, List.Sublist.refl _⟩
    · exact .inl rfl

theorem senderFor (sound : session.Sound) (target : TargetAddr) (now : Nat) :
    (session.senderFor target now).1.Sound ∧
      (session.senderFor target now).1.streams.lookup target =
        some (session.senderFor target now).2 ∧
      (session.senderFor target now).1.calls = session.calls := by
  have evicted := sound.evictIdleUdpStreams now
  simp only [UdpSession.senderFor]
  split
  · rename_i index mapped
    obtain ⟨stream, known, -⟩ := evicted.keyed target index mapped
    simp only [known]
    refine ⟨?_, mapped, rfl⟩
    exact evicted.putStream known rfl id rfl (fun _ => rfl) (List.Sublist.refl _)
  · exact ⟨evicted.spawnUotStream target now, AList.lookup_insert _, rfl⟩

/-- The channel was closed before it let the call in. -/
theorem refuse (sound : session.Sound) (found : session.calls[index]? = some call)
    (known : session.spawned[stream]? = some outlet) (own : outlet.target = call.target)
    (dead : outlet.mailbox.receiverAlive = false)
    (tried : ∀ first, earlier = some first → session.Ended call.target first ∧ first ≠ stream)
    (absent : ∀ (other : Nat) (another : UdpStream), session.spawned[other]? = some another →
      index ∉ another.mailbox.offered) :
    (session.setStage index call (.refused earlier stream)).Sound := by
  apply sound.setStage found _ _ absent
  have ended : session.Ended call.target stream := ⟨outlet, known, own, dead⟩
  cases earlier with
  | none => exact ended
  | some first => exact ⟨(tried first rfl).1, ended, (tried first rfl).2⟩

/-- A call goes on together with the channel of one stream. -/
theorem exchange (sound : session.Sound) (found : session.calls[index]? = some call)
    (known : session.spawned[stream]? = some outlet) (mailbox : Mailbox Nat) (stage : SendStage)
    (alive : mailbox.receiverAlive = true → outlet.mailbox.receiverAlive = true)
    (others : ∀ other ≠ index, (other ∈ outlet.mailbox.accepted → other ∈ mailbox.accepted) ∧
      (other ∈ outlet.mailbox.waiting → other ∈ mailbox.waiting))
    (elsewhere : ∀ (other : Nat) (another : UdpStream), other ≠ stream →
      session.spawned[other]? = some another → index ∉ another.mailbox.offered)
    (placed : (session.putStream stream { outlet with mailbox := mailbox }).Placed index
      { call with stage := stage })
    (once : mailbox.offered.Nodup)
    (waits : ∀ waiting ∈ mailbox.waiting,
      (waiting = index ∧ ∃ earlier, stage = .waiting earlier stream) ∨
        waiting ≠ index ∧ waiting ∈ outlet.mailbox.waiting)
    (accepted : ∀ accepted ∈ mailbox.accepted,
      (accepted = index ∧ stage = .returnedOk stream) ∨
        accepted ≠ index ∧ accepted ∈ outlet.mailbox.accepted) :
    ((session.putStream stream { outlet with mailbox := mailbox }).setStage index call
      stage).Sound := by
  apply sound.move (session.putStream stream { outlet with mailbox := mailbox }) found rfl
  · intro target other mapped
    obtain ⟨another, listed, own⟩ := sound.keyed target other mapped
    by_cases same : other = stream
    · subst same
      have isOutlet := known.symm.trans listed
      cases isOutlet
      exact ⟨_, putStream_self known _, own⟩
    · exact ⟨another, (session.putStream_ne same _).trans listed, own⟩
  · intro other different
    apply Preserves.putStream known
    · rfl
    · exact alive
    · exact (others other different).1
    · exact fun _ => (others other different).2
  · exact placed
  · intro other later listed
    rcases putStream_cases listed with ⟨-, rfl⟩ | ⟨-, before⟩
    · exact once
    · exact sound.once other later before
  · intro other later listed waiting member
    rcases putStream_cases listed with ⟨rfl, rfl⟩ | ⟨different, before⟩
    · exact (waits waiting member).imp_right fun kept => ⟨kept.1, outlet, known, kept.2⟩
    · refine .inr ⟨?_, later, before, member⟩
      rintro rfl
      exact elsewhere other later different before (List.mem_append_right _ member)
  · intro other later listed taken member
    rcases putStream_cases listed with ⟨rfl, rfl⟩ | ⟨different, before⟩
    · exact (accepted taken member).imp_right fun kept => ⟨kept.1, outlet, known, kept.2⟩
    · refine .inr ⟨?_, later, before, member⟩
      rintro rfl
      exact elsewhere other later different before (List.mem_append_left _ member)

/-- An attempt that went before is not touched by the change of a living stream. -/
theorem tried_putStream {target : TargetAddr}
    (tried : ∀ first, earlier = some first → session.Ended target first ∧ first ≠ stream)
    (changed : UdpStream) (first : Nat) (known : earlier = some first) :
    (session.putStream stream changed).Ended target first ∧ first ≠ stream := by
  obtain ⟨⟨outlet, listed, own, dead⟩, different⟩ := tried first known
  exact ⟨⟨outlet, (session.putStream_ne different changed).trans listed, own, dead⟩, different⟩

/-- The message of a call starts to wait. -/
theorem send (sound : session.Sound) (found : session.calls[index]? = some call)
    (holding : call.stage = .holding earlier stream)
    (known : session.spawned[stream]? = some outlet) (own : outlet.target = call.target)
    (alive : outlet.mailbox.receiverAlive = true)
    (tried : ∀ first, earlier = some first → session.Ended call.target first ∧ first ≠ stream) :
    ((session.putStream stream { outlet with mailbox := outlet.mailbox.send index }).setStage
      index call (.waiting earlier stream)).Sound := by
  have absent : ∀ (other : Nat) (another : UdpStream), session.spawned[other]? = some another →
      index ∉ another.mailbox.offered := by
    intro other another listed
    exact sound.not_offered found listed (by simp [holding]) (by simp [holding])
  have waiting : (outlet.mailbox.send index).waiting = outlet.mailbox.waiting ++ [index] := by
    simp [Mailbox.send, alive]
  have accepted : (outlet.mailbox.send index).accepted = outlet.mailbox.accepted := by
    simp [Mailbox.send, alive, Mailbox.accepted]
  apply sound.exchange found known
  case alive => exact fun _ => alive
  case others =>
      intro other _
      rw [accepted, waiting]
      exact ⟨id, fun member => List.mem_append_left _ member⟩
  case elsewhere => exact fun other another _ listed => absent other another listed
  case placed =>
      refine ⟨⟨_, putStream_self known _, own, fun _ => ?_⟩, tried_putStream tried _⟩
      simp [waiting]
  case once =>
      rw [Mailbox.offered_send alive]
      exact (sound.once stream outlet known).append (List.nodup_singleton index)
        (List.disjoint_singleton.mpr (absent stream outlet known))
  case waits =>
      intro other member
      rw [waiting, List.mem_append, List.mem_singleton] at member
      rcases member with before | rfl
      · refine .inr ⟨?_, before⟩
        rintro rfl
        exact absent stream outlet known (List.mem_append_right _ before)
      · exact .inl ⟨rfl, earlier, rfl⟩
  case accepted =>
      intro other member
      rw [accepted] at member
      refine .inr ⟨?_, member⟩
      rintro rfl
      exact absent stream outlet known (List.mem_append_left _ member)

/-- The message of the call that is first in line is let in. -/
theorem letIn (sound : session.Sound) (found : session.calls[index]? = some call)
    (waits : call.stage = .waiting earlier stream) (known : session.spawned[stream]? = some outlet)
    (own : outlet.target = call.target) (alive : outlet.mailbox.receiverAlive = true)
    (first : outlet.mailbox.waiting.head? = some index) (room : outlet.mailbox.HasRoom) :
    ((session.putStream stream { outlet with mailbox := outlet.mailbox.letIn }).setStage
      index call (.returnedOk stream)).Sound := by
  obtain ⟨rest, line, waiting, accepted⟩ := Mailbox.letIn_of_head first room alive
  have once := sound.once stream outlet known
  have distinct : index ∉ outlet.mailbox.accepted ∧ index ∉ rest := by
    rw [Mailbox.offered, line, List.nodup_append'] at once
    obtain ⟨-, behind, disjoint⟩ := once
    exact ⟨fun member => disjoint member List.mem_cons_self, (List.nodup_cons.mp behind).1⟩
  apply sound.exchange found known
  case alive => exact fun _ => alive
  case others =>
      intro other different
      rw [accepted, waiting, line]
      refine ⟨fun member => List.mem_append_left _ member, fun member => ?_⟩
      exact (List.mem_cons.mp member).resolve_left different
  case elsewhere =>
      intro other another different listed
      apply sound.not_offered found listed
      · intro before same
        rw [waits] at same
        cases same
        exact different rfl
      · simp [waits]
  case placed =>
      refine ⟨_, putStream_self known _, own, ?_⟩
      simp [accepted]
  case once => rwa [Mailbox.offered_letIn]
  case waits =>
      intro other member
      rw [waiting] at member
      refine .inr ⟨?_, line ▸ List.mem_cons_of_mem _ member⟩
      rintro rfl
      exact distinct.2 member
  case accepted =>
      intro other member
      rw [accepted, List.mem_append, List.mem_singleton] at member
      rcases member with before | rfl
      · refine .inr ⟨?_, before⟩
        rintro rfl
        exact distinct.1 before
      · exact .inl ⟨rfl, rfl⟩

theorem continueCall (sound : session.Sound) (found : session.calls[index]? = some call)
    (now : Nat) :
    (session.continueCall index call now).Sound := by
  have placed := sound.placed index call found
  unfold UdpSession.continueCall
  cases stage : call.stage with
  | acquiring earlier =>
      obtain ⟨acquired, mapped, calls⟩ := sound.senderFor call.target now
      have foundAfter : (session.senderFor call.target now).1.calls[index]? = some call :=
        calls ▸ found
      have before := acquired.placed index call foundAfter
      simp only [Placed, stage] at before
      apply acquired.setStage foundAfter
      · refine ⟨acquired.keyed _ _ mapped, fun first tried => ⟨(before first tried).1, ?_⟩⟩
        rintro rfl
        exact (before _ tried).2 mapped
      · intro stream outlet listed
        exact acquired.not_offered foundAfter listed (by simp [stage]) (by simp [stage])
  | holding earlier stream =>
      simp only [Placed, stage] at placed
      obtain ⟨⟨outlet, known, own⟩, tried⟩ := placed
      simp only [known]
      split
      · rename_i alive
        exact sound.send found stage known own alive tried
      · rename_i dead
        apply sound.refuse found known own (by simpa using dead) tried
        intro other another listed
        exact sound.not_offered found listed (by simp [stage]) (by simp [stage])
  | waiting earlier stream =>
      simp only [Placed, stage] at placed
      obtain ⟨⟨outlet, known, own, -⟩, tried⟩ := placed
      simp only [known]
      split
      · rename_i alive
        split
        · rename_i first
          exact sound.letIn found stage known own alive first.1 first.2
        · exact sound
      · rename_i dead
        have dead : outlet.mailbox.receiverAlive = false := by simpa using dead
        apply sound.refuse found known own dead tried
        intro other another listed
        by_cases same : other = stream
        · subst same
          have isOutlet := known.symm.trans listed
          cases isOutlet
          intro member
          rw [Mailbox.offered, outlet.mailbox.returned dead, List.append_nil] at member
          obtain ⟨same, isCall, returned⟩ := sound.accepted other outlet known index member
          rw [found] at isCall
          cases isCall
          rw [stage] at returned
          cases returned
        · apply sound.not_offered found listed _ (by simp [stage])
          intro before waits
          rw [stage] at waits
          cases waits
          exact same rfl
  | removing stream =>
      simp only [Placed, stage] at placed
      have removed := sound.removeStream call.target
      apply removed.setStage found
      · intro first same
        cases same
        refine ⟨placed, ?_⟩
        simp [AList.lookup_erase]
      · intro other another listed
        exact sound.not_offered found listed (by simp [stage]) (by simp [stage])
  | returnedOk stream => exact sound
  | returnedErr first second => exact sound

theorem sendTo (sound : session.Sound) (target : TargetAddr) (payload : List UInt8) :
    (session.step (.sendTo target payload)).Sound := by
  have older : ∀ (index : Nat) (call : SendCall), session.calls[index]? = some call →
      (session.calls ++ [SendCall.mk target payload (.acquiring none)])[index]? = some call := by
    intro index call known
    have within := (List.getElem?_eq_some_iff.mp known).1
    exact (List.getElem?_append_left within).trans known
  constructor
  case keyed => exact sound.keyed
  case placed =>
      intro index call known
      by_cases before : index < session.calls.length
      · exact sound.placed index call ((List.getElem?_append_left before).symm.trans known)
      · have tail := (List.getElem?_append_right (Nat.le_of_not_lt before)).symm.trans known
        rw [List.mem_singleton.mp (List.mem_of_getElem? tail)]
        exact fun first none => nomatch none
  case once => exact sound.once
  case waits =>
      intro index stream known waiting member
      obtain ⟨call, earlier, listed, waits⟩ := sound.waits index stream known waiting member
      exact ⟨call, earlier, older waiting call listed, waits⟩
  case accepted =>
      intro index stream known accepted member
      obtain ⟨call, listed, returned⟩ := sound.accepted index stream known accepted member
      exact ⟨call, older accepted call listed, returned⟩

theorem recv (sound : session.Sound) {stream : UdpStream}
    (found : session.spawned[index]? = some stream) (now : Nat) :
    (session.recv index stream now).Sound := by
  unfold UdpSession.recv
  split
  · split
    · split
      · exact sound
      · exact sound.putStream found rfl (fun alive => nomatch alive) rfl
          (fun alive => nomatch alive) (List.nil_sublist _)
    · exact sound.putStream found rfl id (Mailbox.accepted_recv _) (fun _ => rfl)
        (List.Sublist.refl _)
  · exact sound

theorem onStream (sound : session.Sound) (index : Nat) {access : UdpStream → UdpSession}
    (keeps : ∀ stream, session.spawned[index]? = some stream → (access stream).Sound) :
    (session.onStream index access).Sound := by
  unfold UdpSession.onStream
  split
  · exact sound
  · rename_i stream found
    exact keeps stream found

theorem step (sound : session.Sound) (event : UdpSessionEvent) : (session.step event).Sound := by
  cases event with
  | sendTo target payload => exact sound.sendTo target payload
  | advance index now =>
      simp only [UdpSession.step]
      split
      · exact sound
      · rename_i call found
        exact sound.continueCall found now
  | recv index now => exact sound.onStream index fun stream found => sound.recv found now
  | respond index now =>
      exact sound.onStream index fun stream found =>
        sound.putStream found rfl id rfl (fun _ => rfl) (List.Sublist.refl _)
  | taskEnds index =>
      exact sound.onStream index fun stream found =>
        sound.putStream found rfl (fun alive => nomatch alive) rfl (fun alive => nomatch alive)
          (List.nil_sublist _)
  | cleanup now => exact sound.evictIdleUdpStreams now

theorem run (events : List UdpSessionEvent) : (udpSessionMachine.run .new events).Sound :=
  udpSessionMachine.run_invariant (fun _ event sound => sound.step event) .new events

end Sound

end UdpSession

/-- However the calls of `send_to`, the tasks of the streams and the cleaner take
turns: what a stream was given to relay are datagrams of calls that returned, for
the stream's own target, each of them once.  A call that returned has left its
datagram with one stream and no other; and one that failed has met two different
streams of its target whose tasks had gone. -/
theorem udp_calls_are_accounted (events : List UdpSessionEvent) :
    let session := udpSessionMachine.run .new events
    (∀ (index : Nat) (stream : UdpStream), session.spawned[index]? = some stream →
      stream.mailbox.accepted.Nodup ∧
      ∀ accepted ∈ stream.mailbox.accepted, ∃ call : SendCall,
        session.calls[accepted]? = some call ∧ call.target = stream.target ∧
          call.stage = .returnedOk index) ∧
    (∀ (index : Nat) (call : SendCall), session.calls[index]? = some call →
      (∀ place, call.stage = .returnedOk place ↔ ∃ stream,
        session.spawned[place]? = some stream ∧ index ∈ stream.mailbox.accepted) ∧
      ∀ first second, call.stage = .returnedErr first second →
        first ≠ second ∧ session.Ended call.target first ∧ session.Ended call.target second) := by
  intro session
  have sound : session.Sound := UdpSession.Sound.run events
  have returned : ∀ (index : Nat) (call : SendCall) (place : Nat),
      session.calls[index]? = some call → call.stage = .returnedOk place →
      ∃ stream, session.spawned[place]? = some stream ∧ stream.target = call.target ∧
        index ∈ stream.mailbox.accepted := by
    intro index call place found stage
    have placed := sound.placed index call found
    simpa only [UdpSession.Placed, stage] using placed
  constructor
  · intro index stream known
    refine ⟨List.Nodup.sublist (List.sublist_append_left _ _) (sound.once index stream known), ?_⟩
    intro accepted member
    obtain ⟨call, found, stage⟩ := sound.accepted index stream known accepted member
    obtain ⟨other, same, own, -⟩ := returned accepted call index found stage
    rw [known] at same
    cases same
    exact ⟨call, found, own.symm, stage⟩
  · intro index call found
    constructor
    · intro place
      constructor
      · intro stage
        obtain ⟨stream, known, -, member⟩ := returned index call place found stage
        exact ⟨stream, known, member⟩
      · intro ⟨stream, known, member⟩
        obtain ⟨other, same, stage⟩ := sound.accepted place stream known index member
        rw [found] at same
        cases same
        exact stage
    · intro first second stage
      have placed := sound.placed index call found
      simp only [UdpSession.Placed, stage] at placed
      exact ⟨placed.2.2, placed.1, placed.2.1⟩

/-- Two datagrams to one target.  The task of the first stream ends before the
second datagram is let in, and the call starts another stream. -/
def retriedCalls : List UdpSessionEvent :=
  let target : TargetAddr := .ip (.v4 loopback 53)
  [.sendTo target [1], .advance 0 0, .advance 0 0, .advance 0 0, .sendTo target [2],
    .advance 1 5, .taskEnds 0, .advance 1 6, .advance 1 7, .advance 1 8, .advance 1 8, .advance 1 8]

theorem retried_calls_are_accounted :
    let session := udpSessionMachine.run .new retriedCalls
    session.calls.map SendCall.stage = [.returnedOk 0, .returnedOk 1] ∧
      ∃ stream, session.spawned[1]? = some stream ∧ 1 ∈ stream.mailbox.accepted := by
  intro session
  have stages : session.calls.map SendCall.stage = [.returnedOk 0, .returnedOk 1] := by decide
  obtain ⟨call, found, stage⟩ : ∃ call : SendCall, session.calls[1]? = some call ∧
      call.stage = .returnedOk 1 := by
    have second := congrArg (fun listed => listed[1]?) stages
    simp only [List.getElem?_map, List.getElem?_cons_succ, List.getElem?_cons_zero,
      Option.map_eq_some_iff] at second
    exact second
  refine ⟨stages, ?_⟩
  exact (((udp_calls_are_accounted retriedCalls).2 1 call found).1 1).mp stage

end Rtunnel.Anytls.Outbound
