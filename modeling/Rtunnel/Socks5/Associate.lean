import Rtunnel.Data.Machine
import Rtunnel.Socks5.Codec

namespace Rtunnel.Socks5

open Rtunnel.Data Rtunnel.Anytls

/-! The UDP association of one control connection.

Datagrams reach the socket from anywhere.  The first one that comes from the
peer's address, from the port the client asked for, and that is a SOCKS5 packet
claims the association; from then on the loop listens and answers to its source
alone.
-/

/-- Five minutes, in nanoseconds. -/
def udpAssociateIdleTimeout : Nat := 5 * 60 * 1000000000

def udpReplyAddr (controlAddr udpAddr : SocketAddr) : SocketAddr :=
  .new (if udpAddr.ip.isUnspecified then controlAddr.ip else udpAddr.ip) udpAddr.port

def udpClientAllowed (peer : SocketAddr) (requestedPort : UInt16)
    (clientAddr : Option SocketAddr) (source : SocketAddr) : Bool :=
  decide (source.ip.toCanonical = peer.ip.toCanonical) &&
    (decide (requestedPort = 0) || decide (source.port = requestedPort)) &&
    clientAddr.all fun client => decide (client = source)

inductive AssociateEffect where
  | replied (bind : TargetAddr)
  | forwarded (source : SocketAddr) (target : TargetAddr) (payload : List UInt8)
  | answered (packet : List UInt8) (client : SocketAddr)
deriving DecidableEq

/-- What a turn of the loop waits for; the answers of the sockets to a send come
with it. -/
inductive AssociateEvent where
  | control (read : Except Failure Nat)
  | response (received : Except Failure (TargetAddr × List UInt8)) (send : Except Failure Unit)
      (now : Nat)
  | datagram (received : Except Failure (List UInt8 × SocketAddr)) (send : Except Failure Unit)
      (now : Nat)
  | timer (now : Nat)
deriving DecidableEq

structure Associate where
  clientAddr : Option SocketAddr
  lastActivity : Nat
  ended : Bool
  trace : List AssociateEffect

namespace Associate

/-- The association once its reply is written. -/
def new (controlAddr udpAddr : SocketAddr) (now : Nat) : Associate where
  clientAddr := none
  lastActivity := now
  ended := false
  trace := [.replied (.ip (udpReplyAddr controlAddr udpAddr))]

def leave (loop : Associate) : Associate := { loop with ended := true }

/-- A send that fails ends the loop. -/
def sent (loop : Associate) (effect : AssociateEffect) (send : Except Failure Unit) (now : Nat) :
    Associate :=
  let loop := { loop with trace := loop.trace ++ [effect] }
  match send with
  | .ok () => { loop with lastActivity := now }
  | .error _ => loop.leave

def handleResponse (loop : Associate) (source : TargetAddr) (payload : List UInt8)
    (send : Except Failure Unit) (now : Nat) : Associate :=
  match loop.clientAddr with
  | none => loop
  | some client =>
      match encodeUdpPacket source payload with
      | .error _ => loop
      | .ok packet => loop.sent (.answered packet client) send now

/-- Only a valid packet from the expected peer may claim an association whose
client port was initially unknown. -/
def handleDatagram (peer : SocketAddr) (requestedPort : UInt16) (loop : Associate)
    (data : List UInt8) (source : SocketAddr) (send : Except Failure Unit) (now : Nat) :
    Associate :=
  if udpClientAllowed peer requestedPort loop.clientAddr source then
    match decodeUdpPacket data with
    | .returns (target, payload) =>
        { loop with clientAddr := some source }.sent (.forwarded source target payload) send now
    | .fails _ => loop
    | .panics => loop.leave
  else loop

def handle (peer : SocketAddr) (requestedPort : UInt16) (loop : Associate) :
    AssociateEvent → Associate
  | .control (.ok 0) => loop.leave
  | .control (.error _) => loop.leave
  | .control (.ok _) => loop
  | .response (.error _) _ _ => loop.leave
  | .response (.ok (source, payload)) send now => loop.handleResponse source payload send now
  | .datagram (.error _) _ _ => loop.leave
  | .datagram (.ok (data, source)) send now =>
      loop.handleDatagram peer requestedPort data source send now
  | .timer now =>
      if loop.lastActivity + udpAssociateIdleTimeout ≤ now then loop.leave else loop

end Associate

def associateMachine (peer : SocketAddr) (requestedPort : UInt16) :
    Machine Associate AssociateEvent Unit :=
  ⟨fun loop event => (if loop.ended then loop else loop.handle peer requestedPort event, ())⟩

/-- A datagram claims an unclaimed association if it is allowed and decodes. -/
def claimOf (peer : SocketAddr) (requestedPort : UInt16) (data : List UInt8)
    (source : SocketAddr) : Option SocketAddr :=
  if udpClientAllowed peer requestedPort none source then
    match decodeUdpPacket data with
    | .returns _ => some source
    | _ => none
  else none

def AssociateEvent.claims (peer : SocketAddr) (requestedPort : UInt16) :
    AssociateEvent → Option SocketAddr
  | .datagram (.ok (data, source)) _ _ => claimOf peer requestedPort data source
  | _ => none

/-- A datagram that passes the check of an unclaimed association and decodes. -/
def AssociateEvent.Valid (peer : SocketAddr) (requestedPort : UInt16) (client : SocketAddr)
    (event : AssociateEvent) : Prop :=
  ∃ data send now packet, event = .datagram (.ok (data, client)) send now ∧
    udpClientAllowed peer requestedPort none client = true ∧
    decodeUdpPacket data = .returns packet

theorem claims_eq_some_iff {peer client : SocketAddr} {requestedPort : UInt16}
    {event : AssociateEvent} :
    event.claims peer requestedPort = some client ↔ event.Valid peer requestedPort client := by
  constructor
  · intro claims
    unfold AssociateEvent.claims claimOf at claims
    split at claims
    · next data source send now =>
        split at claims
        · next allowed =>
            split at claims
            · next packet decoded =>
                cases claims
                exact ⟨data, send, now, packet, rfl, allowed, decoded⟩
            · cases claims
        · cases claims
    · cases claims
  · rintro ⟨data, send, now, packet, rfl, allowed, decoded⟩
    simp only [AssociateEvent.claims, claimOf, allowed, if_true, decoded]

theorem claims_eq_none_iff {peer : SocketAddr} {requestedPort : UInt16} {event : AssociateEvent} :
    event.claims peer requestedPort = none ↔ ∀ client, ¬ event.Valid peer requestedPort client := by
  rw [Option.eq_none_iff_forall_ne_some]
  exact forall_congr' fun client => not_congr claims_eq_some_iff

/-- The address that an effect involves. -/
def AssociateEffect.address : AssociateEffect → Option SocketAddr
  | .replied _ => none
  | .forwarded source _ _ => some source
  | .answered _ client => some client

theorem udpClientAllowed_iff {peer source : SocketAddr} {requestedPort : UInt16}
    {clientAddr : Option SocketAddr} :
    udpClientAllowed peer requestedPort clientAddr source = true ↔
      udpClientAllowed peer requestedPort none source = true ∧
        ∀ client, clientAddr = some client → client = source := by
  cases clientAddr <;> simp [udpClientAllowed]

theorem udpClientAllowed_none_iff {peer source : SocketAddr} {requestedPort : UInt16} :
    udpClientAllowed peer requestedPort none source = true ↔
      source.ip.toCanonical = peer.ip.toCanonical ∧
        (requestedPort ≠ 0 → source.port = requestedPort) := by
  simp [udpClientAllowed, Classical.or_iff_not_imp_left]

namespace Associate

variable {peer : SocketAddr} {requestedPort : UInt16} {loop : Associate}

@[simp] theorem sent_clientAddr (loop : Associate) (effect : AssociateEffect)
    (send : Except Failure Unit) (now : Nat) :
    (loop.sent effect send now).clientAddr = loop.clientAddr := by
  cases send <;> rfl

@[simp] theorem sent_trace (loop : Associate) (effect : AssociateEffect)
    (send : Except Failure Unit) (now : Nat) :
    (loop.sent effect send now).trace = loop.trace ++ [effect] := by
  cases send <;> rfl

/-- What one turn may do to the loop: claim it, and have an effect that involves
the client. -/
structure Turn (loop after : Associate) (claim : Option SocketAddr) : Prop where
  clientAddr : after.clientAddr = loop.clientAddr.or claim
  trace : ∃ added, after.trace = loop.trace ++ added ∧
    ∀ effect ∈ added, ∃ client, effect.address = some client ∧ after.clientAddr = some client

theorem Turn.of_same {after : Associate} {claim : Option SocketAddr}
    (same : after.clientAddr = loop.clientAddr) (trace : after.trace = loop.trace)
    (settled : loop.clientAddr = none → claim = none) : Turn loop after claim := by
  refine ⟨?_, [], by rw [trace, List.append_nil], fun _ member => absurd member List.not_mem_nil⟩
  cases claimed : loop.clientAddr with
  | none => rw [same, claimed, settled claimed, Option.none_or]
  | some client => rw [same, claimed, Option.some_or]

theorem handleResponse_turn (loop : Associate) (source : TargetAddr) (payload : List UInt8)
    (send : Except Failure Unit) (now : Nat) :
    Turn loop (loop.handleResponse source payload send now) none := by
  unfold handleResponse
  split
  · exact .of_same rfl rfl fun _ => rfl
  · next client claimed =>
      split
      · exact .of_same rfl rfl fun _ => rfl
      · refine ⟨by simp, _, sent_trace _ _ _ _, fun effect member => ?_⟩
        rw [List.mem_singleton.mp member]
        exact ⟨client, rfl, by rw [sent_clientAddr, claimed]⟩

theorem handleDatagram_turn (loop : Associate) (data : List UInt8) (source : SocketAddr)
    (send : Except Failure Unit) (now : Nat) :
    Turn loop (loop.handleDatagram peer requestedPort data source send now)
      (claimOf peer requestedPort data source) := by
  unfold handleDatagram claimOf
  split
  · next allowed =>
      obtain ⟨fromPeer, own⟩ := udpClientAllowed_iff.mp allowed
      rw [if_pos fromPeer]
      cases decoded : decodeUdpPacket data with
      | returns packet =>
          obtain ⟨target, payload⟩ := packet
          refine ⟨?_, _, sent_trace _ _ _ _, fun effect member => ?_⟩
          · rw [sent_clientAddr]
            cases claimed : loop.clientAddr with
            | none => rfl
            | some client => rw [own client claimed, Option.some_or]
          · rw [List.mem_singleton.mp member]
            exact ⟨source, rfl, sent_clientAddr _ _ _ _⟩
      | fails reason => exact .of_same rfl rfl fun _ => rfl
      | panics => exact .of_same rfl rfl fun _ => rfl
  · next refused =>
      refine .of_same rfl rfl fun unclaimed => if_neg ?_
      rwa [unclaimed] at refused

theorem handle_turn (peer : SocketAddr) (requestedPort : UInt16) (loop : Associate)
    (event : AssociateEvent) :
    Turn loop (loop.handle peer requestedPort event) (event.claims peer requestedPort) := by
  unfold handle
  split
  · exact .of_same rfl rfl fun _ => rfl
  · exact .of_same rfl rfl fun _ => rfl
  · exact .of_same rfl rfl fun _ => rfl
  · exact .of_same rfl rfl fun _ => rfl
  · exact handleResponse_turn loop _ _ _ _
  · exact .of_same rfl rfl fun _ => rfl
  · exact handleDatagram_turn loop _ _ _ _
  · split <;> exact .of_same rfl rfl fun _ => rfl

theorem next_running (running : loop.ended = false) (event : AssociateEvent) :
    (associateMachine peer requestedPort).next loop event =
      loop.handle peer requestedPort event := by
  simp [Machine.next, associateMachine, running]

theorem next_ended (ended : loop.ended = true) (event : AssociateEvent) :
    (associateMachine peer requestedPort).next loop event = loop := by
  simp [Machine.next, associateMachine, ended]

theorem next_clientAddr (running : loop.ended = false) (event : AssociateEvent) :
    ((associateMachine peer requestedPort).next loop event).clientAddr =
      loop.clientAddr.or (event.claims peer requestedPort) := by
  rw [next_running running]
  exact (handle_turn peer requestedPort loop event).clientAddr

/-- A claimed association stays with its client. -/
theorem run_claimed (peer : SocketAddr) (requestedPort : UInt16) {client : SocketAddr}
    (claimed : loop.clientAddr = some client) (events : List AssociateEvent) :
    ((associateMachine peer requestedPort).run loop events).clientAddr = some client := by
  have keeps : ∀ loop event, loop.clientAddr = some client →
      ((associateMachine peer requestedPort).next loop event).clientAddr = some client := by
    intro loop event claimed
    cases ended : loop.ended with
    | true => rwa [next_ended ended]
    | false => rw [next_clientAddr ended, claimed, Option.some_or]
  exact (associateMachine peer requestedPort).run_invariant keeps claimed events

theorem run_unclaimed (unclaimed : loop.clientAddr = none) {events : List AssociateEvent}
    (silent : ∀ event ∈ events, event.claims peer requestedPort = none) :
    ((associateMachine peer requestedPort).run loop events).clientAddr = none := by
  have keeps : ∀ loop (event : AssociateEvent), event.claims peer requestedPort = none →
      loop.clientAddr = none →
        ((associateMachine peer requestedPort).next loop event).clientAddr = none := by
    intro loop event silent unclaimed
    cases ended : loop.ended with
    | true => rwa [next_ended ended]
    | false => rw [next_clientAddr ended, unclaimed, silent, Option.none_or]
  exact (associateMachine peer requestedPort).run_invariant_of_forall keeps unclaimed silent

theorem run_of_ended (ended : loop.ended = true) (events : List AssociateEvent) :
    (associateMachine peer requestedPort).run loop events = loop := by
  have keeps : ∀ state event, state = loop →
      (associateMachine peer requestedPort).next state event = loop := by
    rintro state event rfl
    exact next_ended ended event
  exact (associateMachine peer requestedPort).run_invariant keeps rfl events

/-- The first claim that the loop sees decides. -/
theorem run_clientAddr_iff (unclaimed : loop.clientAddr = none) (events : List AssociateEvent)
    (client : SocketAddr) :
    ((associateMachine peer requestedPort).run loop events).clientAddr = some client ↔
      ∃ before event after, events = before ++ event :: after ∧
        ((associateMachine peer requestedPort).run loop before).ended = false ∧
        (∀ earlier ∈ before, earlier.claims peer requestedPort = none) ∧
        event.claims peer requestedPort = some client := by
  constructor
  · intro claimed
    induction events generalizing loop with
    | nil => cases unclaimed.symm.trans claimed
    | cons event events ih =>
        cases ended : loop.ended with
        | true =>
            rw [run_of_ended ended] at claimed
            cases unclaimed.symm.trans claimed
        | false =>
            have turned : ((associateMachine peer requestedPort).next loop event).clientAddr =
                event.claims peer requestedPort := by
              rw [next_clientAddr ended, unclaimed, Option.none_or]
            cases claim : event.claims peer requestedPort with
            | some other =>
                have stays := run_claimed peer requestedPort (turned.trans claim) events
                cases stays.symm.trans claimed
                exact ⟨[], event, events, rfl, ended, by simp, claim⟩
            | none =>
                obtain ⟨before, later, after, split, running, silent, claims⟩ :=
                  ih (turned.trans claim) claimed
                exact ⟨event :: before, later, after, by rw [split, List.cons_append], running,
                  List.forall_mem_cons.mpr ⟨claim, silent⟩, claims⟩
  · rintro ⟨before, event, after, rfl, running, silent, claims⟩
    rw [Machine.run_append, Machine.run_cons]
    refine run_claimed peer requestedPort ?_ after
    rw [next_clientAddr running, run_unclaimed unclaimed silent, claims, Option.none_or]

/-- The client passes the check, and every effect involves the client. -/
structure Bound (peer : SocketAddr) (requestedPort : UInt16) (loop : Associate) : Prop where
  allowed : ∀ client, loop.clientAddr = some client →
    udpClientAllowed peer requestedPort none client = true
  effects : ∀ effect ∈ loop.trace, ∀ address, effect.address = some address →
    loop.clientAddr = some address

theorem Bound.turn (bound : loop.Bound peer requestedPort) {event : AssociateEvent}
    {after : Associate} (turn : Turn loop after (event.claims peer requestedPort)) :
    after.Bound peer requestedPort := by
  obtain ⟨added, grown, caused⟩ := turn.trace
  refine ⟨fun client claimed => ?_, fun effect member address involves => ?_⟩
  · rw [turn.clientAddr, Option.or_eq_some_iff] at claimed
    rcases claimed with earlier | ⟨-, claims⟩
    · exact bound.allowed client earlier
    · obtain ⟨-, -, -, -, -, allowed, -⟩ := claims_eq_some_iff.mp claims
      exact allowed
  · rw [grown, List.mem_append] at member
    rcases member with earlier | later
    · rw [turn.clientAddr, bound.effects effect earlier address involves, Option.some_or]
    · obtain ⟨client, involved, claimed⟩ := caused effect later
      cases involves.symm.trans involved
      exact claimed

theorem Bound.run (bound : loop.Bound peer requestedPort) (events : List AssociateEvent) :
    ((associateMachine peer requestedPort).run loop events).Bound peer requestedPort := by
  refine (associateMachine peer requestedPort).run_invariant (fun loop event bound => ?_) bound
    events
  cases ended : loop.ended with
  | true => rwa [next_ended ended]
  | false =>
      rw [next_running ended]
      exact bound.turn (handle_turn peer requestedPort loop event)

theorem bound_new (controlAddr udpAddr : SocketAddr) (now : Nat) :
    (new controlAddr udpAddr now).Bound peer requestedPort := by
  refine ⟨fun client claimed => (Option.some_ne_none client claimed.symm).elim, ?_⟩
  intro effect member address involves
  rw [List.mem_singleton.mp member] at involves
  exact (Option.some_ne_none address involves.symm).elim

/-- Before the claim a response is dropped; afterwards it goes to the client. -/
theorem next_response (running : loop.ended = false) (source : TargetAddr) (payload : List UInt8)
    (send : Except Failure Unit) (now : Nat) :
    ((associateMachine peer requestedPort).next loop
        (.response (.ok (source, payload)) send now)).trace =
      loop.trace ++ match loop.clientAddr, encodeUdpPacket source payload with
        | some client, .ok packet => [.answered packet client]
        | _, _ => [] := by
  rw [next_running running]
  simp only [handle, handleResponse]
  cases loop.clientAddr with
  | none => simp
  | some client =>
      cases encodeUdpPacket source payload with
      | error reason => simp
      | ok packet => simp

end Associate

/-- An association serves one client.  Whatever arrives from wherever, all that
is forwarded comes from one address on the peer's host, fixed by the first valid
datagram, and all responses go there. -/
theorem association_serves_one_client (peer controlAddr udpAddr : SocketAddr)
    (target : TargetAddr) (start : Nat) (events : List AssociateEvent) :
    let machine := associateMachine peer target.port
    let loop := machine.run (.new controlAddr udpAddr start) events
    (∀ source target payload, .forwarded source target payload ∈ loop.trace →
      loop.clientAddr = some source) ∧
    (∀ packet client, .answered packet client ∈ loop.trace → loop.clientAddr = some client) ∧
    (∀ client, loop.clientAddr = some client →
      client.ip.toCanonical = peer.ip.toCanonical ∧
        (target.port ≠ 0 → client.port = target.port) ∧
        ∀ more, (machine.run loop more).clientAddr = some client) ∧
    (∀ client, loop.clientAddr = some client ↔
      ∃ before event after, events = before ++ event :: after ∧
        (machine.run (.new controlAddr udpAddr start) before).ended = false ∧
        (∀ earlier ∈ before, ∀ other, ¬ earlier.Valid peer target.port other) ∧
        event.Valid peer target.port client) ∧
    (loop.ended = false → ∀ source payload send now,
      (machine.next loop (.response (.ok (source, payload)) send now)).trace =
        loop.trace ++ match loop.clientAddr, encodeUdpPacket source payload with
          | some client, .ok packet => [.answered packet client]
          | _, _ => []) := by
  have bound : ((associateMachine peer target.port).run
      (.new controlAddr udpAddr start) events).Bound peer target.port :=
    (Associate.bound_new controlAddr udpAddr start).run events
  refine ⟨?_, ?_, ?_, ?_, ?_⟩
  · exact fun source target payload member => bound.effects _ member source rfl
  · exact fun packet client member => bound.effects _ member client rfl
  · intro client claimed
    obtain ⟨host, port⟩ := udpClientAllowed_none_iff.mp (bound.allowed client claimed)
    exact ⟨host, port, fun more => Associate.run_claimed peer target.port claimed more⟩
  · intro client
    rw [Associate.run_clientAddr_iff rfl]
    simp only [claims_eq_none_iff, claims_eq_some_iff]
  · exact fun running source payload send now =>
      Associate.next_response running source payload send now

/-- A stranger's packet, a malformed one, and then the client's. -/
theorem sample_association_serves_one_client :
    ((associateMachine (.v4 loopback 40000) 0).run
      (.new (.v4 loopback 1080) (.v4 loopback 5000) 0)
      [.datagram (.ok ([0, 0, 0, 1, 127, 0, 0, 1, 0, 53, 1], .v4 ⟨[10, 0, 0, 1], rfl⟩ 9))
          (.ok ()) 1,
        .datagram (.ok ([0, 0], .v4 loopback 9)) (.ok ()) 2,
        .datagram (.ok ([0, 0, 0, 1, 127, 0, 0, 1, 0, 53, 1], .v4 loopback 8)) (.ok ()) 3]
      ).clientAddr = some (.v4 loopback 8) := by
  refine ((association_serves_one_client (.v4 loopback 40000) (.v4 loopback 1080)
    (.v4 loopback 5000) (.ip (.v4 loopback 0)) 0 _).2.2.2.1 _).mpr
    ⟨_, _, _, (rfl : _ = [_, _] ++ _ :: []), rfl, ?_, ?_⟩
  · intro earlier member
    rw [← claims_eq_none_iff]
    revert earlier
    decide +kernel
  · exact claims_eq_some_iff.mp (by decide +kernel)

end Rtunnel.Socks5
