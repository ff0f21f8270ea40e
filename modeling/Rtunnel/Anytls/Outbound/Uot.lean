import Rtunnel.Anytls.Uot
import Rtunnel.Data.Machine

namespace Rtunnel.Anytls.Outbound

open Rtunnel.Data Rtunnel.Anytls.Uot

/-! The client's side of UDP over TCP.

One stream carries the datagrams to one target.  A task writes the request, then
every payload it is given, and hands on every payload it reads.  The read of a
response is kept while payloads are written.
-/

/-- A stream's task, with all it was given and all it did, each in its order. -/
structure UotRelay where
  incoming : List UInt8
  eof : Bool
  pending : Demand Failure (List UInt8)
  result : Option (Except Failure Unit)
  received : List UInt8
  payloads : List (List UInt8)
  written : List UInt8
  delivered : List (TargetAddr × List UInt8)

inductive RelayEvent where
  | arrive (bytes : List UInt8)
  | close
  | payload (payload : List UInt8) (write : Except Failure Unit)
  | hangUp
  | poll (taken : Bool)
deriving DecidableEq

namespace UotRelay

/-- Nothing is read before the request is written. -/
def start (target : TargetAddr) (modeWrite addressWrite : Except Failure Unit) : UotRelay :=
  let (written, requested) := writeUotV2Request true target modeWrite addressWrite
  { incoming := []
    eof := false
    pending := readUotPayload
    result := match requested with
      | .error reason => some (.error reason)
      | .ok () => none
    received := []
    payloads := []
    written := written
    delivered := [] }

def writePayload (relay : UotRelay) (payload : List UInt8) (write : Except Failure Unit) :
    UotRelay :=
  let relay := { relay with payloads := relay.payloads ++ [payload] }
  match encodeUotPayload payload with
  | .error reason => { relay with result := some (.error reason) }
  | .ok data =>
      match write with
      | .ok () => { relay with written := relay.written ++ data }
      | .error reason => { relay with result := some (.error reason) }

/-- Go on with the read.  A response that nobody takes ends the task. -/
def poll (target : TargetAddr) (relay : UotRelay) (taken : Bool) : UotRelay :=
  match relay.pending.advance relay.incoming with
  | (.done payload, rest) =>
      if taken then
        { relay with
          pending := readUotPayload
          incoming := rest
          delivered := relay.delivered ++ [(target, payload)] }
      else { relay with result := some (.ok ()) }
  | (.fail reason, _) => { relay with result := some (.error reason) }
  | (.need width ended next, rest) =>
      if relay.eof then { relay with result := some (.error ended) }
      else { relay with pending := .need width ended next, incoming := rest }

def step (target : TargetAddr) (relay : UotRelay) : RelayEvent → UotRelay
  | .arrive bytes =>
      { relay with
        incoming := relay.incoming ++ bytes
        received := relay.received ++ bytes }
  | .close => { relay with eof := true }
  | .payload payload write =>
      if relay.result.isSome then relay else relay.writePayload payload write
  | .hangUp => if relay.result.isSome then relay else { relay with result := some (.ok ()) }
  | .poll taken => if relay.result.isSome then relay else relay.poll target taken

end UotRelay

def relayMachine (target : TargetAddr) : Machine UotRelay RelayEvent Unit :=
  ⟨fun relay event => (relay.step target event, ())⟩

namespace UotRelay

/-- What was delivered is what the stream held first, and the pending read
stands for the rest. -/
structure Standing (target : TargetAddr) (request : List UInt8) (relay : UotRelay) : Prop where
  running : relay.result = none
  isOpen : relay.eof = false
  wrote : ∃ body, encodeDatagrams true (relay.payloads.map (Prod.mk target)) = .ok body ∧
    relay.written = request ++ body
  reads : ∃ read rest, relay.received = read ++ rest ∧
    readUotPayload.Spans read (relay.delivered.map Prod.snd) ∧
    relay.pending.advance relay.incoming = readUotPayload.advance rest
  addressed : ∀ response ∈ relay.delivered, response.1 = target

/-- Nothing fails around the task, and it is not asked to stop. -/
def Fine : RelayEvent → Prop
  | .arrive _ => True
  | .close => False
  | .payload payload write => write = .ok () ∧ ∃ data, encodeUotPayload payload = .ok data
  | .hangUp => False
  | .poll taken => taken = true

variable {target : TargetAddr} {request : List UInt8} {relay : UotRelay}

theorem Standing.arrive (standing : relay.Standing target request) (bytes : List UInt8) :
    (relay.step target (.arrive bytes)).Standing target request := by
  obtain ⟨read, rest, received, spans, same⟩ := standing.reads
  refine ⟨standing.running, standing.isOpen, standing.wrote, ⟨read, rest ++ bytes, ?_, spans,
    Demand.advance_append_congr same bytes⟩, standing.addressed⟩
  simp only [step, received, List.append_assoc]

theorem Standing.step_payload (standing : relay.Standing target request) (payload : List UInt8)
    (write : Except Failure Unit) :
    relay.step target (.payload payload write) = relay.writePayload payload write := by
  rw [UotRelay.step, standing.running]
  rfl

theorem Standing.payload (standing : relay.Standing target request) {payload data : List UInt8}
    (encoded : encodeUotPayload payload = .ok data) :
    (relay.step target (.payload payload (.ok ()))).Standing target request := by
  obtain ⟨body, wrote, written⟩ := standing.wrote
  have stepped : relay.step target (.payload payload (.ok ())) =
      { relay with
        payloads := relay.payloads ++ [payload]
        written := relay.written ++ data } := by
    rw [standing.step_payload, writePayload, encoded]
  rw [stepped]
  refine ⟨standing.running, standing.isOpen, ⟨body ++ data, ?_, ?_⟩, standing.reads,
    standing.addressed⟩
  · rw [List.map_append]
    exact encodeDatagrams_snoc wrote encoded
  · rw [written, List.append_assoc]

/-- What a poll does while nothing fails: the next response is delivered, or
the read waits. -/
theorem Standing.poll_cases (standing : relay.Standing target request) :
    (∃ payload rest, relay.pending.advance relay.incoming = (.done payload, rest) ∧
      relay.step target (.poll true) =
        { relay with
          pending := readUotPayload
          incoming := rest
          delivered := relay.delivered ++ [(target, payload)] }) ∨
    ((relay.pending.advance relay.incoming).1.waits = true ∧
      relay.step target (.poll true) =
        { relay with
          pending := (relay.pending.advance relay.incoming).1
          incoming := (relay.pending.advance relay.incoming).2 }) := by
  obtain ⟨_, rest, _, _, same⟩ := standing.reads
  have stepped : relay.step target (.poll true) = relay.poll target true := by
    rw [step, standing.running]
    rfl
  rw [stepped, UotRelay.poll]
  cases advanced : relay.pending.advance relay.incoming with
  | mk kept left =>
      cases kept with
      | done payload => exact .inl ⟨payload, left, rfl, rfl⟩
      | fail reason =>
          exact absurd (same.symm.trans advanced) (lenPayload_not_fail rest reason left)
      | need width next =>
          refine .inr ⟨rfl, ?_⟩
          simp only [standing.isOpen, Bool.false_eq_true, if_false]

theorem Standing.poll (standing : relay.Standing target request) :
    (relay.step target (.poll true)).Standing target request := by
  obtain ⟨read, rest, received, spans, same⟩ := standing.reads
  rcases standing.poll_cases with ⟨payload, left, advanced, stepped⟩ | ⟨_, stepped⟩
  · rw [stepped]
    obtain ⟨used, front, reads⟩ := Demand.Reads.of_advance (same.symm.trans advanced)
    refine ⟨standing.running, standing.isOpen, standing.wrote,
      ⟨read ++ used, left, ?_, ?_, rfl⟩, ?_⟩
    · rw [received, front, List.append_assoc]
    · rw [List.map_append]
      exact spans.snoc reads
    · intro response member
      rcases List.mem_append.mp member with earlier | latest
      · exact standing.addressed response earlier
      · rw [List.mem_singleton.mp latest]
  · rw [stepped]
    refine ⟨standing.running, standing.isOpen, standing.wrote,
      ⟨read, rest, received, spans, ?_⟩, standing.addressed⟩
    have resumed := relay.pending.advance_resume relay.incoming []
    rw [List.append_nil, List.append_nil] at resumed
    exact resumed.trans same

theorem Standing.step (standing : relay.Standing target request) {event : RelayEvent}
    (fine : Fine event) : (relay.step target event).Standing target request := by
  cases event with
  | arrive bytes => exact standing.arrive bytes
  | close => exact fine.elim
  | payload payload write =>
      obtain ⟨rfl, data, encoded⟩ := fine
      exact standing.payload encoded
  | hangUp => exact fine.elim
  | poll taken =>
      cases fine
      exact standing.poll

theorem start_eq
    (requested : writeUotV2Request true target (.ok ()) (.ok ()) = (request, .ok ())) :
    UotRelay.start target (.ok ()) (.ok ()) =
      { incoming := [], eof := false, pending := readUotPayload, result := none, received := [],
        payloads := [], written := request, delivered := [] } := by
  rw [UotRelay.start, requested]

theorem Standing.start
    (requested : writeUotV2Request true target (.ok ()) (.ok ()) = (request, .ok ())) :
    (UotRelay.start target (.ok ()) (.ok ())).Standing target request := by
  rw [start_eq requested]
  exact ⟨rfl, rfl, ⟨[], rfl, (List.append_nil _).symm⟩, ⟨[], [], rfl, .nil, rfl⟩, by simp⟩

end UotRelay

def RelayEvent.arrival : RelayEvent → List UInt8
  | .arrive bytes => bytes
  | _ => []

def RelayEvent.given : RelayEvent → Option (List UInt8)
  | .payload bytes _ => some bytes
  | _ => none

def arrivals (events : List RelayEvent) : List UInt8 := events.flatMap RelayEvent.arrival

def givenPayloads (events : List RelayEvent) : List (List UInt8) :=
  events.filterMap RelayEvent.given

namespace UotRelay

variable {target : TargetAddr} {request : List UInt8} {relay : UotRelay}

theorem Standing.step_logs (standing : relay.Standing target request) {event : RelayEvent}
    (fine : Fine event) :
    (relay.step target event).received = relay.received ++ event.arrival ∧
    (relay.step target event).payloads = relay.payloads ++ event.given.toList := by
  cases event with
  | arrive bytes => exact ⟨rfl, (List.append_nil _).symm⟩
  | close => exact fine.elim
  | payload payload write =>
      obtain ⟨rfl, data, encoded⟩ := fine
      rw [standing.step_payload, writePayload, encoded]
      exact ⟨(List.append_nil _).symm, rfl⟩
  | hangUp => exact fine.elim
  | poll taken =>
      cases fine
      rcases standing.poll_cases with ⟨payload, left, advanced, stepped⟩ | ⟨_, stepped⟩ <;>
        rw [stepped] <;>
        exact ⟨(List.append_nil _).symm, (List.append_nil _).symm⟩

theorem Standing.run (standing : relay.Standing target request) {events : List RelayEvent}
    (fine : ∀ event ∈ events, Fine event) :
    ((relayMachine target).run relay events).Standing target request ∧
    ((relayMachine target).run relay events).received = relay.received ++ arrivals events ∧
    ((relayMachine target).run relay events).payloads = relay.payloads ++ givenPayloads events := by
  induction events generalizing relay with
  | nil => exact ⟨standing, (List.append_nil _).symm, (List.append_nil _).symm⟩
  | cons event events ih =>
      have now := fine event List.mem_cons_self
      obtain ⟨received, given⟩ := standing.step_logs now
      obtain ⟨stands, allReceived, allGiven⟩ := ih (standing.step now) fun other member =>
        fine other (List.mem_cons_of_mem event member)
      refine ⟨stands, allReceived.trans ?_, allGiven.trans ?_⟩
      · rw [received, List.append_assoc]
        rfl
      · rw [given, List.append_assoc]
        cases found : event.given <;> simp [givenPayloads, found]

/-- The responses of a stream are its bytes decoded. -/
theorem encodeDatagrams_of_spans {responses : List (TargetAddr × List UInt8)} {read : List UInt8}
    (spans : readUotPayload.Spans read (responses.map Prod.snd)) :
    encodeDatagrams true responses = .ok read := by
  induction responses generalizing read with
  | nil =>
      cases spans
      rfl
  | cons response responses ih =>
      rw [List.map_cons] at spans
      generalize values : response.2 :: responses.map Prod.snd = all at spans
      cases spans with
      | nil => cases values
      | cons first rest =>
          cases values
          rw [encodeDatagrams, ih rest]
          have encoded : encodeDatagram true response = .ok _ := encodeUotPayload_of_reads first
          rw [encoded]
          rfl

/-- A stream whose next response is not whole does not start with one. -/
theorem not_prefix_of_waits {rest : List UInt8}
    (waits : (readUotPayload.advance rest).1.waits = true) {payload data : List UInt8}
    (encoded : encodeUotPayload payload = .ok data) : ¬ data <+: rest := by
  rintro ⟨later, rfl⟩
  rw [readUotPayload, reads_lenPayload encoded later] at waits
  cases waits

theorem Standing.delivered_length (standing : relay.Standing target request) :
    relay.delivered.length ≤ relay.received.length := by
  obtain ⟨read, rest, received, spans, _⟩ := standing.reads
  have bound := spans.length_le rfl
  rw [List.length_map] at bound
  rw [received, List.length_append]
  omega

def polls (count : Nat) : List RelayEvent := List.replicate count (.poll true)

theorem polls_fine (count : Nat) : ∀ event ∈ polls count, Fine event := by
  intro event member
  rw [List.eq_of_mem_replicate member]
  rfl

theorem arrivals_polls (count : Nat) : arrivals (polls count) = [] := by
  rw [arrivals, List.flatMap_eq_nil_iff]
  intro event member
  rw [List.eq_of_mem_replicate member]
  rfl

/-- Polled often enough, the task delivers every response that has arrived. -/
theorem Standing.drained (standing : relay.Standing target request) :
    ∃ count, (((relayMachine target).run relay (polls count)).pending.advance
      ((relayMachine target).run relay (polls count)).incoming).1.waits = true := by
  induction ahead : relay.received.length - relay.delivered.length using Nat.strong_induction_on
    generalizing relay with
  | _ size ih =>
      rcases standing.poll_cases with ⟨payload, left, _, stepped⟩ | ⟨waits, _⟩
      · have after := standing.poll
        have smaller : (relay.step target (.poll true)).received.length -
            (relay.step target (.poll true)).delivered.length < size := by
          have bound := after.delivered_length
          rw [stepped, List.length_append, List.length_singleton] at bound
          rw [stepped, List.length_append, List.length_singleton]
          dsimp only at bound ⊢
          omega
        obtain ⟨count, waits⟩ := ih _ smaller after rfl
        exact ⟨count + 1, waits⟩
      · exact ⟨0, waits⟩

end UotRelay

end Rtunnel.Anytls.Outbound
