import Rtunnel.Anytls.Inbound.UotRelay
import Rtunnel.Anytls.Outbound.Uot

namespace Rtunnel.Anytls

open Rtunnel.Data

/-! Datagrams survive the trip over a stream, in both directions. -/

/-- The server, which reads `input`, sends on what the client wrote and writes back
what it received; the client, which relays for `target`, writes what it was given
and delivers what it received.  Neither depends on where the streams are cut or
on what happens in between. -/
theorem datagrams_survive_stream
    (input : Inbound.UotInput) (tag : String) (streamId : UInt32)
    (events : List Inbound.UotEvent)
    (fine : (Inbound.uotMachine tag streamId).Meets Inbound.UotStream.Fine .new events)
    (front : Inbound.arrivals events <+: input.bytes)
    (target : TargetAddr) {request : List UInt8}
    (requested : writeUotV2Request true target (.ok ()) (.ok ()) = (request, .ok ()))
    (steps : List Outbound.RelayEvent) (calm : ∀ step ∈ steps, Outbound.UotRelay.Fine step) :
    let stream := (Inbound.uotMachine tag streamId).run .new events
    let relay := (Outbound.relayMachine target).run (.start target (.ok ()) (.ok ())) steps
    (stream.sent <+: input.datagrams ∧ stream.dialled <+: [input.session tag] ∧
      stream.wrote.map (fun frame => Except.ok frame.data) =
        (Inbound.responses events).map (encodeDatagram input.connect) ∧
      (∀ frame ∈ stream.wrote, frame.command = .psh ∧ frame.streamId = streamId) ∧
      (Inbound.arrivals events = input.bytes → ∃ count,
        let later := (Inbound.uotMachine tag streamId).run stream (Inbound.UotInput.polls count)
        later.sent = input.datagrams ∧ later.dialled = [input.session tag])) ∧
    ((∃ body, encodeDatagrams true ((Outbound.givenPayloads steps).map (Prod.mk target)) =
        .ok body ∧ relay.written = request ++ body) ∧
      (∃ read rest, Outbound.arrivals steps = read ++ rest ∧
        encodeDatagrams true relay.delivered = .ok read ∧
        ∀ response ∈ relay.delivered, response.1 = target) ∧
      ∃ count read rest,
        let later := (Outbound.relayMachine target).run relay (Outbound.UotRelay.polls count)
        Outbound.arrivals steps = read ++ rest ∧
        encodeDatagrams true later.delivered = .ok read ∧
        ∀ payload data, encodeUotPayload payload = .ok data → ¬ data <+: rest) := by
  intro stream relay
  refine ⟨?_, ?_⟩
  · obtain ⟨standing, received, answered⟩ := Inbound.UotStream.Standing.new.run fine
    have arrived : stream.received = Inbound.arrivals events := received
    have asked : stream.answered = Inbound.responses events := answered
    obtain ⟨sent, dialled, wrote, framed⟩ :=
      Inbound.UotInput.standing_relays standing (arrived ▸ front)
    refine ⟨sent, dialled, asked ▸ wrote, framed, fun whole => ?_⟩
    exact Inbound.UotInput.handled_after_polls standing (arrived.trans whole)
  · obtain ⟨standing, received, given⟩ :=
      (Outbound.UotRelay.Standing.start requested).run calm
    rw [Outbound.UotRelay.start_eq requested, List.nil_append,
      ← Outbound.UotRelay.start_eq requested] at received given
    obtain ⟨body, encoded, written⟩ := standing.wrote
    rw [given] at encoded
    refine ⟨⟨body, encoded, written⟩, ?_, ?_⟩
    · obtain ⟨read, rest, split, spans, _⟩ := standing.reads
      rw [received] at split
      exact ⟨read, rest, split, Outbound.UotRelay.encodeDatagrams_of_spans spans,
        standing.addressed⟩
    · obtain ⟨count, waits⟩ := standing.drained
      obtain ⟨after, arrived, _⟩ := standing.run (Outbound.UotRelay.polls_fine count)
      obtain ⟨read, rest, split, spans, same⟩ := after.reads
      rw [same] at waits
      rw [arrived, received, Outbound.UotRelay.arrivals_polls, List.append_nil] at split
      exact ⟨count, read, rest, split, Outbound.UotRelay.encodeDatagrams_of_spans spans,
        fun payload data => Outbound.UotRelay.not_prefix_of_waits waits⟩

def resolver : TargetAddr := .ip (.v4 loopback 53)

/-- One query to a resolver, in packet mode. -/
def sampleInput : Inbound.UotInput where
  mode := 0
  target := resolver
  address := [1, 127, 0, 0, 1, 0, 53]
  datagrams := [(resolver, [7])]
  body := [0, 127, 0, 0, 1, 0, 53, 0, 1, 7]
  requested := by decide +kernel
  encoded := by decide +kernel
  portable := by decide +kernel
  bound := by decide +kernel

/-- The query is cut inside its address, and answered. -/
def sampleEvents : List Inbound.UotEvent :=
  [.arrive (sampleInput.bytes.take 11), .poll (.ok ()) (.ok ()), .poll (.ok ()) (.ok ()),
    .arrive (sampleInput.bytes.drop 11), .respond (.ok (resolver, [9])) (.ok ()),
    .poll (.ok ()) (.ok ())]

def sampleSteps : List Outbound.RelayEvent :=
  [.payload [7] (.ok ()), .arrive [0], .poll true, .arrive [1, 9], .poll true]

theorem sample_query_survives_stream :
    (Inbound.uotMachine "in" 3).Meets Inbound.UotStream.Fine .new sampleEvents ∧
    Inbound.arrivals sampleEvents = sampleInput.bytes ∧
    (∃ count, ((Inbound.uotMachine "in" 3).run ((Inbound.uotMachine "in" 3).run .new sampleEvents)
      (Inbound.UotInput.polls count)).sent = [(resolver, [7])]) ∧
    ∃ body, encodeDatagrams true ((Outbound.givenPayloads sampleSteps).map (Prod.mk resolver)) =
        .ok body ∧
      ((Outbound.relayMachine resolver).run (.start resolver (.ok ()) (.ok ()))
        sampleSteps).written = [1, 1, 127, 0, 0, 1, 0, 53] ++ body := by
  have fine : (Inbound.uotMachine "in" 3).Meets Inbound.UotStream.Fine .new sampleEvents :=
    ⟨trivial, ⟨rfl, rfl⟩, ⟨rfl, rfl⟩, trivial, ⟨rfl, _, rfl, ⟨_, rfl, by decide⟩⟩, ⟨rfl, rfl⟩,
      trivial⟩
  have arrived : Inbound.arrivals sampleEvents = sampleInput.bytes := by decide +kernel
  have calm : ∀ step ∈ sampleSteps, Outbound.UotRelay.Fine step := by
    simp only [sampleSteps, List.mem_cons, List.not_mem_nil, or_false]
    rintro step (rfl | rfl | rfl | rfl | rfl)
    · exact ⟨rfl, _, rfl⟩
    · trivial
    · rfl
    · trivial
    · rfl
  have requested : writeUotV2Request true resolver (.ok ()) (.ok ()) =
      ([1, 1, 127, 0, 0, 1, 0, 53], .ok ()) := by decide +kernel
  obtain ⟨⟨_, _, _, _, complete⟩, written, _⟩ := datagrams_survive_stream sampleInput "in" 3
    sampleEvents fine (arrived ▸ List.prefix_rfl) resolver requested sampleSteps calm
  obtain ⟨count, sent, _⟩ := complete arrived
  exact ⟨fine, arrived, ⟨count, sent⟩, written⟩

end Rtunnel.Anytls
