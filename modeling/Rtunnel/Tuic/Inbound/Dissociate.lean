import Rtunnel.Tuic.Fragmentation
import Rtunnel.Tuic.Inbound.Alike

namespace Rtunnel.Tuic.Inbound

open Rtunnel.Data

/-! What DISSOCIATE leaves behind.

A run is compared with the run in which the packets of one association were
never sent.  Up to DISSOCIATE the two connections stay `Alike`.  DISSOCIATE ends
the relay but keeps the fragments, so the runs agree afterwards exactly if the
first one holds no fragment of the association at that moment.
-/

variable {setting : Setting}

/-- What reaches a connection: a whole command of a unidirectional stream, or an
event that is not a chunk of such a stream. -/
inductive Delivery where
  | command (now : Nat) (order : IterationOrder UInt64 PendingStream) (data : List UInt8)
  | event (event : Event)
      (whole : ∀ now order streamId data fin, event ≠ .uniStream now order streamId data fin)

def App.receive (app : App setting) : Delivery → App.Result setting
  | .command now order data => app.handleUnidirectionalCommand now order data
  | .event event _ => app.step event

/-- The last chunk of a unidirectional stream delivers the stream's bytes as one
command; the stream itself is forgotten. -/
theorem App.handleUnidirectionalStream_eq_receive {app : App setting}
    (inside : app.authenticated = true) {streamId : UInt64} {held : List UInt8}
    (collected : (app.uniStreams.lookup streamId).getD (.receiving []) = .receiving held)
    (now : Nat) (order : IterationOrder UInt64 PendingStream) (data : List UInt8)
    (trimmed : authComplete setting (held ++ data) = true →
      (held ++ data).length = authenticateLen) :
    app.handleUnidirectionalStream now order streamId data true =
      ({ app with uniStreams := (app.uniStreams.insert streamId
          (.receiving (held ++ data))).erase streamId } : App setting).receive
        (.command now order (held ++ data)) := by
  have reserved : app.reservePreAuth now data.length (newItems app.uniStreams streamId) =
      (app, .ok ()) := by
    simp [App.reservePreAuth, App.checkAuthenticationDeadline, inside]
  have fits : ¬ (authComplete setting (held ++ data) = true ∧
      (held ++ data).length ≠ authenticateLen) := fun extra => extra.2 (trimmed extra.1)
  unfold App.handleUnidirectionalStream
  rw [reserved, Attempt.andThen_ok, collected]
  unfold App.advanceUniStream
  simp only [if_neg fits, Bool.true_eq_false, false_and, ↓reduceIte]
  rfl

/-- A PACKET command or datagram of the association. -/
def carriesPacket (core : TuicCore) (assocId : UInt16) (data : List UInt8) : Bool :=
  decide (data[1]? = some core.typeCodePacket) &&
    match parsePacket core data with
    | .ok packet => decide (packet.assocId = assocId)
    | .error _ => false

namespace Delivery

def carries (core : TuicCore) (assocId : UInt16) : Delivery → Bool
  | .command _ _ data => carriesPacket core assocId data
  | .event (.datagram _ data) _ => carriesPacket core assocId data
  | .event _ _ => false

/-- Handling the delivery finds no fragment old enough to be dropped. -/
def EvictsNothing (app : App setting) : Delivery → Prop
  | .command now _ _ | .event (.datagram now _) _ =>
      app.packetAssembler.evictIdle now fragmentIdleTimeout = app.packetAssembler
  | .event _ _ => True

/-- A complete DISSOCIATE command for the association. -/
def Dissociates (core : TuicCore) (assocId : UInt16) : Delivery → Prop
  | .command _ _ data =>
      data[1]? = some core.typeCodeDissociate ∧ parseDissociate core data = .ok assocId
  | .event _ _ => False

end Delivery

def App.untraced (app : App setting) : App setting := { app with trace := [] }

/-- Each delivery answers with its result and the effects it had. -/
def deliveryMachine (setting : Setting) :
    Machine (App setting) Delivery (Except Error Unit × List Effect) :=
  ⟨fun app delivery =>
    let done := app.untraced.receive delivery
    (done.1, (done.2, done.1.trace))⟩

def App.HoldsFragmentOf (app : App setting) (assocId : UInt16) : Prop :=
  ∃ pktId, app.packetAssembler.group (assocId, pktId) ≠ none

/-- No fragment of the association is held exactly if setting them apart
changes nothing. -/
theorem apart_eq_self_iff {app : App setting} {assocId : UInt16} :
    apart app.packetAssembler assocId = app.packetAssembler ↔ ¬ app.HoldsFragmentOf assocId := by
  constructor
  · rintro clean ⟨pktId, held⟩
    refine held ?_
    rw [PacketAssembler.group, ← clean]
    simp only [apart, KeyedMap.lookup_retain]
    cases app.packetAssembler.fragments.lookup (assocId, pktId) <;> simp [Option.filter]
  · intro free
    refine congrArg PacketAssembler.mk (KeyedMap.retain_of_forall ?_)
    intro key entry found
    refine decide_eq_true fun same => free ⟨key.2, ?_⟩
    rw [PacketAssembler.group, ← same, Prod.mk.eta, found]
    exact Option.some_ne_none entry

namespace Alike

variable {assocId : UInt16} {first second : App setting}

theorem putOwnSession (alike : Alike assocId first second) (session : UdpSession) :
    Alike assocId (first.putUdpSession assocId session) second :=
  ⟨alike.rest, alike.serving, (KeyedMap.erase_insert_self _ _ _).trans alike.sessions,
    alike.fragments, alike.clean⟩

theorem emitOwn (alike : Alike assocId first second) (effect : Effect) :
    Alike assocId (first.emit effect) second :=
  ⟨alike.rest, alike.serving, alike.sessions, alike.fragments, alike.clean⟩

theorem deliverOwn (alike : Alike assocId first second) {packet : Packet}
    (own : packet.assocId = assocId) (target : TargetAddr) (mode : UdpMode) (now : Nat) :
    Alike assocId (first.deliver packet target mode now).1 second := by
  subst own
  have opened : Alike packet.assocId (first.udpSession packet.assocId mode now).1 second := by
    unfold App.udpSession
    cases first.udpSessions.lookup packet.assocId with
    | some session => exact alike
    | none => exact (alike.putOwnSession _).emitOwn _
  unfold App.deliver
  dsimp only
  split
  · exact opened
  · cases (first.udpSession packet.assocId mode now).2.tx.trySend ⟨target, packet.payload⟩ with
    | ok tx => exact (opened.putOwnSession _).emitOwn _
    | error reason => exact opened.putOwnSession _

theorem handlePacketOwn (alike : Alike assocId first second) {now : Nat} {data : List UInt8}
    {packet : Packet} (parsed : parsePacket setting.core data = .ok packet)
    (own : packet.assocId = assocId)
    (kept : first.packetAssembler.evictIdle now fragmentIdleTimeout = first.packetAssembler)
    (mode : UdpMode) : Alike assocId (first.handlePacket now data mode).1 second := by
  obtain ⟨keyed, belongs⟩ := alike.serving.2.2.2.push packet now
  have pushed : Alike assocId
      { first with packetAssembler := (first.packetAssembler.push packet now).1 } second := by
    refine ⟨alike.rest, ⟨alike.serving.1, alike.serving.2.1, alike.serving.2.2.1, keyed⟩,
      alike.sessions, Eq.trans ?_ alike.fragments, alike.clean⟩
    simp only [PacketAssembler.push, kept]
    exact apart_pushAt_own _ own now
  unfold App.handlePacket
  rw [parsed]
  dsimp only
  cases outcome : (first.packetAssembler.push packet now).2 with
  | error reason => exact pushed
  | ok whole =>
      cases whole with
      | none => exact pushed
      | some whole =>
          dsimp only
          cases whole.target with
          | none => exact pushed
          | some target =>
              exact pushed.deliverOwn ((belongs whole outcome).trans own) target mode now

end Alike

theorem carriesPacket_iff {core : TuicCore} {assocId : UInt16} {data : List UInt8} :
    carriesPacket core assocId data = true ↔ data[1]? = some core.typeCodePacket ∧
      ∃ packet, parsePacket core data = .ok packet ∧ packet.assocId = assocId := by
  unfold carriesPacket
  cases parsePacket core data with
  | error reason => simp
  | ok packet => simp

theorem App.handleDatagram_of_packet (coded : setting.core.Coded) {app : App setting}
    (inside : app.authenticated = true) {data : List UInt8}
    (code : data[1]? = some setting.core.typeCodePacket) (now : Nat) :
    app.handleDatagram now data = app.handlePacket now data .native := by
  simp [App.handleDatagram, App.checkAuthenticationDeadline, inside, code,
    coded.packet_ne_heartbeat]

/-- A command with its code at hand, once AUTHENTICATE is ruled out. -/
theorem App.handleUnidirectionalCommand_of_code {app : App setting} {data : List UInt8}
    {code : UInt8} (found : data[1]? = some code)
    (different : code ≠ setting.core.typeCodeAuthenticate) (now : Nat)
    (order : IterationOrder UInt64 PendingStream) :
    ∃ command : QueuedCommand setting.core, command.data = data ∧ command.code = code ∧
      app.handleUnidirectionalCommand now order data = app.dispatchCommand now command := by
  obtain ⟨long, same⟩ := List.getElem?_eq_some_iff.mp found
  have other : data.get ⟨1, long⟩ ≠ setting.core.typeCodeAuthenticate := by
    rw [List.get_eq_getElem, same]
    exact different
  have atLeastTwo : 2 ≤ data.length := long
  exact ⟨⟨data, atLeastTwo, other⟩, rfl, same, (dif_pos atLeastTwo).trans (dif_neg other)⟩

namespace Alike

variable {assocId : UInt16} {first second : App setting}

theorem untraced (alike : Alike assocId first second) :
    Alike assocId first.untraced second.untraced :=
  ⟨alike.rest, alike.serving, alike.sessions, alike.fragments, alike.clean⟩

/-- A delivery of anything else keeps two connections alike. -/
theorem receive (alike : Alike assocId first second) {delivery : Delivery}
    (other : delivery.carries setting.core assocId = false) :
    AlikeAnswers assocId (first.receive delivery) (second.receive delivery) := by
  have different : ∀ data, carriesPacket setting.core assocId data = false →
      data[1]? = some setting.core.typeCodePacket → ∀ packet,
        parsePacket setting.core data = .ok packet → packet.assocId ≠ assocId := by
    intro data free code packet parsed same
    rw [carriesPacket_iff.mpr ⟨code, packet, parsed, same⟩] at free
    cases free
  cases delivery with
  | command now order data =>
      exact alike.handleUnidirectionalCommand now order (different data other)
  | event event whole =>
      refine alike.step whole fun now data same => ?_
      subst same
      exact different data other

/-- A packet of the association changes only what may differ. -/
theorem receiveOwn (alike : Alike assocId first second) (coded : setting.core.Coded)
    {delivery : Delivery} (own : delivery.carries setting.core assocId = true)
    (kept : delivery.EvictsNothing first) :
    Alike assocId (first.receive delivery).1 second := by
  cases delivery with
  | command now order data =>
      obtain ⟨code, packet, parsed, same⟩ := carriesPacket_iff.mp own
      obtain ⟨command, rfl, packets, dispatched⟩ :=
        first.handleUnidirectionalCommand_of_code code coded.packet_ne_authenticate now order
      simp only [App.receive, dispatched, App.dispatchCommand, packets, alike.serving.1,
        Bool.true_eq_false, ↓reduceIte]
      exact alike.handlePacketOwn parsed same kept .quic
  | event event whole =>
      cases event with
      | datagram now data =>
          obtain ⟨code, packet, parsed, same⟩ := carriesPacket_iff.mp own
          simp only [App.receive, App.step,
            App.handleDatagram_of_packet coded alike.serving.1 code]
          exact alike.handlePacketOwn parsed same kept .native
      | _ => cases own

/-- The run without the association's packets stays alike with the whole run. -/
theorem run (alike : Alike assocId first second) (coded : setting.core.Coded)
    {deliveries : List Delivery}
    (kept : (deliveryMachine setting).Meets (fun app delivery =>
      delivery.carries setting.core assocId = true → delivery.EvictsNothing app)
      first deliveries) :
    Alike assocId ((deliveryMachine setting).run first deliveries)
      ((deliveryMachine setting).run second
        (deliveries.filter fun delivery => !delivery.carries setting.core assocId)) := by
  induction deliveries generalizing first second with
  | nil => exact alike
  | cons delivery deliveries ih =>
      obtain ⟨now, later⟩ := kept
      cases own : delivery.carries setting.core assocId with
      | true =>
          rw [List.filter_cons_of_neg (by simp [own])]
          refine ih ?_ later
          refine receiveOwn ?_ coded own ?_
          · exact ⟨alike.rest, alike.serving, alike.sessions, alike.fragments, alike.clean⟩
          · exact now own
      | false =>
          rw [List.filter_cons_of_pos (by simp [own])]
          exact ih (alike.untraced.receive own).states later

end Alike

theorem App.receive_of_dissociates (coded : setting.core.Coded) {app : App setting}
    (inside : app.authenticated = true) {assocId : UInt16} {delivery : Delivery}
    (ends : delivery.Dissociates setting.core assocId) :
    app.receive delivery = (app.endUdpSession assocId, .ok ()) := by
  cases delivery with
  | event event whole => exact ends.elim
  | command now order data =>
      obtain ⟨code, parsed⟩ := ends
      obtain ⟨command, rfl, dissociates, dispatched⟩ :=
        app.handleUnidirectionalCommand_of_code code coded.dissociate_ne_authenticate now order
      simp only [App.receive, dispatched, App.dispatchCommand, dissociates,
        coded.dissociate_ne_packet, inside, Bool.true_eq_false, ↓reduceIte, parsed]

/-- What a connection answers does not depend on what it has already done. -/
theorem outputs_of_untraced {first second : App setting}
    (same : first.untraced = second.untraced) (deliveries : List Delivery) :
    (deliveryMachine setting).outputs first deliveries =
      (deliveryMachine setting).outputs second deliveries := by
  cases deliveries with
  | nil => rfl
  | cons delivery deliveries =>
      have sameStep : (deliveryMachine setting).step first delivery =
          (deliveryMachine setting).step second delivery := by
        simp only [deliveryMachine, same]
      simp only [Machine.outputs_cons, Machine.output, Machine.next, sameStep]

/-- A fragment that no group but a new one accepts. -/
def probe (assocId pktId : UInt16) (fragTotal : UInt8) : Packet where
  assocId := assocId
  pktId := pktId
  fragTotal := fragTotal
  fragId := 1
  target := none
  payload := []

section Probe

variable {core : TuicCore} {assembler : PacketAssembler}
variable {assocId pktId : UInt16} {fragTotal : UInt8}

theorem push_probe_of_held {entry : FragmentedPacket}
    (held : assembler.group (assocId, pktId) = some entry) (several : fragTotal ≠ 1)
    (different : entry.fragTotal ≠ fragTotal) :
    (assembler.push (probe assocId pktId fragTotal) entry.lastUsed).2 =
      .error (.message "fragment total changed within packet") := by
  have fresh : (assembler.evictIdle entry.lastUsed fragmentIdleTimeout).fragments.lookup
      (assocId, pktId) = some entry := by
    simp only [PacketAssembler.evictIdle, KeyedMap.lookup_retain]
    rw [show assembler.fragments.lookup (assocId, pktId) = some entry from held]
    simp [Option.filter, fragmentIdleTimeout, seconds]
  simp only [PacketAssembler.push, PacketAssembler.pushAt, probe, several, fresh, ↓reduceIte,
    PacketAssembler.pushFragment, Option.getD_some, ne_eq, different, not_false_eq_true]

theorem push_probe_of_absent (absent : assembler.group (assocId, pktId) = none)
    (several : 1 < fragTotal.toNat) (now : Nat) :
    (assembler.push (probe assocId pktId fragTotal) now).2 = .ok none := by
  have missing : (assembler.evictIdle now fragmentIdleTimeout).fragments.lookup
      (assocId, pktId) = none := by
    simp only [PacketAssembler.evictIdle, KeyedMap.lookup_retain]
    rw [show assembler.fragments.lookup (assocId, pktId) = none from absent]
    rfl
  have notOne : fragTotal ≠ 1 := by
    rintro rfl
    exact absurd several (by decide)
  have single : ((FragmentedPacket.opened (probe assocId pktId fragTotal) now).accept
      (probe assocId pktId fragTotal) now).fragments.size = 1 := rfl
  have unfinished : PacketAssembler.finish ((FragmentedPacket.opened
      (probe assocId pktId fragTotal) now).accept (probe assocId pktId fragTotal) now) =
        (some _, none) :=
    if_pos (by rw [single]; exact Nat.ne_of_lt several)
  have opened : (PacketAssembler.pushFragment none (probe assocId pktId fragTotal) now).2 =
      .ok none := by
    simp only [PacketAssembler.pushFragment, Option.getD_none, unfinished]
    exact congrArg Prod.snd (if_neg fun changed => changed rfl)
  unfold PacketAssembler.push PacketAssembler.pushAt
  rw [if_neg (show (probe assocId pktId fragTotal).fragTotal ≠ 1 from notOne)]
  dsimp only [probe] at missing opened ⊢
  rw [missing, opened]

/-- The probe can be sent: it has an encoding that is read back. -/
theorem exists_probe (lawful : core.Lawful) (coded : core.Coded) (assocId pktId : UInt16)
    (several : 1 < fragTotal.toNat) :
    ∃ data : List UInt8, data[1]? = some core.typeCodePacket ∧
      parsePacket core data = .ok (probe assocId pktId fragTotal) := by
  obtain ⟨header, written⟩ := lawful.marshal_ok
    (.packet assocId pktId fragTotal 1 (UInt16.ofNat 0) .none) trivial
  have nonzero : fragTotal ≠ 0 := by
    rintro rfl
    exact absurd several (by decide)
  have encoded : encodePacket core (probe assocId pktId fragTotal) = .ok (header ++ []) :=
    encodePacket_of_marshal nonzero (UInt8.lt_iff_toNat_lt.mpr several) (Nat.zero_le _) rfl written
  refine ⟨header ++ [], ?_, parsePacket_encodePacket lawful (fun _ named => by cases named) encoded⟩
  rw [List.append_nil]
  exact coded.marshal_code _ header written

end Probe

namespace Alike

variable {assocId : UInt16} {first second : App setting} {ending : Delivery}

/-- Both runs have ended the relay. -/
theorem next_dissociate (alike : Alike assocId first second) (coded : setting.core.Coded)
    (ends : ending.Dissociates setting.core assocId) :
    (deliveryMachine setting).next first ending = first.untraced.endUdpSession assocId ∧
      (deliveryMachine setting).next second ending = second.untraced.endUdpSession assocId := by
  have firstStep := App.receive_of_dissociates coded alike.untraced.serving.1 ends
  have secondStep := App.receive_of_dissociates coded alike.untraced.serving_second.1 ends
  exact ⟨congrArg Prod.fst firstStep, congrArg Prod.fst secondStep⟩

/-- With no fragment left over, the runs cannot be told apart any more. -/
theorem outputs_after (alike : Alike assocId first second) (coded : setting.core.Coded)
    (ends : ending.Dissociates setting.core assocId) (free : ¬ first.HoldsFragmentOf assocId)
    (later : List Delivery) :
    (deliveryMachine setting).outputs ((deliveryMachine setting).next first ending) later =
      (deliveryMachine setting).outputs ((deliveryMachine setting).next second ending) later := by
  obtain ⟨firstNext, secondNext⟩ := alike.next_dissociate coded ends
  have sessions := alike.sessions
  have fragments : first.packetAssembler = second.packetAssembler := by
    rw [← apart_eq_self_iff.mpr free, alike.fragments, alike.clean]
  rw [firstNext, secondNext]
  refine outputs_of_untraced ?_ later
  obtain ⟨udpSessions, packetAssembler, trace, rfl⟩ := alike.grafted
  cases fragments
  change first.udpSessions.erase assocId = udpSessions.erase assocId at sessions
  simp only [App.untraced, App.endUdpSession, App.graft, sessions]

/-- A fragment left over can be told from none: the probe fails only on it. -/
theorem exists_output_ne (alike : Alike assocId first second) (lawful : setting.core.Lawful)
    (coded : setting.core.Coded) (ends : ending.Dissociates setting.core assocId)
    (holds : first.HoldsFragmentOf assocId) :
    ∃ delivery, (deliveryMachine setting).output ((deliveryMachine setting).next first ending)
        delivery ≠
      (deliveryMachine setting).output ((deliveryMachine setting).next second ending)
        delivery := by
  obtain ⟨pktId, held⟩ := holds
  obtain ⟨entry, found⟩ := Option.ne_none_iff_exists'.mp held
  have absent : second.packetAssembler.group (assocId, pktId) = none := by
    have free := apart_eq_self_iff.mp alike.clean
    by_contra held
    exact free ⟨pktId, held⟩
  obtain ⟨fragTotal, several, different⟩ : ∃ fragTotal : UInt8, 1 < fragTotal.toNat ∧
      entry.fragTotal ≠ fragTotal := by
    by_cases two : entry.fragTotal = 2
    · exact ⟨3, by decide, by rw [two]; decide⟩
    · exact ⟨2, by decide, two⟩
  have notOne : fragTotal ≠ 1 := by
    rintro rfl
    exact absurd several (by decide)
  obtain ⟨data, code, parsed⟩ := exists_probe lawful coded assocId pktId several
  obtain ⟨firstNext, secondNext⟩ := alike.next_dissociate coded ends
  have firstInside : (first.untraced.endUdpSession assocId).untraced.authenticated = true :=
    alike.serving.1
  have secondInside : (second.untraced.endUdpSession assocId).untraced.authenticated = true :=
    alike.serving_second.1
  refine ⟨.event (.datagram entry.lastUsed data) (fun _ _ _ _ _ same => by cases same), ?_⟩
  intro same
  have sameResult := congrArg Prod.fst same
  rw [firstNext, secondNext] at sameResult
  simp only [Machine.output, deliveryMachine, App.receive, App.step] at sameResult
  rw [App.handleDatagram_of_packet coded firstInside code,
    App.handleDatagram_of_packet coded secondInside code] at sameResult
  have refused := push_probe_of_held found notOne different
  have accepted := push_probe_of_absent absent several entry.lastUsed
  simp only [App.handlePacket, parsed, App.untraced, App.endUdpSession, refused,
    accepted] at sameResult
  cases sameResult

end Alike

theorem Keyed.handlers : Handlers fun app : App setting => Keyed app.packetAssembler where
  deadline _ _ keyed := keyed
  queues _ _ _ _ keyed := keyed
  session _ _ _ _ _ keyed := keyed
  stream _ _ _ _ _ _ keyed := keyed
  cleanup app now keyed := by
    unfold App.maybeCleanupUdpState
    split
    · exact keyed
    · exact keyed.evictIdle now fragmentIdleTimeout
  close _ _ keyed := keyed
  charge _ _ _ keyed := keyed
  uniStreams _ _ keyed := keyed
  queueCommand _ _ _ keyed := keyed
  queueDatagram _ _ _ keyed := keyed
  clearCommands _ keyed := keyed
  clearDatagrams _ keyed := keyed
  authenticate _ _ _ _ keyed := keyed
  admitUser _ _ keyed := keyed
  assembler _ packet now keyed := (keyed.push packet now).1
  openSession _ _ _ _ keyed := keyed
  useSession _ _ _ keyed := keyed
  forward _ _ _ keyed := keyed
  endSession _ _ keyed := keyed
  pendingStreams _ _ keyed := keyed
  newStream _ _ keyed := keyed
  endStream _ _ keyed := keyed
  received _ _ _ keyed := keyed
  tryParseConnect _ _ _ keyed := keyed
  spawnRelay _ _ _ _ keyed := keyed

/-- A reachable connection serves once it is authenticated and its datagrams
have been replayed. -/
theorem run_serving (setting : Setting) (start : Nat) (events : List Event) :
    let app := (appMachine setting).run (App.new setting start) events
    app.authenticated = true → app.pendingDatagrams = [] → Serving app := by
  intro app inside replayed
  have keyed : Keyed app.packetAssembler :=
    Keyed.handlers.run (fun _ _ found => absurd found (by simp [App.new, PacketAssembler.empty]))
      events
  rcases run_guarded setting start events with waiting | admitted
  · exact absurd inside (by simp [app, waiting.outside])
  · exact ⟨inside, admitted.commands, replayed, keyed⟩

/-- Dissociation is clean exactly if nothing is left to clean.  A connection
without fragments of the association handles `before` once as it is and once
without the association's packets, then DISSOCIATE.  Whatever follows is
answered alike, with the same results and effects, exactly if the first run held
no fragment of the association when DISSOCIATE arrived. -/
theorem dissociation_is_clean_iff (setting : Setting) (lawful : setting.core.Lawful)
    (coded : setting.core.Coded) (start : Nat) (history : List Event) (assocId : UInt16)
    (before : List Delivery) (ending : Delivery)
    (ends : ending.Dissociates setting.core assocId) :
    let app := (appMachine setting).run (App.new setting start) history
    let machine := deliveryMachine setting
    app.authenticated = true → app.pendingDatagrams = [] → ¬ app.HoldsFragmentOf assocId →
    machine.Meets (fun app delivery =>
      delivery.carries setting.core assocId = true → delivery.EvictsNothing app) app before →
    ((∀ later, machine.outputs (machine.run app (before ++ [ending])) later =
        machine.outputs (machine.run app ((before.filter fun delivery =>
          !delivery.carries setting.core assocId) ++ [ending])) later) ↔
      ¬ (machine.run app before).HoldsFragmentOf assocId) := by
  intro app machine inside replayed fresh kept
  have serving := run_serving setting start history inside replayed
  have alike := (Alike.refl serving (apart_eq_self_iff.mpr fresh)).run coded kept
  simp only [machine, Machine.run_append, Machine.run_cons, Machine.run_nil]
  constructor
  · intro same holds
    obtain ⟨delivery, differs⟩ := alike.exists_output_ne lawful coded ends holds
    exact differs (List.cons.inj (same [delivery])).1
  · intro free later
    exact alike.outputs_after coded ends free later

/-- A two-part packet of association 7: the part that names the target and the
part that completes it. -/
def firstPart : Delivery :=
  .command 2 asStored [5, 2, 0, 7, 0, 9, 2, 0, 0, 1, 1, 127, 0, 0, 1, 0, 53, 65]

def secondPart : Delivery :=
  .command 4 asStored [5, 2, 0, 7, 0, 9, 2, 1, 0, 1, 255, 66]

def dissociateSeven : Delivery := .command 3 asStored [5, 3, 0, 7]

def sampleLogin : List Event := [.uniStream 1 asStored 2 sampleAuthenticate true]

/-- The second part got lost, the association ended and its packet id was used
again: the new packet is completed with the old part, and goes to its target. -/
theorem lost_fragment_survives_dissociation :
    let app := (appMachine sampleSetting).run (App.new sampleSetting 0) sampleLogin
    let machine := deliveryMachine sampleSetting
    machine.outputs (machine.run app [firstPart, dissociateSeven]) [secondPart] =
      [(.ok (), [.spawnUdpSession 7 .quic,
        .forward 7 ⟨.ip (.v4 loopback 53), [65, 66]⟩])] ∧
    firstPart.carries tuicV5 7 = true ∧
    machine.outputs (machine.run app [dissociateSeven]) [secondPart] = [(.ok (), [])] := by
  exact ⟨rfl, rfl, rfl⟩

theorem not_holdsFragmentOf_of_empty {app : App setting} (empty : app.packetAssembler = .empty)
    (assocId : UInt16) : ¬ app.HoldsFragmentOf assocId := by
  rintro ⟨pktId, held⟩
  rw [empty] at held
  exact held rfl

/-- Both parts arrived before the association ended. -/
theorem whole_packet_leaves_nothing :
    let app := (appMachine sampleSetting).run (App.new sampleSetting 0) sampleLogin
    let machine := deliveryMachine sampleSetting
    machine.outputs (machine.run app [firstPart, secondPart, dissociateSeven]) [secondPart] =
      machine.outputs (machine.run app [dissociateSeven]) [secondPart] :=
  (dissociation_is_clean_iff sampleSetting tuicV5_lawful tuicV5_coded 0 sampleLogin 7
    [firstPart, secondPart] dissociateSeven ⟨rfl, rfl⟩ rfl rfl
    (not_holdsFragmentOf_of_empty rfl 7) ⟨fun _ => rfl, fun _ => rfl, trivial⟩).mpr
    (not_holdsFragmentOf_of_empty rfl 7) [secondPart]

end Rtunnel.Tuic.Inbound
