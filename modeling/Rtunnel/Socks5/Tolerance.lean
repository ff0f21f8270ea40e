import Rtunnel.Socks5.Associate
import Rtunnel.Socks5.Outbound
import Rtunnel.Tuic.Inbound.UdpTask
import Rtunnel.Tuic.Wire

namespace Rtunnel.Socks5

open Rtunnel.Data Rtunnel.Anytls

/-! Loops that receive from a SOCKS5 outbound.

The SOCKS5 inbound and the TUIC inbound each run a loop that waits for several
things at once, among them the outbound's `recv_from`.  What such a loop makes of
the outcome is its own; the datagrams at the outbound's socket arrive at any
time.
-/

/-- A loop with a branch for what the outbound receives.  `Turn` is what else
such a turn meets, such as the answer of a socket to a send. -/
structure Consumer (Loop Event Turn : Type) where
  running : Loop → Bool
  handle : Loop → Event → Loop
  receive : Loop → Except Failure (TargetAddr × List UInt8) → Turn → Loop

/-- The loop and the datagrams at the outbound's socket. -/
structure Fed (Loop : Type) where
  loop : Loop
  queue : List UdpDatagram

inductive FedEvent (Event Turn : Type) where
  | arrive (datagram : UdpDatagram)
  | receive (turn : Turn)
  | other (event : Event)

def arrivals {Event Turn : Type} : List (FedEvent Event Turn) → List UdpDatagram
  | [] => []
  | .arrive datagram :: events => datagram :: arrivals events
  | _ :: events => arrivals events

namespace Consumer

variable {Loop Event Turn : Type} (consumer : Consumer Loop Event Turn)

/-- A call that waits has passed over all that is at the socket. -/
def takeNext (relay : SocketAddr) (fed : Fed Loop) (turn : Turn) : Fed Loop :=
  match recvFrom relay fed.queue with
  | none => { fed with queue := [] }
  | some (result, rest) => ⟨consumer.receive fed.loop result turn, rest⟩

def step (relay : SocketAddr) (fed : Fed Loop) : FedEvent Event Turn → Fed Loop
  | .arrive datagram => { fed with queue := fed.queue ++ [datagram] }
  | .receive turn => if consumer.running fed.loop then consumer.takeNext relay fed turn else fed
  | .other event => { fed with loop := consumer.handle fed.loop event }

def machine (relay : SocketAddr) : Machine (Fed Loop) (FedEvent Event Turn) Unit :=
  ⟨fun fed event => (consumer.step relay fed event, ())⟩

@[simp] theorem machine_next (relay : SocketAddr) (fed : Fed Loop)
    (event : FedEvent Event Turn) :
    (consumer.machine relay).next fed event = consumer.step relay fed event := rfl

/-- An error ends the loop; in a calm turn a packet does not. -/
structure Lawful (calm : Turn → Prop) : Prop where
  fails : ∀ loop reason turn, consumer.running (consumer.receive loop (.error reason) turn) = false
  goesOn : ∀ loop (datagram : UdpDatagram) packet turn, calm turn →
    decoded datagram.data = .ok packet → consumer.running loop = true →
    consumer.running (consumer.receive loop (.ok packet) turn) = true

/-- However the datagrams arrive among the other events, no calm turn that takes
one ends the loop. -/
def KeepsRunning (calm : Turn → Prop) (relay : SocketAddr) (loop : Loop)
    (datagrams : List UdpDatagram) : Prop :=
  ∀ events : List (FedEvent Event Turn), arrivals events = datagrams →
    ∀ past turn, past ++ [.receive turn] <+: events → calm turn →
      consumer.running ((consumer.machine relay).run ⟨loop, []⟩ past).loop = true →
      consumer.running
        ((consumer.machine relay).run ⟨loop, []⟩ (past ++ [.receive turn])).loop = true

end Consumer

section Turns

variable {Loop Event Turn : Type} {consumer : Consumer Loop Event Turn} {calm : Turn → Prop}
  {relay : SocketAddr}

theorem Consumer.Lawful.takeNext (lawful : consumer.Lawful calm) {fed : Fed Loop}
    (sound : RelayIsSound relay fed.queue) {turn : Turn} (quiet : calm turn)
    (running : consumer.running fed.loop = true) :
    consumer.running (consumer.takeNext relay fed turn).loop = true := by
  unfold Consumer.takeNext
  cases returned : recvFrom relay fed.queue with
  | none => exact running
  | some outcome =>
      obtain ⟨result, rest⟩ := outcome
      obtain ⟨⟨datagram, member, own, rfl⟩, _⟩ := recvFrom_mem returned
      obtain ⟨packet, found⟩ := datagram.wellFormed_iff.mp (sound datagram member own)
      dsimp only
      rw [found]
      exact lawful.goesOn fed.loop datagram packet turn quiet found running

theorem takeNext_queue {fed : Fed Loop} {turn : Turn} {datagram : UdpDatagram}
    (left : datagram ∈ (consumer.takeNext relay fed turn).queue) : datagram ∈ fed.queue := by
  unfold Consumer.takeNext at left
  cases returned : recvFrom relay fed.queue with
  | none =>
      rw [returned] at left
      exact absurd left List.not_mem_nil
  | some outcome =>
      rw [returned] at left
      exact (recvFrom_mem returned).2 datagram left

theorem arrivals_append (first second : List (FedEvent Event Turn)) :
    arrivals (first ++ second) = arrivals first ++ arrivals second := by
  induction first with
  | nil => rfl
  | cons event first ih =>
      cases event with
      | arrive datagram =>
          simp only [List.cons_append, arrivals, ih]
      | receive turn => exact ih
      | other event => exact ih

/-- What is at the socket has arrived. -/
theorem queue_of_run {fed : Fed Loop} {events : List (FedEvent Event Turn)}
    {datagram : UdpDatagram}
    (left : datagram ∈ ((consumer.machine relay).run fed events).queue) :
    datagram ∈ fed.queue ∨ datagram ∈ arrivals events := by
  induction events generalizing fed with
  | nil => exact Or.inl left
  | cons event events ih =>
      rcases ih left with earlier | later
      · cases event with
        | arrive arrived =>
            rcases List.mem_append.mp earlier with before | own
            · exact Or.inl before
            · rw [List.mem_singleton.mp own]
              exact Or.inr List.mem_cons_self
        | receive turn =>
            simp only [Consumer.machine_next, Consumer.step] at earlier
            split at earlier
            · exact Or.inl (takeNext_queue earlier)
            · exact Or.inl earlier
        | other event => exact Or.inl earlier
      · cases event with
        | arrive arrived => exact Or.inr (List.mem_cons_of_mem _ later)
        | receive turn => exact Or.inr later
        | other event => exact Or.inr later

theorem Consumer.Lawful.keepsRunning (lawful : consumer.Lawful calm) (loop : Loop)
    {datagrams : List UdpDatagram} (sound : RelayIsSound relay datagrams) :
    consumer.KeepsRunning calm relay loop datagrams := by
  intro events arrived past turn earlier quiet running
  have queued : RelayIsSound relay ((consumer.machine relay).run ⟨loop, []⟩ past).queue := by
    intro datagram left own
    refine sound datagram ?_ own
    obtain ⟨rest, rfl⟩ := earlier
    rw [← arrived, arrivals_append, arrivals_append]
    rcases queue_of_run left with never | before
    · exact absurd never List.not_mem_nil
    · exact List.mem_append_left _ (List.mem_append_left _ before)
  rw [Machine.run_append, Machine.run_cons, Machine.run_nil, Consumer.machine_next,
    Consumer.step, if_pos running]
  exact lawful.takeNext queued quiet running

theorem next_receive {fed : Fed Loop} (running : consumer.running fed.loop = true) (turn : Turn) :
    (consumer.machine relay).next fed (.receive turn) = consumer.takeNext relay fed turn :=
  if_pos running

theorem next_receive_relay {loop : Loop} (running : consumer.running loop = true)
    {datagram : UdpDatagram} (own : datagram.source = relay) (rest : List UdpDatagram)
    (turn : Turn) :
    (consumer.machine relay).next ⟨loop, datagram :: rest⟩ (.receive turn) =
      ⟨consumer.receive loop (decoded datagram.data) turn, rest⟩ := by
  rw [next_receive running, Consumer.takeNext]
  dsimp only
  rw [recvFrom_relay own]

theorem next_receive_foreign {loop : Loop} (running : consumer.running loop = true)
    {datagram : UdpDatagram} (foreign : datagram.source ≠ relay) (rest : List UdpDatagram)
    (turn : Turn) :
    (consumer.machine relay).next ⟨loop, datagram :: rest⟩ (.receive turn) =
      (consumer.machine relay).next ⟨loop, rest⟩ (.receive turn) := by
  rw [next_receive running, next_receive running, Consumer.takeNext, Consumer.takeNext]
  dsimp only
  rw [recvFrom_foreign foreign]

/-- Turn after turn the loop comes to the bad datagram. -/
theorem Consumer.Lawful.ends (lawful : consumer.Lawful calm) {turn : Turn} (quiet : calm turn)
    {queue : List UdpDatagram} (bad : ¬ RelayIsSound relay queue) {loop : Loop}
    (running : consumer.running loop = true) :
    ∃ count,
      consumer.running ((consumer.machine relay).run ⟨loop, queue⟩
        (List.replicate count (.receive turn))).loop = true ∧
      consumer.running ((consumer.machine relay).run ⟨loop, queue⟩
        (List.replicate (count + 1) (.receive turn))).loop = false := by
  induction queue generalizing loop with
  | nil => exact absurd (fun _ absent => absurd absent List.not_mem_nil) bad
  | cons datagram rest ih =>
      by_cases own : datagram.source = relay
      · have taken := next_receive_relay running own rest turn
        cases found : decoded datagram.data with
        | error reason =>
            refine ⟨0, running, ?_⟩
            rw [List.replicate_succ, Machine.run_cons, taken, found]
            exact lawful.fails loop reason turn
        | ok packet =>
            have later : ¬ RelayIsSound relay rest := fun sound =>
              bad (List.forall_mem_cons.mpr
                ⟨fun _ => datagram.wellFormed_iff.mpr ⟨packet, found⟩, sound⟩)
            obtain ⟨count, still, gone⟩ :=
              ih later (lawful.goesOn loop datagram packet turn quiet found running)
            rw [found] at taken
            refine ⟨count + 1, ?_, ?_⟩
            · rw [List.replicate_succ, Machine.run_cons, taken]
              exact still
            · rw [List.replicate_succ, Machine.run_cons, taken]
              exact gone
      · have later : ¬ RelayIsSound relay rest := fun sound =>
          bad (List.forall_mem_cons.mpr ⟨fun fromRelay => absurd fromRelay own, sound⟩)
        have passed : ∀ count, (consumer.machine relay).run ⟨loop, datagram :: rest⟩
            (List.replicate (count + 1) (.receive turn)) =
              (consumer.machine relay).run ⟨loop, rest⟩
                (List.replicate (count + 1) (.receive turn)) := by
          intro count
          rw [List.replicate_succ, Machine.run_cons, Machine.run_cons,
            next_receive_foreign running own]
        obtain ⟨count, still, gone⟩ := ih later running
        cases count with
        | zero => exact ⟨0, running, by rw [passed]; exact gone⟩
        | succ count => exact ⟨count + 1, by rw [passed]; exact still, by rw [passed]; exact gone⟩

theorem run_arrivals (loop : Loop) (queue datagrams : List UdpDatagram) :
    (consumer.machine relay).run ⟨loop, queue⟩ (datagrams.map .arrive) =
      ⟨loop, queue ++ datagrams⟩ := by
  induction datagrams generalizing queue with
  | nil => rw [List.append_nil]; rfl
  | cons datagram datagrams ih =>
      rw [List.map_cons, Machine.run_cons, Consumer.machine_next, Consumer.step, ih,
        List.append_assoc]
      rfl

theorem arrivals_scheduled (datagrams : List UdpDatagram) (count : Nat) (turn : Turn) :
    arrivals (datagrams.map .arrive ++ List.replicate count (.receive turn) :
      List (FedEvent Event Turn)) = datagrams := by
  have none :
      arrivals (List.replicate count (.receive turn) : List (FedEvent Event Turn)) = [] := by
    induction count with
    | zero => rfl
    | succ count ih => exact ih
  have all : arrivals (datagrams.map .arrive : List (FedEvent Event Turn)) = datagrams := by
    induction datagrams with
    | nil => rfl
    | cons datagram datagrams ih => rw [List.map_cons, arrivals, ih]
  rw [arrivals_append, none, all, List.append_nil]

theorem Consumer.Lawful.keepsRunning_iff (lawful : consumer.Lawful calm) {turn : Turn}
    (quiet : calm turn) {loop : Loop} (running : consumer.running loop = true)
    (datagrams : List UdpDatagram) :
    consumer.KeepsRunning calm relay loop datagrams ↔ RelayIsSound relay datagrams := by
  refine ⟨fun keeps => ?_, lawful.keepsRunning loop⟩
  by_contra bad
  obtain ⟨count, still, gone⟩ := lawful.ends quiet bad running
  have queued : (consumer.machine relay).run ⟨loop, []⟩ (datagrams.map .arrive) =
      ⟨loop, [] ++ datagrams⟩ := run_arrivals loop [] datagrams
  have goes := keeps _ (arrivals_scheduled datagrams (count + 1) turn)
    (datagrams.map .arrive ++ List.replicate count (.receive turn)) turn
    (by rw [List.replicate_succ', List.append_assoc]) quiet
  rw [List.append_assoc, ← List.replicate_succ', Machine.run_append, Machine.run_append, queued,
    List.nil_append] at goes
  rw [goes still] at gone
  cases gone

end Turns

/-- `handle_udp_associate`; a turn meets the client socket's answer and a clock. -/
def associateConsumer (peer : SocketAddr) (requestedPort : UInt16) :
    Consumer Associate AssociateEvent (Except Failure Unit × Nat) where
  running loop := !loop.ended
  handle := (associateMachine peer requestedPort).next
  receive loop received turn := loop.handle peer requestedPort (.response received turn.1 turn.2)

def SendSucceeds (turn : Except Failure Unit × Nat) : Prop := turn.1 = .ok ()

theorem associateConsumer_lawful (peer : SocketAddr) (requestedPort : UInt16) :
    (associateConsumer peer requestedPort).Lawful SendSucceeds where
  fails _ _ _ := rfl
  goesOn := by
    intro loop datagram packet turn quiet _ running
    obtain ⟨source, payload⟩ := packet
    obtain ⟨send, now⟩ := turn
    cases quiet
    simp only [associateConsumer, Bool.not_eq_true'] at running ⊢
    simp only [Associate.handle, Associate.handleResponse]
    split
    case h_1 => exact running
    case h_2 client _ =>
        split
        case h_1 => exact running
        case h_2 => exact running

/-- `run_udp_session`; a turn meets the queue of the connection. -/
def udpTaskConsumer (setting : Tuic.Inbound.Setting) (assocId : UInt16)
    (mode : Tuic.Inbound.UdpMode) :
    Consumer Tuic.Inbound.UdpTask Tuic.Inbound.UdpTaskEvent Bool where
  running task := decide (task.stage = .relaying)
  handle := Tuic.Inbound.UdpTask.handle setting assocId mode
  receive task received queued :=
    task.handle setting assocId mode (.response (received.mapError .message) queued)

def QueueOpen (queued : Bool) : Prop := queued = true

/-- What a datagram carries has a place in a TUIC packet. -/
theorem decoded_packet {datagram : UdpDatagram} {source : TargetAddr} {payload : List UInt8}
    (found : decoded datagram.data = .ok (source, payload)) :
    source.Portable ∧ payload.length ≤ Tuic.u16Max ∧
      ∃ addr, Tuic.targetToAddress source = .ok addr := by
  have read := decoded_eq_ok_iff.mp found
  have portable := portable_of_decodeUdpPacket read
  have written := (decodeUdpPacket_iff_encodeUdpPacket portable).mp read
  obtain ⟨address, encoded, whole⟩ := encodeUdpPacket_eq_ok_iff.mp written
  refine ⟨portable, ?_, ?_⟩
  · have fits := datagram.fits
    rw [whole] at fits
    simp only [List.length_cons, List.length_append] at fits
    simp only [Tuic.u16Max]
    omega
  · cases source with
    | ip addr => exact ⟨_, rfl⟩
    | domain host port =>
        simp only [encodeAddr] at encoded
        split at encoded
        case isTrue short => exact ⟨_, if_pos short⟩
        case isFalse => cases encoded

theorem udpTaskConsumer_lawful (setting : Tuic.Inbound.Setting)
    (lawful : setting.core.Lawful) (assocId : UInt16) (mode : Tuic.Inbound.UdpMode) :
    (udpTaskConsumer setting assocId mode).Lawful QueueOpen where
  fails := by
    intro task reason queued
    simp only [udpTaskConsumer, Tuic.Inbound.UdpTask.handle, Except.mapError]
    cases stage : task.stage with
    | starting => simp [stage]
    | relaying => rfl
    | ended => simp [stage]
  goesOn := by
    intro task datagram packet queued isOpen found running
    obtain ⟨source, payload⟩ := packet
    cases isOpen
    have relaying : task.stage = .relaying := of_decide_eq_true running
    obtain ⟨portable, small, addr, addressed⟩ := decoded_packet found
    have goes := Tuic.Inbound.UdpTask.respond_relays lawful assocId mode relaying small portable
      addressed
    simp only [udpTaskConsumer, Tuic.Inbound.UdpTask.handle, Except.mapError, relaying]
    exact decide_eq_true goes

/-- A SOCKS5 outbound delivers what comes from the relay, and neither loop is
ended by a datagram, exactly if all that comes from the relay is well formed. -/
theorem bad_datagrams_are_tolerated_iff (relay : SocketAddr) (datagrams : List UdpDatagram) :
    (ReturnsWanted relay datagrams ↔ RelayIsSound relay datagrams) ∧
    (∀ (peer : SocketAddr) (requestedPort : UInt16) (loop : Associate), loop.ended = false →
      ((associateConsumer peer requestedPort).KeepsRunning SendSucceeds relay loop datagrams ↔
        RelayIsSound relay datagrams)) ∧
    (∀ (setting : Tuic.Inbound.Setting) (assocId : UInt16) (mode : Tuic.Inbound.UdpMode)
      (task : Tuic.Inbound.UdpTask), setting.core.Lawful → task.stage = .relaying →
      ((udpTaskConsumer setting assocId mode).KeepsRunning QueueOpen relay task datagrams ↔
        RelayIsSound relay datagrams)) := by
  refine ⟨returnsWanted_iff relay datagrams, ?_, ?_⟩
  · intro peer requestedPort loop running
    have calm : SendSucceeds (.ok (), 0) := rfl
    refine (associateConsumer_lawful peer requestedPort).keepsRunning_iff calm ?_ datagrams
    simp [associateConsumer, running]
  · intro setting assocId mode task lawful relaying
    have calm : QueueOpen true := rfl
    refine (udpTaskConsumer_lawful setting lawful assocId mode).keepsRunning_iff calm ?_ datagrams
    exact decide_eq_true relaying

def relayAddress : SocketAddr := .v4 loopback 1080

/-- A packet for the client, from the relay. -/
def wholePacket : UdpDatagram := ⟨[0, 0, 0, 1, 127, 0, 0, 1, 0, 53, 7], relayAddress, by decide⟩

/-- The same packet as a first fragment. -/
def firstFragment : UdpDatagram := ⟨[0, 0, 1, 1, 127, 0, 0, 1, 0, 53, 7], relayAddress, by decide⟩

/-- Two bytes from somewhere else. -/
def strayDatagram : UdpDatagram := ⟨[9, 9], .v4 loopback 1081, by decide⟩

def newAssociation : Associate := .new (.v4 loopback 1080) (.v4 loopback 5000) 0

def relayingTask : Tuic.Inbound.UdpTask := { Tuic.Inbound.UdpTask.new with stage := .relaying }

def plainSetting : Tuic.Inbound.Setting where
  core := Tuic.tuicV5
  inbound := "in"
  users := []
  exporter _ _ := .error (.message "no exporter")

theorem stray_datagram_is_tolerated :
    ReturnsWanted relayAddress [strayDatagram, wholePacket] ∧
    (associateConsumer (.v4 loopback 40000) 0).KeepsRunning SendSucceeds relayAddress
      newAssociation [strayDatagram, wholePacket] ∧
    (udpTaskConsumer plainSetting 7 .native).KeepsRunning QueueOpen relayAddress
      relayingTask [strayDatagram, wholePacket] := by
  have sound : RelayIsSound relayAddress [strayDatagram, wholePacket] := by
    intro datagram member own
    rcases List.mem_cons.mp member with rfl | last
    · exact absurd own (by decide)
    · rw [List.mem_singleton.mp last]
      exact ⟨.ip (.v4 loopback 53), [7], by decide +kernel⟩
  obtain ⟨returns, association, session⟩ :=
    bad_datagrams_are_tolerated_iff relayAddress [strayDatagram, wholePacket]
  exact ⟨returns.mpr sound, (association _ _ newAssociation rfl).mpr sound,
    (session plainSetting 7 .native relayingTask Tuic.tuicV5_lawful rfl).mpr sound⟩

/-- A fragment from the relay is an error of `recv_from`, and ends both loops. -/
theorem fragment_ends_both_loops :
    decodeUdpPacket firstFragment.data =
        .fails "fragmented socks5 udp packets are not supported" ∧
      ¬ ReturnsWanted relayAddress [firstFragment] ∧
      ¬ (associateConsumer (.v4 loopback 40000) 0).KeepsRunning SendSucceeds relayAddress
        newAssociation [firstFragment] ∧
      ¬ (udpTaskConsumer plainSetting 7 .native).KeepsRunning QueueOpen relayAddress
        relayingTask [firstFragment] := by
  have refused : decodeUdpPacket firstFragment.data =
      .fails "fragmented socks5 udp packets are not supported" := by decide +kernel
  have unsound : ¬ RelayIsSound relayAddress [firstFragment] := by
    intro sound
    obtain ⟨packet, found⟩ := firstFragment.wellFormed_iff.mp
      (sound firstFragment List.mem_cons_self rfl)
    have read := decoded_eq_ok_iff.mp found
    rw [refused] at read
    cases read
  have sends : SendSucceeds (.ok (), 0) := rfl
  have isOpen : QueueOpen true := rfl
  refine ⟨refused, fun returns => unsound ((returnsWanted_iff _ _).mp returns),
    fun keeps => unsound ?_, fun keeps => unsound ?_⟩
  · exact ((associateConsumer_lawful _ _).keepsRunning_iff sends rfl _).mp keeps
  · exact ((udpTaskConsumer_lawful plainSetting Tuic.tuicV5_lawful _ _).keepsRunning_iff isOpen
      rfl _).mp keeps

end Rtunnel.Socks5
