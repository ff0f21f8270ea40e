import Rtunnel.Data.WriteQueue
import Rtunnel.Tuic.Outbound.Client

namespace Rtunnel.Tuic.Outbound

open Rtunnel.Data
open Rtunnel.Tuic.Inbound.App (SendAnswer Flow)

/-! From the reading task to the QUIC library, on the client's side.

Everything the client relays goes to one stream, the CONNECT header first.  The
ledger follows the writes as it does for the server: it reads the connection and
never acts on it.
-/

abbrev ClientMark := Mark UInt64 UInt8 Empty

/-- What a write is to leave on the stream; a heartbeat travels in a datagram. -/
def clientMeaning : Meaning Unit QuicWrite ClientMark where
  marks _
    | .data data => data.map (.byte connectStreamId)
    | .heartbeat => []
    | .close => [.fin connectStreamId]
  next names _ := names

/-- The marks a try settles; `false` stands for an end of stream that is given up. -/
def settles : QuicWrite → SendAnswer → List (ClientMark × Bool)
  | .data data, .sent count =>
      (data.take count).map fun value => (.byte connectStreamId value, true)
  | .close, .sent _ => [(.fin connectStreamId, true)]
  | .close, _ => [(.fin connectStreamId, false)]
  | _, _ => []

/-- The writes that the end of a wait adds by itself. -/
def ClientApp.heartbeats (app : ClientApp) : ClientApp.Wake → List QuicWrite
  | .received => []
  | .timer _ => if app.pendingWrites = [] then [.heartbeat] else []

structure ClientLedger where
  app : ClientApp
  enqueued : List QuicWrite
  record : List (ClientMark × Bool)

namespace ClientLedger

/-- The ledger of an established connection: the CONNECT header comes ahead of
what the reading task may already have sent. -/
def established (setting : ClientSetting) (now : Nat) (outbound : Channel QuicWrite)
    (authAnswer connectAnswer : SendAnswer) (connect : List UInt8) : ClientLedger where
  app := ((ClientApp.new now outbound).onConnEstablished setting authAnswer connectAnswer).1
  enqueued := .data connect :: outbound.queue
  record := settles (.data connect) connectAnswer

def settle (ledger : ClientLedger) (write : QuicWrite) (answer : SendAnswer)
    (after : ClientApp) : ClientLedger where
  app := after
  enqueued := ledger.enqueued
  record := ledger.record ++ settles write answer

/-- The ledger along a write loop. -/
def pass (ledger : ClientLedger) (setting : ClientSetting) : List SendAnswer → ClientLedger
  | [] => ledger
  | answer :: answers =>
      match ledger.app.pendingWrites with
      | [] => ledger
      | write :: rest =>
          match { ledger.app with pendingWrites := rest }.performWrite setting write answer with
          | (app, .proceed) => (ledger.settle write answer app).pass setting answers
          | (app, _) => ledger.settle write answer app

def step (ledger : ClientLedger) (setting : ClientSetting) : ClientEvent → ClientLedger
  | .enqueue write =>
      match ledger.app.outbound.trySend write with
      | .ok _ =>
          { ledger with
            app := ledger.app.enqueue write
            enqueued := ledger.enqueued ++ [write] }
      | .error _ => ledger
  | .processWrites late answers =>
      { ledger with
        app := ledger.app.drainOutbound late
        enqueued := ledger.enqueued ++ late }.pass setting answers
  | .waitForData wake =>
      { ledger with
        app := ledger.app.waitForData wake
        enqueued := ledger.enqueued ++ ledger.app.heartbeats wake }
  | event => { ledger with app := (ledger.app.step setting event).1 }

/-- The marks still to come, and all the marks that were asked for. -/
def queued (ledger : ClientLedger) : List ClientMark :=
  clientMeaning.flow () (ledger.app.pendingWrites ++ ledger.app.outbound.queue)

def promised (ledger : ClientLedger) : List ClientMark := clientMeaning.flow () ledger.enqueued

/-- No pass returns an error. -/
def Proceeds (setting : ClientSetting) (ledger : ClientLedger) : ClientEvent → Prop
  | .processWrites late answers => (ledger.app.processWrites setting late answers).2 = .ok ()
  | _ => True

instance decidableProceeds (setting : ClientSetting) (ledger : ClientLedger) :
    (event : ClientEvent) → Decidable (ledger.Proceeds setting event)
  | .processWrites _ _ => inferInstanceAs (Decidable (_ = _))
  | .waitForData _ | .readStream _ _ _ | .enqueue _ | .streamReceives | .streamEnds =>
      .isTrue trivial

/-- What holds as long as no pass returns an error. -/
structure Sound (ledger : ClientLedger) : Prop where
  balanced : clientMeaning.Balanced () ledger.enqueued (ledger.record.map Prod.fst) ()
    (ledger.app.pendingWrites ++ ledger.app.outbound.queue)
  given : Mark.GivesUpFins ledger.record
  alive : ledger.app.outbound.receiverAlive = true

end ClientLedger

theorem settles_given (write : QuicWrite) (answer : SendAnswer) :
    Mark.GivesUpFins (settles write answer) := by
  intro mark member
  cases write with
  | data data =>
      cases answer with
      | sent count =>
          obtain ⟨value, _, same⟩ := List.mem_map.mp member
          cases same
      | _ => cases member
  | heartbeat => cases answer <;> cases member
  | close =>
      refine ⟨connectStreamId, ?_⟩
      cases answer <;> cases List.mem_singleton.mp member
      all_goals rfl

/-- A part of the data is left on the stream, and the rest is put back. -/
theorem data_carries (data : List UInt8) (count : Nat) :
    clientMeaning.Carries () (.data data) ((settles (.data data) (.sent count)).map Prod.fst)
      [.data (data.drop count)] () where
  flow := by
    simp only [settles, List.map_map, Meaning.flow, clientMeaning, List.append_nil]
    exact List.map_append.symm.trans (congrArg _ (List.take_append_drop count data))
  after := rfl

/-- All of the data is left on the stream. -/
theorem data_carries_whole (data : List UInt8) :
    clientMeaning.Carries () (.data data)
      ((settles (.data data) (.sent data.length)).map Prod.fst) [] () where
  flow := by
    simp only [settles, List.map_map, Meaning.flow, List.append_nil, List.take_length]
    rfl
  after := rfl

/-- Nothing is settled, and the write is put back. -/
theorem carries_nothing (write : QuicWrite) : clientMeaning.Carries () write [] [write] () where
  flow := List.append_nil _
  after := rfl

/-- What a successful try of the first write amounts to. -/
structure Performed (app after : ClientApp) (write : QuicWrite) (answer : SendAnswer)
    (left : List QuicWrite) : Prop where
  pending : after.pendingWrites = left ++ app.pendingWrites
  outbound : after.outbound = app.outbound
  carries : clientMeaning.Carries () write ((settles write answer).map Prod.fst) left ()

theorem ClientApp.performWrite_performed {setting : ClientSetting} {app after : ClientApp}
    {write : QuicWrite} {answer : SendAnswer} {flow : Flow}
    (performed : app.performWrite setting write answer = (after, flow))
    (succeeded : ∀ reason, flow ≠ .fail reason) :
    ∃ left, Performed app after write answer left := by
  cases write with
  | data data =>
      cases answer with
      | sent count =>
          simp only [ClientApp.performWrite] at performed
          split at performed
          · next whole =>
              cases performed
              subst whole
              exact ⟨[], rfl, rfl, data_carries_whole data⟩
          · cases performed
            exact ⟨[.data (data.drop count)], rfl, rfl, data_carries data count⟩
      | done =>
          cases performed
          exact ⟨[.data data], rfl, rfl, carries_nothing (.data data)⟩
      | bufferTooShort length | failed text =>
          cases performed
          exact absurd rfl (succeeded _)
  | heartbeat =>
      simp only [ClientApp.performWrite] at performed
      split at performed
      · cases performed
        exact absurd rfl (succeeded _)
      · cases answer with
        | sent count =>
            cases performed
            exact ⟨[], rfl, rfl, rfl, rfl⟩
        | done =>
            cases performed
            exact ⟨[.heartbeat], rfl, rfl, carries_nothing .heartbeat⟩
        | bufferTooShort length | failed text =>
            cases performed
            exact absurd rfl (succeeded _)
  | close =>
      cases performed
      refine ⟨[], rfl, rfl, ?_, rfl⟩
      cases answer <;> rfl

namespace ClientLedger

variable {setting : ClientSetting} {ledger : ClientLedger}

theorem Sound.settle (sound : ledger.Sound) {write : QuicWrite} {rest : List QuicWrite}
    {answer : SendAnswer} {after : ClientApp} {flow : Flow}
    (pending : ledger.app.pendingWrites = write :: rest)
    (performed : { ledger.app with pendingWrites := rest }.performWrite setting write answer =
      (after, flow))
    (succeeded : ∀ reason, flow ≠ .fail reason) :
    (ledger.settle write answer after).Sound := by
  obtain ⟨left, moved, outbound, carries⟩ :=
    ClientApp.performWrite_performed performed succeeded
  have balanced := sound.balanced
  rw [pending, List.cons_append] at balanced
  refine ⟨?_, ?_, ?_⟩
  · simp only [ClientLedger.settle, List.map_append, moved, outbound, List.append_assoc]
    exact balanced.carry carries
  · intro mark member
    rcases List.mem_append.mp member with earlier | settled
    · exact sound.given mark earlier
    · exact settles_given write answer mark settled
  · change after.outbound.receiverAlive = true
    rw [outbound]
    exact sound.alive

/-- The ledger along a pass that returns no error. -/
theorem Sound.pass (sound : ledger.Sound) {answers : List SendAnswer}
    (succeeded : (ledger.app.writeLoop setting answers).2 = .ok ()) :
    (ledger.pass setting answers).Sound ∧
      (ledger.pass setting answers).app = (ledger.app.writeLoop setting answers).1 := by
  induction answers generalizing ledger with
  | nil => exact ⟨sound, rfl⟩
  | cons answer answers ih =>
      unfold ClientApp.writeLoop at succeeded ⊢
      unfold ClientLedger.pass
      cases pending : ledger.app.pendingWrites with
      | nil => exact ⟨sound, rfl⟩
      | cons write rest =>
          simp only [pending] at succeeded
          cases performed : { ledger.app with pendingWrites := rest }.performWrite setting write
            answer with
          | mk after flow =>
              simp only [performed] at succeeded ⊢
              cases flow with
              | proceed =>
                  have settled := sound.settle pending performed
                    (fun _ impossible => by cases impossible)
                  exact ih settled succeeded
              | pause =>
                  exact ⟨sound.settle pending performed
                    (fun _ impossible => by cases impossible), rfl⟩
              | fail reason => cases succeeded

/-- New writes take their places behind all the others. -/
theorem Sound.enqueue (sound : ledger.Sound) {writes : List QuicWrite} {app : ClientApp}
    (queue : app.pendingWrites ++ app.outbound.queue =
      ledger.app.pendingWrites ++ ledger.app.outbound.queue ++ writes)
    (alive : app.outbound.receiverAlive = true) :
    Sound { ledger with app := app, enqueued := ledger.enqueued ++ writes } where
  balanced := by
    have longer := sound.balanced.enqueue writes
    rwa [← queue] at longer
  given := sound.given
  alive := alive

/-- A change of the connection that leaves the order of the writes alone. -/
theorem Sound.of_queue (sound : ledger.Sound) {app : ClientApp}
    (queue : app.pendingWrites ++ app.outbound.queue =
      ledger.app.pendingWrites ++ ledger.app.outbound.queue)
    (alive : app.outbound.receiverAlive = true) : Sound { ledger with app := app } where
  balanced := by
    rw [queue]
    exact sound.balanced
  given := sound.given
  alive := alive

theorem Sound.enqueues (sound : ledger.Sound) (write : QuicWrite) :
    (ledger.step setting (.enqueue write)).Sound ∧
      (ledger.step setting (.enqueue write)).app =
        (ledger.app.step setting (.enqueue write)).1 := by
  cases sent : ledger.app.outbound.trySend write with
  | error reason =>
      simp only [ClientLedger.step, ClientApp.step, ClientApp.enqueue, sent]
      exact ⟨sound, trivial⟩
  | ok outbound =>
      obtain ⟨queue, alive⟩ := Channel.trySend_eq_ok sent
      simp only [ClientLedger.step, ClientApp.step, ClientApp.enqueue, sent]
      refine ⟨sound.enqueue ?_ (alive.trans sound.alive), trivial⟩
      simp only [queue, List.append_assoc]

/-- A heartbeat may pass writes that are still in the channel: it leaves no mark. -/
theorem Sound.waits (sound : ledger.Sound) (wake : ClientApp.Wake) :
    (ledger.step setting (.waitForData wake)).Sound := by
  simp only [ClientLedger.step, ClientApp.waitForData]
  cases wake with
  | received =>
      simp only [ClientApp.heartbeats, List.append_nil]
      split
      · next idle =>
          cases waiting : ledger.app.outbound.queue with
          | nil => exact sound
          | cons write rest =>
              obtain ⟨queue, alive⟩ := Channel.recv_of_alive sound.alive
              refine sound.of_queue ?_ alive
              simp only [queue, waiting, idle, List.tail_cons, List.cons_append, List.nil_append]
      · exact sound
  | timer now =>
      by_cases idle : ledger.app.pendingWrites = []
      · simp only [ClientApp.heartbeats, if_pos idle]
        have balanced := sound.balanced
        rw [idle] at balanced
        have silent : clientMeaning.flow () (ledger.enqueued ++ [.heartbeat]) =
            clientMeaning.flow () ledger.enqueued := by
          rw [Meaning.flow_append]
          exact List.append_nil _
        exact ⟨⟨balanced.flow.trans silent.symm, rfl⟩, sound.given, sound.alive⟩
      · simp only [ClientApp.heartbeats, if_neg idle, List.append_nil]
        exact sound

theorem Sound.passes (sound : ledger.Sound) {late : List QuicWrite} {answers : List SendAnswer}
    (proceeds : ledger.Proceeds setting (.processWrites late answers)) :
    (ledger.step setting (.processWrites late answers)).Sound ∧
      (ledger.step setting (.processWrites late answers)).app =
        (ledger.app.step setting (.processWrites late answers)).1 := by
  have drained : Sound
      { ledger with
        app := ledger.app.drainOutbound late
        enqueued := ledger.enqueued ++ late } := by
    refine sound.enqueue ?_ rfl
    simp only [ClientApp.drainOutbound, Channel.bounded, List.append_nil]
  exact drained.pass proceeds

/-- Reading from the stream touches no write. -/
theorem readStream_writes (app : ClientApp) (streamId : UInt64) (data : List UInt8)
    (fin : Bool) :
    (app.readStream streamId data fin).1.pendingWrites = app.pendingWrites ∧
      (app.readStream streamId data fin).1.outbound = app.outbound := by
  unfold ClientApp.readStream
  dsimp only
  split
  · exact ⟨rfl, rfl⟩
  · split <;> exact ⟨rfl, rfl⟩

theorem Sound.step (sound : ledger.Sound) {event : ClientEvent}
    (proceeds : ledger.Proceeds setting event) :
    (ledger.step setting event).Sound ∧
      (ledger.step setting event).app = (ledger.app.step setting event).1 := by
  cases event with
  | enqueue write => exact sound.enqueues write
  | processWrites late answers => exact sound.passes proceeds
  | waitForData wake => exact ⟨sound.waits wake, rfl⟩
  | readStream streamId data fin =>
      obtain ⟨pending, outbound⟩ := readStream_writes ledger.app streamId data fin
      refine ⟨sound.of_queue ?_ ?_, rfl⟩
      · simp only [ClientApp.step, pending, outbound]
      · simp only [ClientApp.step, outbound, sound.alive]
  | streamReceives | streamEnds => exact ⟨sound.of_queue rfl sound.alive, rfl⟩

end ClientLedger

def clientLedgerMachine (setting : ClientSetting) :
    Machine ClientLedger ClientEvent (Except Error Unit) :=
  ⟨fun ledger event => (ledger.step setting event, (ledger.app.step setting event).2)⟩

/-- The ledger stays sound, and follows the connection itself. -/
theorem client_run_sound {setting : ClientSetting} {ledger : ClientLedger}
    (sound : ledger.Sound) {events : List ClientEvent}
    (proceeds : (clientLedgerMachine setting).Meets (ClientLedger.Proceeds setting) ledger events) :
    ((clientLedgerMachine setting).run ledger events).Sound ∧
      ((clientLedgerMachine setting).run ledger events).app =
        (clientMachine setting).run ledger.app events :=
  (clientLedgerMachine setting).run_follows (clientMachine setting) ClientLedger.app
    (fun _ _ proceeds sound => sound.step proceeds) sound proceeds

theorem ClientApp.sendAllOrQueue_performed {app : ClientApp} {data : List UInt8}
    {answer : SendAnswer} (succeeded : (app.sendAllOrQueue data answer).2 = .ok ()) :
    ∃ left, Performed app (app.sendAllOrQueue data answer).1 (.data data) answer left := by
  cases answer with
  | sent count =>
      simp only [ClientApp.sendAllOrQueue]
      split
      · next whole =>
          subst whole
          exact ⟨[], rfl, rfl, data_carries_whole data⟩
      · exact ⟨[.data (data.drop count)], rfl, rfl, data_carries data count⟩
  | done => exact ⟨[.data data], rfl, rfl, carries_nothing (.data data)⟩
  | bufferTooShort length | failed text => cases succeeded

/-- A connection that was established has tried to send its CONNECT header. -/
theorem ClientApp.onConnEstablished_ok {app : ClientApp} {setting : ClientSetting}
    {authAnswer connectAnswer : SendAnswer} {connect : List UInt8}
    (encoded : encodeConnect setting.core setting.target [] = .ok connect)
    (succeeded : (app.onConnEstablished setting authAnswer connectAnswer).2 = .ok ()) :
    app.onConnEstablished setting authAnswer connectAnswer =
      app.sendAllOrQueue connect connectAnswer := by
  unfold ClientApp.onConnEstablished at succeeded ⊢
  cases exported : setting.exporter setting.uuid setting.password with
  | error reason =>
      rw [exported] at succeeded
      cases succeeded
  | ok token =>
      cases authenticate : encodeAuthenticate setting.core setting.uuid token with
      | error reason =>
          simp only [exported, authenticate] at succeeded
          cases succeeded
      | ok auth =>
          cases authAnswer with
          | sent count => simp only [authenticate, encoded]
          | _ =>
              simp only [exported, authenticate] at succeeded
              cases succeeded

/-- The ledger of an established connection is sound. -/
theorem ClientLedger.Sound.established {setting : ClientSetting} {now : Nat}
    {outbound : Channel QuicWrite} {authAnswer connectAnswer : SendAnswer}
    {connect : List UInt8} (alive : outbound.receiverAlive = true)
    (encoded : encodeConnect setting.core setting.target [] = .ok connect)
    (succeeded : ((ClientApp.new now outbound).onConnEstablished setting authAnswer
      connectAnswer).2 = .ok ()) :
    (ClientLedger.established setting now outbound authAnswer connectAnswer connect).Sound := by
  have same := ClientApp.onConnEstablished_ok encoded succeeded
  rw [same] at succeeded
  obtain ⟨left, pending, kept, carries⟩ := ClientApp.sendAllOrQueue_performed succeeded
  have start := Meaning.Balanced.refl clientMeaning () (.data connect :: outbound.queue)
  have balanced := start.carry carries
  refine ⟨?_, settles_given (.data connect) connectAnswer, ?_⟩
  · simp only [ClientLedger.established, same, pending, kept, List.append_assoc]
    exact balanced
  · simp only [ClientLedger.established, same, kept]
    exact alive

/-- What is queued is what the connection still holds, and nothing is lost or
overtaken. -/
def ClientWritesKept (ledger : ClientLedger) : Prop :=
  Mark.Kept ledger.record ledger.queued ledger.promised

theorem ClientLedger.Sound.kept {ledger : ClientLedger} (sound : ledger.Sound) :
    ClientWritesKept ledger :=
  .of_balanced sound.balanced sound.given

end Rtunnel.Tuic.Outbound
