import Rtunnel.Tuic.Inbound.Authentication

namespace Rtunnel.Tuic.Inbound

open Rtunnel.Data

/-! Streams do not disturb each other.

An error from a handler ends the whole connection, so what one stream's data can
return matters to all of them.  Data for a relay fails exactly when its channel
refuses the message, and touches nothing but the stream's own entry.
-/

variable {setting : Setting}

/-- Everything a call on one stream has to leave alone. -/
structure OthersKept (streamId : UInt64) (before after : App setting) : Prop where
  streams : ∀ other, other ≠ streamId → after.streams.lookup other = before.streams.lookup other
  pendingStreams : ∀ other, other ≠ streamId →
    after.pendingStreams.lookup other = before.pendingStreams.lookup other
  udpSessions : after.udpSessions = before.udpSessions
  pendingWrites : after.pendingWrites = before.pendingWrites

namespace OthersKept

variable {streamId : UInt64} {first second third : App setting}

theorem refl (app : App setting) : OthersKept streamId app app :=
  ⟨fun _ _ => rfl, fun _ _ => rfl, rfl, rfl⟩

theorem trans (early : OthersKept streamId first second) (late : OthersKept streamId second third) :
    OthersKept streamId first third where
  streams other different := (late.streams other different).trans (early.streams other different)
  pendingStreams other different :=
    (late.pendingStreams other different).trans (early.pendingStreams other different)
  udpSessions := late.udpSessions.trans early.udpSessions
  pendingWrites := late.pendingWrites.trans early.pendingWrites

end OthersKept

namespace App

theorem sendToRelay_othersKept (app : App setting) (streamId : UInt64) (state : StreamState)
    (data : List UInt8) (fin : Bool) :
    OthersKept streamId app (app.sendToRelay streamId state data fin).1 := by
  unfold sendToRelay
  dsimp only
  split
  · exact .refl app
  · split
    · exact ⟨fun other different => AList.lookup_erase_ne different, fun _ _ => rfl, rfl, rfl⟩
    · exact ⟨fun other different => AList.lookup_insert_ne different, fun _ _ => rfl, rfl, rfl⟩

theorem parsePending_othersKept (app : App setting) (streamId : UInt64)
    (pending : PendingStream) :
    OthersKept streamId app (app.parsePending streamId pending).1 := by
  unfold parsePending
  split
  · exact .refl app
  · split
    · exact .refl app
    · exact ⟨fun _ _ => rfl, fun other different => AList.lookup_insert_ne different, rfl, rfl⟩
  · cases pending.fin with
    | true => exact ⟨fun _ _ => rfl, fun _ _ => rfl, rfl, rfl⟩
    | false =>
        exact ⟨fun other different => AList.lookup_insert_ne different, fun _ _ => rfl, rfl, rfl⟩

theorem openStream_othersKept (app : App setting) (streamId : UInt64) (data : List UInt8)
    (fin : Bool) : OthersKept streamId app (app.openStream streamId data fin).1 := by
  unfold openStream
  refine .trans ?_ (parsePending_othersKept _ streamId (app.extendPending streamId data fin))
  exact ⟨fun _ _ => rfl, fun other different => AList.lookup_erase_ne different, rfl, rfl⟩

/-- On an authenticated connection, data on a stream leaves the others alone,
whether or not the stream has a relay and whatever the call returns. -/
theorem handleStreamData_othersKept {app : App setting} (inside : app.authenticated = true)
    (now : Nat) (streamId : UInt64) (data : List UInt8) (fin : Bool) :
    OthersKept streamId app (app.handleStreamData now streamId data fin).1 := by
  have received : OthersKept streamId app (app.emit (.received streamId fin)) :=
    ⟨fun _ _ => rfl, fun _ _ => rfl, rfl, rfl⟩
  refine received.trans ?_
  rw [handleStreamData_of_inside inside]
  split
  · exact sendToRelay_othersKept _ streamId _ data fin
  · exact openStream_othersKept _ streamId data fin

/-- Data for a relay is accepted exactly when its channel takes the message. -/
theorem handleStreamData_of_known {app : App setting} (inside : app.authenticated = true)
    {streamId : UInt64} {state : StreamState} (found : app.streams.lookup streamId = some state)
    (now : Nat) (data : List UInt8) (fin : Bool) :
    (data = [] ∨ state.clientTx.Accepts →
      (app.handleStreamData now streamId data fin).2 = .ok ()) ∧
    (¬ (data = [] ∨ state.clientTx.Accepts) →
      (app.handleStreamData now streamId data fin).2 =
        .error (.message ("tuic inbound stream receive backpressure: " ++
          (if state.clientTx.receiverAlive then TrySendError.full else .closed).text))) := by
  have routed : app.handleStreamData now streamId data fin =
      (app.emit (.received streamId fin)).sendToRelay streamId state data fin := by
    rw [handleStreamData_of_inside inside, found]
  rw [routed]
  constructor
  · rintro (empty | accepts)
    · simp only [sendToRelay, empty, ↓reduceIte]
      split <;> rfl
    · obtain ⟨after, sent, _⟩ := Channel.trySend_of_accepts accepts data
      by_cases empty : data = []
      · simp only [sendToRelay, empty, ↓reduceIte]
        split <;> rfl
      · simp only [sendToRelay, empty, ↓reduceIte, sent]
        split <;> rfl
  · intro refused
    obtain ⟨nonempty, refuses⟩ := not_or.mp refused
    simp only [sendToRelay, nonempty, ↓reduceIte, Channel.trySend_of_not_accepts refuses data]
    rfl

end App

/-- Every relay's channel has the capacity it was opened with. -/
def Sized (app : App setting) : Prop :=
  ∀ streamId state, app.streams.lookup streamId = some state →
    state.clientTx.capacity = channelCapacity

namespace Sized

variable {app : App setting}

theorem putStream (sized : Sized app) {streamId : UInt64} {next : StreamState}
    (fits : next.clientTx.capacity = channelCapacity) : Sized (app.putStream streamId next) := by
  intro other state found
  by_cases same : other = streamId
  · subst same
    have stored := (AList.lookup_insert app.streams).symm.trans found
    rw [← Option.some.inj stored]
    exact fits
  · exact sized other state ((AList.lookup_insert_ne same).symm.trans found)

theorem eraseStream (sized : Sized app) (streamId : UInt64) :
    Sized { app with streams := app.streams.erase streamId } := by
  intro other state found
  exact sized other state (KeyedMap.lookup_erase_eq_some found).2

theorem handlers : Handlers fun app : App setting => Sized app where
  deadline _ _ sized := sized
  queues _ _ _ _ sized := sized
  session _ _ _ _ _ sized := sized
  stream app streamId state next found same sized :=
    sized.putStream (same.trans (sized streamId state found))
  cleanup app now sized := by
    unfold App.maybeCleanupUdpState
    split
    · exact sized
    · exact sized
  close app streamId sized := sized.eraseStream streamId
  charge _ _ _ sized := sized
  uniStreams _ _ sized := sized
  queueCommand _ _ _ sized := sized
  queueDatagram _ _ _ sized := sized
  clearCommands _ sized := sized
  clearDatagrams _ sized := sized
  authenticate _ _ _ _ sized := sized
  admitUser _ _ sized := sized
  assembler _ _ _ sized := sized
  openSession _ _ _ _ sized := sized
  useSession _ _ _ sized := sized
  forward _ _ _ sized := sized
  endSession _ _ sized := sized
  pendingStreams _ _ sized := sized
  newStream _ _ sized := sized.putStream rfl
  endStream _ streamId sized := sized.eraseStream streamId
  received _ _ _ sized := sized
  tryParseConnect _ _ _ sized := sized
  spawnRelay _ _ _ _ sized := sized

end Sized

theorem run_sized (setting : Setting) (start : Nat) (events : List Event) :
    Sized ((appMachine setting).run (App.new setting start) events) := by
  have initial : Sized (App.new setting start) := fun _ _ found => absurd found (by simp [App.new])
  exact Sized.handlers.run initial events

/-- In every reachable state, for a stream that has been given a relay: as long
as the stream is known and its relay's receiver is alive, data or FIN is
accepted unless the data is non-empty and the relay's 32 places are taken, which
is reported as backpressure; and every other entry is left alone in any case. -/
theorem relayed_stream_stays_isolated (setting : Setting) (start : Nat) (events : List Event)
    (now : Nat) (streamId : UInt64) (data : List UInt8) (fin : Bool) :
    let app := (appMachine setting).run (App.new setting start) events
    (∃ session initial, Effect.spawnRelay streamId session initial ∈ app.trace) →
    let result := app.step (.streamData now streamId data fin)
    (∀ state, app.streams.lookup streamId = some state →
      state.clientTx.receiverAlive = true →
      (result.2 = .ok () ↔ data = [] ∨ state.clientTx.queue.length < channelCapacity) ∧
      (result.2 = .ok () ∨ result.2 = .error (.message
        "tuic inbound stream receive backpressure: no available capacity"))) ∧
    OthersKept streamId app result.1 := by
  intro app relayed result
  have inside : app.authenticated = true := by
    rcases run_guarded setting start events with waiting | admitted
    · obtain ⟨session, initial, member⟩ := relayed
      exact absurd trivial (waiting.quiet _ member).1
    · exact admitted.inside
  refine ⟨?_, App.handleStreamData_othersKept inside now streamId data fin⟩
  intro state found alive
  have capacity := run_sized setting start events streamId state found
  obtain ⟨accepted, refused⟩ := App.handleStreamData_of_known inside found now data fin
  have accepts_iff : state.clientTx.Accepts ↔ state.clientTx.queue.length < channelCapacity := by
    simp only [Channel.Accepts, alive, true_and, capacity]
  by_cases taken : data = [] ∨ state.clientTx.Accepts
  · have succeeded : result.2 = .ok () := accepted taken
    exact ⟨⟨fun _ => taken.imp_right accepts_iff.mp, fun _ => succeeded⟩, .inl succeeded⟩
  · have failed : result.2 = .error (.message
        "tuic inbound stream receive backpressure: no available capacity") := by
      refine (refused taken).trans ?_
      rw [alive]
      rfl
    refine ⟨⟨fun succeeded => ?_, fun room => absurd (room.imp_right accepts_iff.mpr) taken⟩,
      .inr failed⟩
    rw [failed] at succeeded
    cases succeeded

/-- A relay that has not drained its channel: its next message fails the call,
and with it the connection. -/
def slowRelay : List Event :=
  .uniStream 1 asStored 2 sampleAuthenticate false ::
    .streamData 2 0 [5, 1, 1, 127, 0, 0, 1, 0, 80] false ::
      List.replicate 32 (.streamData 3 0 [1] false)

theorem slow_relay_fails_connection :
    let app := (appMachine sampleSetting).run (App.new sampleSetting 0) slowRelay
    app.authenticated = true ∧ (app.streams.lookup 0).isSome = true ∧
      (app.step (.streamData 4 0 [2] false)).2 = .error (.message
        "tuic inbound stream receive backpressure: no available capacity") := by
  decide +kernel

theorem fresh_relay_takes_data :
    (((appMachine sampleSetting).run (App.new sampleSetting 0) (slowRelay.take 2)).step
      (.streamData 3 0 [1] true)).2 = .ok () := by
  have isolated := relayed_stream_stays_isolated sampleSetting 0 (slowRelay.take 2) 3 0 [1] true
    ⟨⟨"tuic-in", .connect, .ip (.v4 loopback 80)⟩, [], by decide⟩
  exact ((isolated.1 ⟨.bounded channelCapacity⟩ (by decide) rfl).1).mpr (.inr (by decide))

end Rtunnel.Tuic.Inbound
