import Rtunnel.Tuic.Inbound.Authentication

namespace Rtunnel.Tuic.Inbound

open Rtunnel.Data

/-! The budget of unauthenticated connections.

Four stores share one budget.  What they hold never exceeds what was charged,
and a call that the budget or the deadline refuses changes none of them.
-/

variable {setting : Setting}

/-- The four stores and the two counters. -/
structure Buffers (setting : Setting) where
  uniStreams : KeyedMap UInt64 UniStreamState
  pendingUniCommands : List (QueuedCommand setting.core)
  pendingDatagrams : List (List UInt8)
  pendingStreams : KeyedMap UInt64 PendingStream
  preAuthBytes : Nat
  preAuthItems : Nat

def App.buffers (app : App setting) : Buffers setting where
  uniStreams := app.uniStreams
  pendingUniCommands := app.pendingUniCommands
  pendingDatagrams := app.pendingDatagrams
  pendingStreams := app.pendingStreams
  preAuthBytes := app.preAuthBytes
  preAuthItems := app.preAuthItems

/-- The call fails because the deadline has passed or the budget is too small
for its data. -/
def App.Refuses (app : App setting) (reason : Error) : Event → Prop
  | .uniStream now _ streamId data _ =>
      (app.reservePreAuth now data.length (App.newItems app.uniStreams streamId)).2 = .error reason
  | .streamData now streamId data _ =>
      (app.reservePreAuth now data.length (App.newItems app.pendingStreams streamId)).2 =
        .error reason
  | .datagram now data =>
      app.checkAuthenticationDeadline now = .error reason ∨
        data[1]? = some setting.core.typeCodePacket ∧
          setting.core.typeCodePacket ≠ setting.core.typeCodeHeartbeat ∧
          (app.reservePreAuth now data.length 1).2 = .error reason
  | _ => False

/-- A refused charge leaves the connection as it was, and only an
unauthenticated connection is refused. -/
theorem App.reservePreAuth_eq_error {app : App setting} {now bytes items : Nat} {reason : Error}
    (refused : (app.reservePreAuth now bytes items).2 = .error reason) :
    app.reservePreAuth now bytes items = (app, .error reason) ∧ app.authenticated = false := by
  unfold App.reservePreAuth at refused ⊢
  cases check : app.checkAuthenticationDeadline now with
  | error other =>
      rw [check, Attempt.andThen_error] at refused
      rw [Attempt.andThen_error]
      refine ⟨Prod.ext rfl refused, ?_⟩
      by_contra inside
      simp [App.checkAuthenticationDeadline, inside] at check
  | ok done =>
      cases done
      rw [check, Attempt.andThen_ok] at refused
      rw [Attempt.andThen_ok]
      split at refused
      · cases refused
      · next outside =>
          split at refused
          · next exceeds =>
              rw [if_neg outside, if_pos exceeds]
              exact ⟨Prod.ext rfl refused, by simpa using outside⟩
          · cases refused

theorem App.reservePreAuth_emit (app : App setting) (effect : Effect) (now bytes items : Nat) :
    ((app.emit effect).reservePreAuth now bytes items).2 =
      (app.reservePreAuth now bytes items).2 := by
  have sameCheck : (app.emit effect).checkAuthenticationDeadline now =
      app.checkAuthenticationDeadline now := rfl
  unfold App.reservePreAuth
  rw [sameCheck]
  cases app.checkAuthenticationDeadline now with
  | error reason => rfl
  | ok done =>
      cases done
      simp only [Attempt.andThen_ok, App.emit, apply_ite Prod.snd]

theorem App.step_of_refuses {app : App setting} {reason : Error} {event : Event}
    (refused : app.Refuses reason event) :
    (app.step event).2 = .error reason ∧ (app.step event).1.buffers = app.buffers := by
  cases event with
  | uniStream now order streamId data fin =>
      obtain ⟨same, _⟩ := App.reservePreAuth_eq_error refused
      simp only [App.step, App.handleUnidirectionalStream, same, Attempt.andThen_error,
        and_self]
  | streamData now streamId data fin =>
      obtain ⟨same, outside⟩ := App.reservePreAuth_eq_error
        (show ((app.emit (.received streamId fin)).reservePreAuth now data.length
          (App.newItems app.pendingStreams streamId)).2 = .error reason by
            rw [App.reservePreAuth_emit]; exact refused)
      simp only [App.step, App.handleStreamData, outside, ↓reduceIte, App.bufferStream]
      have sameItems : (app.emit (.received streamId fin)).pendingStreams = app.pendingStreams :=
        rfl
      rw [sameItems, same, Attempt.andThen_error]
      exact ⟨rfl, rfl⟩
  | datagram now data =>
      simp only [App.step, App.handleDatagram]
      rcases refused with late | ⟨code, different, exceeds⟩
      · rw [late, Attempt.andThen_error]
        exact ⟨rfl, rfl⟩
      · obtain ⟨same, outside⟩ := App.reservePreAuth_eq_error exceeds
        cases check : app.checkAuthenticationDeadline now with
        | error other =>
            simp only [App.reservePreAuth, check, Attempt.andThen_error, Prod.mk.injEq,
              true_and] at same
            exact ⟨same, rfl⟩
        | ok done =>
            cases done
            simp only [Attempt.andThen_ok, code, different, ↓reduceIte, outside,
              App.queueDatagram, same, Attempt.andThen_error, and_self]
  | _ => exact refused.elim

/-- In every run, with failing calls among its events: what an unauthenticated
connection retains is charged, and the charge is within the limits; a refused
call changes neither stores nor counters; an authenticated connection queues no
command, and no datagram either if the call that authenticated it succeeded. -/
theorem pre_auth_budget_holds (setting : Setting) (start : Nat) (events : List Event) :
    let app := (appMachine setting).run (App.new setting start) events
    (app.authenticated = false →
      (app.retainedBytes ≤ app.preAuthBytes ∧ app.preAuthBytes ≤ maxPreAuthBytes) ∧
        app.retainedItems ≤ app.preAuthItems ∧ app.preAuthItems ≤ maxPreAuthItems) ∧
    (∀ event reason, app.Refuses reason event →
      (app.step event).2 = .error reason ∧ (app.step event).1.buffers = app.buffers) ∧
    (app.authenticated = true → app.pendingUniCommands = []) ∧
    (∀ before event after, events = before ++ event :: after →
      let earlier := (appMachine setting).run (App.new setting start) before
      earlier.authenticated = false → (earlier.step event).1.authenticated = true →
        (earlier.step event).2 = .ok () → app.pendingDatagrams = []) := by
  intro app
  have guarded : Guarded app := run_guarded setting start events
  refine ⟨?_, fun event reason refused => App.step_of_refuses refused, ?_, ?_⟩
  · intro outside
    rcases guarded with waiting | admitted
    · exact ⟨⟨waiting.paidBytes, waiting.bytesLimit⟩, waiting.paidItems, waiting.itemsLimit⟩
    · exact absurd admitted.inside (by simp [outside])
  · intro inside
    rcases guarded with waiting | admitted
    · exact absurd inside (by simp [waiting.outside])
    · exact admitted.commands
  · intro before event after split earlier outside inside succeeded
    have emptied : (earlier.step event).1.pendingDatagrams = [] := by
      rcases run_guarded setting start before with waiting | admitted
      · rcases waiting.step event with still | ⟨current, now, order, command, _, same⟩
        · exact absurd inside (by simp [earlier, still.outside])
        · simp only [earlier, same] at succeeded ⊢
          exact App.handleAuthData_empties succeeded
      · exact absurd admitted.inside (by simpa [earlier] using outside)
    have reached : app = (appMachine setting).run (earlier.step event).1 after := by
      simp only [app, split, Machine.run_append]
      rfl
    rw [reached]
    exact (run_later _ after).datagrams inside emptied

/-- A malformed PACKET command and a datagram wait for the token; the command
fails when it is replayed, and the datagram stays behind. -/
def abandonedDatagram : List Event :=
  [.uniStream 1 asStored 2 [5, 2] true, .datagram 2 [5, 2],
    .uniStream 3 asStored 6 sampleAuthenticate true]

theorem abandoned_datagram_survives_authentication :
    let app := (appMachine sampleSetting).run (App.new sampleSetting 0) abandonedDatagram
    app.authenticated = true ∧ app.pendingUniCommands = [] ∧ app.pendingDatagrams = [[5, 2]] := by
  decide

/-- A stream chunk beyond the budget, on an otherwise idle connection. -/
theorem oversized_chunk_is_refused :
    let app := (appMachine sampleSetting).run (App.new sampleSetting 0) [.established 1]
    (app.retainedBytes ≤ app.preAuthBytes ∧ app.preAuthBytes ≤ maxPreAuthBytes) ∧
      (app.step (.streamData 2 0 (List.replicate 262145 0) false)).1.buffers = app.buffers := by
  have budget := pre_auth_budget_holds sampleSetting 0 [.established 1]
  refine ⟨(budget.1 (by decide)).1, ?_⟩
  refine (budget.2.1 (.streamData 2 0 (List.replicate 262145 0) false)
    (.message "tuic unauthenticated buffer limit exceeded") ?_).2
  show (App.reservePreAuth _ 2 (List.replicate 262145 0).length 1).2 = _
  rw [List.length_replicate]
  decide

end Rtunnel.Tuic.Inbound
