import Rtunnel.Tuic.Inbound.Updates

namespace Rtunnel.Tuic.Inbound

open Rtunnel.Data

/-! What no call takes back.

The trace only grows, an authenticated connection stays authenticated, and
after authentication nothing joins the two queues that wait for it.  `Later`
says this of two states; every handler leaves a later state, also on failure.
-/

variable {setting : Setting}

structure Later (before after : App setting) : Prop where
  trace : before.trace <+: after.trace
  authenticated : before.authenticated = true → after.authenticated = true
  commands : before.authenticated = true → before.pendingUniCommands = [] →
    after.pendingUniCommands = []
  datagrams : before.authenticated = true → before.pendingDatagrams = [] →
    after.pendingDatagrams = []

namespace Later

/-- An update that leaves the queues and the authentication alone. -/
theorem of_kept {before after : App setting} (trace : before.trace <+: after.trace)
    (authenticated : after.authenticated = before.authenticated)
    (commands : after.pendingUniCommands = before.pendingUniCommands)
    (datagrams : after.pendingDatagrams = before.pendingDatagrams) : Later before after where
  trace := trace
  authenticated admitted := by rw [authenticated, admitted]
  commands _ none := by rw [commands, none]
  datagrams _ none := by rw [datagrams, none]

theorem of_same {before after : App setting} (trace : after.trace = before.trace)
    (authenticated : after.authenticated = before.authenticated)
    (commands : after.pendingUniCommands = before.pendingUniCommands)
    (datagrams : after.pendingDatagrams = before.pendingDatagrams) : Later before after :=
  of_kept (trace ▸ List.prefix_refl _) authenticated commands datagrams

theorem refl (app : App setting) : Later app app := of_same rfl rfl rfl rfl

theorem trans {first second third : App setting} (early : Later first second)
    (late : Later second third) : Later first third where
  trace := early.trace.trans late.trace
  authenticated := late.authenticated ∘ early.authenticated
  commands admitted none := late.commands (early.authenticated admitted)
    (early.commands admitted none)
  datagrams admitted none := late.datagrams (early.authenticated admitted)
    (early.datagrams admitted none)

/-- Before authentication only the trace is at stake. -/
theorem of_unauthenticated {before after : App setting} (outside : before.authenticated = false)
    (trace : before.trace <+: after.trace) : Later before after where
  trace := trace
  authenticated admitted := by simp [outside] at admitted
  commands admitted := by simp [outside] at admitted
  datagrams admitted := by simp [outside] at admitted

theorem emit (app : App setting) (effect : Effect) : Later app (app.emit effect) :=
  of_kept (List.prefix_append _ _) rfl rfl rfl

end Later

theorem App.maybeCleanupUdpState_later (app : App setting) (now : Nat) :
    Later app (app.maybeCleanupUdpState now) := by
  unfold App.maybeCleanupUdpState
  split
  · exact .refl app
  · exact .of_same rfl rfl rfl rfl

/-- Every update moves forward. -/
theorem Later.handlers (base : App setting) : Handlers (Later base) where
  deadline _ _ sofar := sofar.trans (.of_same rfl rfl rfl rfl)
  queues _ _ _ _ sofar := sofar.trans (.of_same rfl rfl rfl rfl)
  session _ _ _ _ _ sofar := sofar.trans (.of_same rfl rfl rfl rfl)
  stream _ _ _ _ _ _ sofar := sofar.trans (.of_same rfl rfl rfl rfl)
  cleanup app now sofar := sofar.trans (app.maybeCleanupUdpState_later now)
  close _ _ sofar := sofar.trans (.of_kept (List.prefix_append _ _) rfl rfl rfl)
  charge _ _ _ sofar := sofar.trans (.of_same rfl rfl rfl rfl)
  uniStreams _ _ sofar := sofar.trans (.of_same rfl rfl rfl rfl)
  queueCommand _ _ outside sofar :=
    sofar.trans (.of_unauthenticated outside (List.prefix_refl _))
  queueDatagram _ _ outside sofar :=
    sofar.trans (.of_unauthenticated outside (List.prefix_refl _))
  clearCommands _ sofar :=
    sofar.trans ⟨List.prefix_refl _, id, fun _ _ => rfl, fun _ => id⟩
  clearDatagrams _ sofar :=
    sofar.trans ⟨List.prefix_refl _, id, fun _ => id, fun _ _ => rfl⟩
  authenticate app _ _ _ sofar := sofar.trans (.emit app _)
  admitUser _ _ sofar :=
    sofar.trans ⟨List.prefix_refl _, fun _ => rfl, fun _ => id, fun _ => id⟩
  assembler _ _ _ sofar := sofar.trans (.of_same rfl rfl rfl rfl)
  openSession _ _ _ _ sofar := sofar.trans (.of_kept (List.prefix_append _ _) rfl rfl rfl)
  useSession _ _ _ sofar := sofar.trans (.of_same rfl rfl rfl rfl)
  forward app _ _ sofar := sofar.trans (.emit app _)
  endSession _ _ sofar := sofar.trans (.of_same rfl rfl rfl rfl)
  pendingStreams _ _ sofar := sofar.trans (.of_same rfl rfl rfl rfl)
  newStream _ _ sofar := sofar.trans (.of_same rfl rfl rfl rfl)
  endStream _ _ sofar := sofar.trans (.of_same rfl rfl rfl rfl)
  received app _ _ sofar := sofar.trans (.emit app _)
  tryParseConnect app _ _ sofar := sofar.trans (.emit app _)
  spawnRelay app _ _ _ sofar := sofar.trans (.emit app _)

theorem App.step_later (app : App setting) (event : Event) : Later app (app.step event).1 :=
  (Later.handlers app).step (.refl app) event

/-- A run only moves forward. -/
theorem run_later (app : App setting) (events : List Event) :
    Later app ((appMachine setting).run app events) :=
  (Later.handlers app).run (.refl app) events

end Rtunnel.Tuic.Inbound
