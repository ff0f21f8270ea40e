import Rtunnel.Tuic.Inbound.Later
import Rtunnel.Tuic.Wire

namespace Rtunnel.Tuic.Inbound

open Rtunnel.Data

/-! Before and after authentication.

A connection is either waiting, with everything it retains paid for and no
relay in sight, or it has processed an AUTHENTICATE command that names a user
and carries the user's token.  Both the buffer budget and the gate follow from
this one invariant.
-/

variable {setting : Setting}

/-- Relays come into being only through these calls. -/
def Effect.Spawns : Effect → Prop
  | .spawnRelay _ _ _ => True
  | .spawnUdpSession _ _ => True
  | _ => False

/-- An AUTHENTICATE command processed in time that carries the uuid of a
configured user and that user's token. -/
def Effect.Admits (setting : Setting) : Effect → Prop
  | .authenticate now deadline command => now < deadline ∧
      ∃ user ∈ setting.users, ∃ token,
        parseAuthenticate setting.core command = .ok (user.uuid, token) ∧
        setting.exporter user.uuid user.password = .ok token
  | _ => False

/-- The same with the user that the connection compares the token for, which is
the first one with the uuid. -/
def Effect.Verified (setting : Setting) : Effect → Prop
  | .authenticate now deadline command =>
      now < deadline ∧ ∃ user, App.verify setting command = .ok user
  | _ => False

def UniStreamState.retained : UniStreamState → Nat
  | .receiving command => command.length
  | .authenticated => 0

def App.retainedBytes (app : App setting) : Nat :=
  app.uniStreams.total UniStreamState.retained +
    (app.pendingUniCommands.map fun command => command.data.length).sum +
    (app.pendingDatagrams.map List.length).sum +
    app.pendingStreams.total fun pending => pending.data.length

def App.retainedItems (app : App setting) : Nat :=
  app.uniStreams.size + app.pendingUniCommands.length + app.pendingDatagrams.length +
    app.pendingStreams.size

/-- An unauthenticated connection in which `bytes` and `items` are charged but
not, or no longer, retained. -/
structure Waiting (app : App setting) (bytes items : Nat) : Prop where
  outside : app.authenticated = false
  streams : app.streams = ∅
  udpSessions : app.udpSessions = ∅
  assembler : app.packetAssembler = .empty
  quiet : ∀ effect ∈ app.trace, ¬ effect.Spawns ∧ ¬ effect.Verified setting
  paidBytes : app.retainedBytes + bytes ≤ app.preAuthBytes
  paidItems : app.retainedItems + items ≤ app.preAuthItems
  bytesLimit : app.preAuthBytes ≤ maxPreAuthBytes
  itemsLimit : app.preAuthItems ≤ maxPreAuthItems

structure Admitted (app : App setting) : Prop where
  inside : app.authenticated = true
  commands : app.pendingUniCommands = []
  admission : ∃ effect ∈ app.trace, effect.Verified setting

def Guarded (app : App setting) : Prop := Waiting app 0 0 ∨ Admitted app

theorem Admitted.later {before after : App setting} (admitted : Admitted before)
    (later : Later before after) : Admitted after where
  inside := later.authenticated admitted.inside
  commands := later.commands admitted.inside admitted.commands
  admission := by
    obtain ⟨effect, member, verified⟩ := admitted.admission
    exact ⟨effect, later.trace.subset member, verified⟩

namespace Waiting

variable {app : App setting} {bytes items : Nat}

theorem new (setting : Setting) (now : Nat) : Waiting (App.new setting now) 0 0 where
  outside := rfl
  streams := rfl
  udpSessions := rfl
  assembler := rfl
  quiet := by simp [App.new]
  paidBytes := Nat.le_refl 0
  paidItems := Nat.le_refl 0
  bytesLimit := Nat.zero_le _
  itemsLimit := Nat.zero_le _

/-- What is charged and not retained may be forgotten. -/
theorem settle (waiting : Waiting app bytes items) : Waiting app 0 0 :=
  { waiting with
    paidBytes := Nat.le_trans (Nat.add_le_add_left (Nat.zero_le _) _) waiting.paidBytes
    paidItems := Nat.le_trans (Nat.add_le_add_left (Nat.zero_le _) _) waiting.paidItems }

theorem emit (waiting : Waiting app bytes items) {effect : Effect} (spawns : ¬ effect.Spawns)
    (verified : ¬ effect.Verified setting) : Waiting (app.emit effect) bytes items :=
  { waiting with
    quiet := by
      intro other member
      rcases List.mem_append.mp member with earlier | last
      · exact waiting.quiet other earlier
      · rw [List.mem_singleton.mp last]
        exact ⟨spawns, verified⟩ }

/-- Charging the budget fails without a change, or pays for what follows. -/
theorem reservePreAuth (waiting : Waiting app 0 0) (now bytes items : Nat) :
    (∃ reason, app.reservePreAuth now bytes items = (app, .error reason)) ∨
      app.reservePreAuth now bytes items = (app.charge bytes items, .ok ()) ∧
      app.checkAuthenticationDeadline now = .ok () ∧
      Waiting (app.charge bytes items) bytes items := by
  unfold App.reservePreAuth
  cases check : app.checkAuthenticationDeadline now with
  | error reason => exact .inl ⟨reason, rfl⟩
  | ok done =>
      cases done
      rw [Attempt.andThen_ok, if_neg (by simp [waiting.outside])]
      split
      · exact .inl ⟨_, rfl⟩
      · next room =>
          have paidBytes := waiting.paidBytes
          have paidItems := waiting.paidItems
          have bytesLimit := waiting.bytesLimit
          have itemsLimit := waiting.itemsLimit
          refine .inr ⟨rfl, rfl, { waiting with
            paidBytes := ?_, paidItems := ?_, bytesLimit := ?_, itemsLimit := ?_ }⟩
          · exact Nat.add_le_add_right paidBytes bytes
          · exact Nat.add_le_add_right paidItems items
          · show app.preAuthBytes + bytes ≤ maxPreAuthBytes
            omega
          · show app.preAuthItems + items ≤ maxPreAuthItems
            omega

/-- Replacing one entry of a charged store: the difference must have been paid. -/
theorem putUniStream (waiting : Waiting app bytes items) {streamId : UInt64}
    {state : UniStreamState} {spareBytes spareItems : Nat}
    (bytesFit : state.retained + spareBytes ≤
      ((app.uniStreams.lookup streamId).elim 0 UniStreamState.retained) + bytes)
    (itemsFit : 1 + spareItems ≤ ((app.uniStreams.lookup streamId).elim 0 fun _ => 1) + items) :
    Waiting { app with uniStreams := app.uniStreams.insert streamId state }
      spareBytes spareItems := by
  have paidBytes := waiting.paidBytes
  have paidItems := waiting.paidItems
  have bytesWeighed :=
    KeyedMap.total_insert_exchange UniStreamState.retained app.uniStreams streamId state
  have itemsWeighed := KeyedMap.total_insert_exchange (fun _ => 1) app.uniStreams streamId state
  refine { waiting with paidBytes := ?_, paidItems := ?_ }
  · simp only [App.retainedBytes] at paidBytes ⊢
    omega
  · simp only [App.retainedItems, KeyedMap.size_eq_total] at paidItems ⊢
    omega

theorem eraseUniStream (waiting : Waiting app 0 0) {streamId : UInt64} {state : UniStreamState}
    (found : app.uniStreams.lookup streamId = some state) :
    Waiting { app with uniStreams := app.uniStreams.erase streamId } state.retained 1 := by
  have paidBytes := waiting.paidBytes
  have paidItems := waiting.paidItems
  have bytesWeighed := KeyedMap.total_eq_erase_add UniStreamState.retained found
  have itemsWeighed := KeyedMap.total_eq_erase_add (fun _ => 1) found
  refine { waiting with paidBytes := ?_, paidItems := ?_ }
  · simp only [App.retainedBytes] at paidBytes ⊢
    omega
  · simp only [App.retainedItems, KeyedMap.size_eq_total] at paidItems ⊢
    omega

theorem putPendingStream (waiting : Waiting app bytes items) {streamId : UInt64}
    {pending : PendingStream}
    (bytesFit : pending.data.length ≤
      ((app.pendingStreams.lookup streamId).elim 0 fun held => held.data.length) + bytes)
    (itemsFit : 1 ≤ ((app.pendingStreams.lookup streamId).elim 0 fun _ => 1) + items) :
    Waiting { app with pendingStreams := app.pendingStreams.insert streamId pending } 0 0 := by
  have paidBytes := waiting.paidBytes
  have paidItems := waiting.paidItems
  have bytesWeighed := KeyedMap.total_insert_exchange (fun held : PendingStream => held.data.length)
    app.pendingStreams streamId pending
  have itemsWeighed :=
    KeyedMap.total_insert_exchange (fun _ => 1) app.pendingStreams streamId pending
  refine { waiting with paidBytes := ?_, paidItems := ?_ }
  · simp only [App.retainedBytes] at paidBytes ⊢
    omega
  · simp only [App.retainedItems, KeyedMap.size_eq_total] at paidItems ⊢
    omega

theorem bufferStream (waiting : Waiting app 0 0) (now : Nat) (streamId : UInt64)
    (data : List UInt8) (fin : Bool) :
    Waiting (app.bufferStream now streamId data fin).1 0 0 := by
  unfold App.bufferStream
  rcases waiting.reservePreAuth now data.length
    (App.newItems app.pendingStreams streamId) with
    ⟨reason, refused⟩ | ⟨charged, _, paid⟩
  · rw [refused]
    exact waiting
  · rw [charged]
    refine paid.putPendingStream ?_ ?_
    · cases found : app.pendingStreams.lookup streamId <;>
        simp [App.extendPending, App.charge, found]
    · cases found : app.pendingStreams.lookup streamId <;>
        simp [App.charge, App.newItems, found]

theorem handleStreamData (waiting : Waiting app 0 0) (now : Nat) (streamId : UInt64)
    (data : List UInt8) (fin : Bool) :
    Waiting (app.handleStreamData now streamId data fin).1 0 0 := by
  have received : Waiting (app.emit (.received streamId fin)) 0 0 := waiting.emit id id
  have buffered := received.bufferStream now streamId data fin
  simp only [App.handleStreamData, received.outside, ↓reduceIte]
  exact buffered

theorem queueDatagram (waiting : Waiting app 0 0) (now : Nat) (data : List UInt8) :
    Waiting (app.queueDatagram now data).1 0 0 := by
  unfold App.queueDatagram
  rcases waiting.reservePreAuth now data.length 1 with ⟨reason, refused⟩ | ⟨charged, _, paid⟩
  · rw [refused]
    exact waiting
  · have paidBytes := paid.paidBytes
    have paidItems := paid.paidItems
    rw [charged]
    refine { paid with paidBytes := ?_, paidItems := ?_ }
    · simp only [App.retainedBytes, Attempt.andThen_ok, List.map_append, List.sum_append,
        List.map_cons, List.map_nil, List.sum_cons, List.sum_nil] at paidBytes ⊢
      omega
    · simp only [App.retainedItems, Attempt.andThen_ok, List.length_append, List.length_cons,
        List.length_nil] at paidItems ⊢
      omega

theorem handleDatagram (waiting : Waiting app 0 0) (now : Nat) (data : List UInt8) :
    Waiting (app.handleDatagram now data).1 0 0 := by
  unfold App.handleDatagram
  cases check : app.checkAuthenticationDeadline now with
  | error reason => exact waiting
  | ok done =>
      cases done
      rw [Attempt.andThen_ok]
      split
      · exact waiting
      · split
        · exact waiting
        · split
          · rw [if_pos waiting.outside]
            exact waiting.queueDatagram now data
          · exact waiting

/-- A complete command keeps the charge that its stream has paid. -/
theorem dispatchCommand (command : QueuedCommand setting.core)
    (waiting : Waiting app command.data.length 1) (now : Nat) :
    Waiting (app.dispatchCommand now command).1 0 0 := by
  have queued : Waiting
      { app with pendingUniCommands := app.pendingUniCommands ++ [command] } 0 0 := by
    have paidBytes := waiting.paidBytes
    have paidItems := waiting.paidItems
    refine { waiting with paidBytes := ?_, paidItems := ?_ }
    · simp only [App.retainedBytes, List.map_append, List.sum_append, List.map_cons,
        List.map_nil, List.sum_cons, List.sum_nil] at paidBytes ⊢
      omega
    · simp only [App.retainedItems, List.length_append, List.length_cons, List.length_nil]
        at paidItems ⊢
      omega
  unfold App.dispatchCommand
  split
  · rw [if_pos waiting.outside]
    exact queued
  · split
    · rw [if_pos waiting.outside]
      exact queued
    · exact waiting.settle

theorem background : Background fun app : App setting => Waiting app 0 0 where
  deadline _ _ waiting := { waiting with }
  queues _ _ _ _ waiting := { waiting with }
  session app assocId session _ found waiting := by
    rw [waiting.udpSessions] at found
    exact absurd found (by simp)
  stream app streamId state _ found _ waiting := by
    rw [waiting.streams] at found
    exact absurd found (by simp)
  cleanup app now waiting := by
    unfold App.maybeCleanupUdpState
    split
    · exact waiting
    · refine { waiting with udpSessions := ?_, assembler := ?_ }
      · simp only [App.evictIdleUdpSessions, waiting.udpSessions]
        rfl
      · simp only [App.evictIdleUdpSessions, waiting.assembler]
        rfl
  close app streamId waiting := by
    have erased : Waiting { app with streams := app.streams.erase streamId } 0 0 :=
      { waiting with streams := by rw [waiting.streams]; rfl }
    exact erased.emit id id

end Waiting

theorem verify_eq_ok {data : List UInt8} {user : TuicUser}
    (verified : App.verify setting data = .ok user) :
    user ∈ setting.users ∧ ∃ token, parseAuthenticate setting.core data = .ok (user.uuid, token) ∧
      setting.exporter user.uuid user.password = .ok token := by
  unfold App.verify at verified
  split at verified
  · cases verified
  · next uuid presented parsed =>
      split at verified
      · cases verified
      · next known found =>
          have sameUuid : known.uuid = uuid := by simpa using List.find?_some found
          split at verified
          · cases verified
          · next expected exported =>
              split at verified
              · next matching =>
                  cases verified
                  exact ⟨List.mem_of_find?_eq_some found, presented, by rw [sameUuid, parsed],
                    by rw [exported, matching]⟩
              · cases verified

theorem Effect.Verified.admits {effect : Effect} (verified : effect.Verified setting) :
    effect.Admits setting := by
  cases effect with
  | authenticate now deadline command =>
      obtain ⟨intime, user, accepted⟩ := verified
      obtain ⟨member, token, parsed, exported⟩ := verify_eq_ok accepted
      exact ⟨intime, user, member, token, parsed, exported⟩
  | _ => exact verified.elim

theorem App.replayCommands_admitted (app : App setting) (now : Nat)
    (inside : app.authenticated = true)
    (admission : ∃ effect ∈ app.trace, effect.Verified setting) :
    Admitted (app.replayCommands now).1 := by
  have emptied : Admitted { app with pendingUniCommands := [] } := ⟨inside, rfl, admission⟩
  exact emptied.later (Attempt.forEach_keeps (Later _) (fun _ command sofar =>
    (Later.handlers _).dispatchCommand sofar now command) (.refl _) app.pendingUniCommands)

theorem App.replayDatagrams_empty (app : App setting) (now : Nat)
    (inside : app.authenticated = true) : (app.replayDatagrams now).1.pendingDatagrams = [] :=
  (Attempt.forEach_keeps (Later { app with pendingDatagrams := [] }) (fun _ datagram sofar =>
    (Later.handlers _).handleDatagram sofar now datagram) (.refl _)
    app.pendingDatagrams).datagrams inside rfl

/-- An AUTHENTICATE command leaves a waiting connection waiting or admits it. -/
theorem Waiting.handleAuthData {app : App setting} (waiting : Waiting app 0 0) (now : Nat)
    (order : IterationOrder UInt64 PendingStream) (data : List UInt8) :
    Guarded (app.handleAuthData now order data).1 := by
  have sameOutside : (app.emit (.authenticate now app.authenticationDeadline data)).authenticated =
      false := waiting.outside
  unfold App.handleAuthData
  dsimp only
  cases check : (app.emit (.authenticate now app.authenticationDeadline
      data)).checkAuthenticationDeadline now with
  | error reason =>
      have late : ¬ now < app.authenticationDeadline := by
        intro early
        simp [App.checkAuthenticationDeadline, App.emit, Nat.not_le.mpr early] at check
      exact .inl (waiting.emit id fun verified => late verified.1)
  | ok done =>
      cases done
      have early : now < app.authenticationDeadline := by
        by_contra late
        simp [App.checkAuthenticationDeadline, App.emit, waiting.outside,
          Nat.not_lt.mp late] at check
      rw [Attempt.andThen_ok]
      split
      · next reason failed =>
          refine .inl (waiting.emit id fun verified => ?_)
          obtain ⟨_, user, accepted⟩ := verified
          rw [failed] at accepted
          cases accepted
      · next user accepted =>
          have replayed := App.replayCommands_admitted ((app.emit
            (.authenticate now app.authenticationDeadline data)).admitUser user) now rfl
            ⟨_, List.mem_append_right _ (List.mem_singleton_self _), early, user, accepted⟩
          refine .inr (Attempt.andThen_keeps Admitted replayed fun current admitted => ?_)
          have handlers := Later.handlers current
          exact admitted.later (Attempt.andThen_keeps (Later current)
            (handlers.replayDatagrams (.refl current) now) fun _ sofar =>
              handlers.replayStreams sofar now order)

/-- A successful authentication has replayed every datagram. -/
theorem App.handleAuthData_empties {app : App setting} {now : Nat}
    {order : IterationOrder UInt64 PendingStream} {data : List UInt8}
    (succeeded : (app.handleAuthData now order data).2 = .ok ()) :
    (app.handleAuthData now order data).1.pendingDatagrams = [] := by
  obtain ⟨_, checked⟩ := Attempt.andThen_eq_ok succeeded
  unfold App.handleAuthData at succeeded ⊢
  dsimp only at checked succeeded ⊢
  rw [checked] at succeeded ⊢
  split at succeeded
  · cases succeeded
  · next user accepted =>
      obtain ⟨_, commands⟩ := Attempt.andThen_eq_ok succeeded
      rw [commands] at succeeded ⊢
      obtain ⟨_, datagrams⟩ := Attempt.andThen_eq_ok succeeded
      rw [datagrams]
      have inside := ((Later.handlers _).replayCommands (.refl ((app.emit
        (.authenticate now app.authenticationDeadline data)).admitUser user)) now).authenticated rfl
      exact ((Later.handlers _).replayStreams (.refl _) now order).datagrams
        (((Later.handlers _).replayDatagrams (.refl _) now).authenticated inside)
        (App.replayDatagrams_empty _ now inside)

namespace Waiting

variable {app : App setting}

/-- The only way out of waiting is an AUTHENTICATE command, handled by a
connection that is still waiting. -/
def OrAuthenticates (result : App.Result setting) : Prop :=
  Waiting result.1 0 0 ∨ ∃ (current : App setting) (now : Nat)
    (order : IterationOrder UInt64 PendingStream) (command : List UInt8),
    Waiting current 0 0 ∧ result = current.handleAuthData now order command

theorem handleUnidirectionalCommand {data : List UInt8} (waiting : Waiting app data.length 1)
    (now : Nat) (order : IterationOrder UInt64 PendingStream) :
    OrAuthenticates (app.handleUnidirectionalCommand now order data) := by
  unfold App.handleUnidirectionalCommand
  split
  · next long =>
      split
      · exact .inr ⟨app, now, order, data, waiting.settle, rfl⟩
      · next other =>
          exact .inl (Waiting.dispatchCommand ⟨data, long, other⟩ waiting now)
  · exact .inl waiting.settle

theorem handleUnidirectionalCommand_of_authComplete (waiting : Waiting app 0 0)
    {data : List UInt8} (complete : App.authComplete setting data = true) (now : Nat)
    (order : IterationOrder UInt64 PendingStream) :
    OrAuthenticates (app.handleUnidirectionalCommand now order data) := by
  simp only [App.authComplete, Bool.and_eq_true, decide_eq_true_eq] at complete
  have long : 2 ≤ data.length := Nat.le_trans (by decide) complete.1
  have code : data.get ⟨1, long⟩ = setting.core.typeCodeAuthenticate := by
    have stored := complete.2
    rw [List.getElem?_eq_getElem long] at stored
    exact Option.some.inj stored
  simp only [App.handleUnidirectionalCommand, long, ↓reduceDIte, code]
  exact .inr ⟨app, now, order, data, waiting, rfl⟩

theorem advanceUniStream {streamId : UInt64} {command : List UInt8}
    (inserted : Waiting
      { app with uniStreams := app.uniStreams.insert streamId (.receiving command) } 0 0)
    (now : Nat) (order : IterationOrder UInt64 PendingStream) (fin : Bool) :
    OrAuthenticates (app.advanceUniStream now order streamId command fin) := by
  have erased := inserted.eraseUniStream (AList.lookup_insert app.uniStreams)
  unfold App.advanceUniStream
  dsimp only
  split
  · exact .inl inserted
  · split
    · exact .inl inserted
    · next incomplete =>
        cases fin with
        | true => exact erased.handleUnidirectionalCommand now order
        | false =>
            have complete : App.authComplete setting command = true := by simpa using incomplete
            refine handleUnidirectionalCommand_of_authComplete ?_ complete now order
            refine erased.putUniStream ?_ ?_
            · simp [UniStreamState.retained]
            · simp

theorem handleUnidirectionalStream (waiting : Waiting app 0 0) (now : Nat)
    (order : IterationOrder UInt64 PendingStream) (streamId : UInt64) (data : List UInt8)
    (fin : Bool) :
    OrAuthenticates (app.handleUnidirectionalStream now order streamId data fin) := by
  unfold App.handleUnidirectionalStream
  rcases waiting.reservePreAuth now data.length (App.newItems app.uniStreams streamId) with
    ⟨reason, refused⟩ | ⟨charged, _, paid⟩
  · rw [refused]
    exact .inl waiting
  · rw [charged, Attempt.andThen_ok]
    have sameStreams : (app.charge data.length
        (App.newItems app.uniStreams streamId)).uniStreams = app.uniStreams := rfl
    cases found : app.uniStreams.lookup streamId with
    | none =>
        simp only [sameStreams, found, Option.getD_none]
        refine advanceUniStream (paid.putUniStream ?_ ?_) now order fin
        · simp [sameStreams, found, UniStreamState.retained]
        · simp [found, App.newItems]
    | some state =>
        simp only [sameStreams, found, Option.getD_some]
        cases state with
        | authenticated =>
            dsimp only
            split
            · exact .inl paid.settle
            · split
              · exact .inl (paid.settle.eraseUniStream found).settle
              · exact .inl paid.settle
        | receiving command =>
            refine advanceUniStream (paid.putUniStream ?_ ?_) now order fin
            · simp [sameStreams, found, UniStreamState.retained]
            · simp [sameStreams, found]

theorem step (waiting : Waiting app 0 0) (event : Event) : OrAuthenticates (app.step event) := by
  cases event with
  | uniStream now order streamId data fin =>
      exact waiting.handleUnidirectionalStream now order streamId data fin
  | streamData now streamId data fin =>
      exact .inl (waiting.handleStreamData now streamId data fin)
  | datagram now data => exact .inl (waiting.handleDatagram now data)
  | _ => exact .inl (Waiting.background.step waiting trivial)

end Waiting

theorem Guarded.step {app : App setting} (guarded : Guarded app) (event : Event) :
    Guarded (app.step event).1 := by
  rcases guarded with waiting | admitted
  · rcases waiting.step event with still | ⟨current, now, order, command, before, same⟩
    · exact .inl still
    · rw [same]
      exact before.handleAuthData now order command
  · exact .inr (admitted.later (app.step_later event))

/-- Every connection is waiting or admitted, whatever has happened to it. -/
theorem run_guarded (setting : Setting) (start : Nat) (events : List Event) :
    Guarded ((appMachine setting).run (App.new setting start) events) :=
  Machine.run_invariant (appMachine setting) (fun _ event guarded => guarded.step event)
    (.inl (Waiting.new setting start)) events

/-- The gate: until an AUTHENTICATE command with a configured user's uuid and
token is processed in time, no relay exists and no fragment is held; nothing
else sets `authenticated`, and nothing clears it. -/
theorem gate_opens_only_for_valid_token (setting : Setting) (start : Nat)
    (events : List Event) :
    let app := (appMachine setting).run (App.new setting start) events
    ((∀ effect ∈ app.trace, ¬ effect.Admits setting) →
      app.authenticated = false ∧ app.streams = ∅ ∧ app.udpSessions = ∅ ∧
        app.packetAssembler = .empty ∧ ∀ effect ∈ app.trace, ¬ effect.Spawns) ∧
    (∀ event, app.authenticated = false → (app.step event).1.authenticated = true →
      ∃ effect ∈ (app.step event).1.trace.drop app.trace.length, effect.Admits setting) ∧
    (app.authenticated = true →
      ∀ more, ((appMachine setting).run app more).authenticated = true) := by
  intro app
  have guarded : Guarded app := run_guarded setting start events
  refine ⟨?_, ?_, ?_⟩
  · intro refused
    rcases guarded with waiting | admitted
    · exact ⟨waiting.outside, waiting.streams, waiting.udpSessions, waiting.assembler,
        fun effect member => (waiting.quiet effect member).1⟩
    · obtain ⟨effect, member, verified⟩ := admitted.admission
      exact absurd verified.admits (refused effect member)
  · intro event outside inside
    rcases guarded with waiting | admitted
    · rcases Guarded.step (.inl waiting) event with still | admitted
      · exact absurd inside (by simp [still.outside])
      · obtain ⟨effect, member, verified⟩ := admitted.admission
        obtain ⟨added, grown⟩ := (app.step_later event).trace
        rw [← grown, List.mem_append] at member
        refine ⟨effect, ?_, verified.admits⟩
        rw [← grown, List.drop_left]
        rcases member with earlier | later
        · exact absurd verified (waiting.quiet effect earlier).2
        · exact later
    · exact absurd admitted.inside (by simp [outside])
  · intro inside more
    exact (run_later app more).authenticated inside

/-- One user, whose token is all zeros. -/
def sampleSetting : Setting where
  core := tuicV5
  inbound := "tuic-in"
  users := [⟨"alice", ⟨⟨List.replicate 16 0, rfl⟩⟩, "secret"⟩]
  exporter _ _ := .ok ⟨List.replicate 32 0, rfl⟩

def asStored : IterationOrder UInt64 PendingStream := ⟨id, fun _ => .refl _⟩

def sampleAuthenticate : List UInt8 := [5, 0] ++ List.replicate 48 0

/-- A CONNECT header that arrives early is relayed once the token has arrived. -/
theorem gate_opens_for_sample_token :
    ((appMachine sampleSetting).run (App.new sampleSetting 0)
      [.streamData 1 0 [5, 1, 1, 127, 0, 0, 1, 0, 80] false]).authenticated = false ∧
    ∃ effect ∈ (((appMachine sampleSetting).run (App.new sampleSetting 0)
        [.streamData 1 0 [5, 1, 1, 127, 0, 0, 1, 0, 80] false]).step
          (.uniStream 2 asStored 2 sampleAuthenticate false)).1.trace.drop 1,
      effect.Admits sampleSetting :=
  ⟨by decide, (gate_opens_only_for_valid_token sampleSetting 0
    [.streamData 1 0 [5, 1, 1, 127, 0, 0, 1, 0, 80] false]).2.1
      (.uniStream 2 asStored 2 sampleAuthenticate false) (by decide) (by decide)⟩

end Rtunnel.Tuic.Inbound
