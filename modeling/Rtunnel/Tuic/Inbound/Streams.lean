import Rtunnel.Tuic.Inbound.Timing

namespace Rtunnel.Tuic.Inbound

open Rtunnel.Data

/-! One stream among everything else that happens on a connection.

Other streams, UDP packets, commands, write passes and timers leave a stream
alone; the AUTHENTICATE command replays what was held back for it.  So a stream's
relay is given what the client has sent on that stream, whatever the rest of the
run is, unless the server itself has closed the stream.
-/

variable {setting : Setting}

/-- As long as the server has not closed the stream, nothing concerned it. -/
def Spares (streamId : UInt64) (base app : App setting) : Prop :=
  .closed streamId ∉ app.trace → Untouched streamId base app

namespace Spares

variable {streamId : UInt64} {base app after : App setting}

theorem refl (streamId : UInt64) (app : App setting) : Spares streamId app app :=
  fun _ => .refl app

theorem keep (spares : Spares streamId base app) (untouched : Untouched streamId app after) :
    Spares streamId base after := by
  intro unclosed
  obtain ⟨added, grown, -⟩ := untouched.trace
  have before : .closed streamId ∉ app.trace := by
    intro closed
    rw [grown] at unclosed
    exact unclosed (List.mem_append_left added closed)
  exact (spares before).trans untouched

theorem close (spares : Spares streamId base app) (closing : UInt64) :
    Spares streamId base (app.writeClose closing).1 := by
  by_cases same : closing = streamId
  · subst same
    exact fun unclosed => absurd (List.mem_append_right _ List.mem_cons_self) unclosed
  · refine spares.keep ⟨id, ?_, rfl, [.closed closing], rfl, ?_⟩
    · exact Iff.of_eq (congrArg (· = none) (AList.lookup_erase_ne (Ne.symm same)))
    · intro effect member
      rw [List.mem_singleton.mp member]
      simp [Effect.Concerns, Effect.RelayOf, Effect.ParseOf, same]

theorem updates (streamId : UInt64) (base : App setting) : Updates (Spares streamId base) where
  deadline _ _ spares := spares.keep (.of_same id rfl rfl rfl)
  queues _ _ _ _ spares := spares.keep (.of_same id rfl rfl rfl)
  session _ _ _ _ _ spares := spares.keep (.of_same id rfl rfl rfl)
  stream _ _ _ next found _ spares := spares.keep (.putStream found next)
  cleanup app now spares := spares.keep (.cleanup app now)
  close _ closing spares := spares.close closing
  charge _ _ _ spares := spares.keep (.of_same id rfl rfl rfl)
  uniStreams _ _ spares := spares.keep (.of_same id rfl rfl rfl)
  queueCommand _ _ _ spares := spares.keep (.of_same id rfl rfl rfl)
  queueDatagram _ _ _ spares := spares.keep (.of_same id rfl rfl rfl)
  clearCommands _ spares := spares.keep (.of_same id rfl rfl rfl)
  clearDatagrams _ spares := spares.keep (.of_same id rfl rfl rfl)
  authenticate _ _ _ _ spares :=
    spares.keep (.of_emitted id rfl rfl rfl (by simp [Effect.Concerns, Effect.RelayOf,
      Effect.ParseOf]))
  admitUser _ _ spares := spares.keep (.of_same (fun _ => rfl) rfl rfl rfl)
  assembler _ _ _ spares := spares.keep (.of_same id rfl rfl rfl)
  openSession _ _ _ _ spares :=
    spares.keep (.of_emitted id rfl rfl rfl (by simp [Effect.Concerns, Effect.RelayOf,
      Effect.ParseOf]))
  useSession _ _ _ spares := spares.keep (.of_same id rfl rfl rfl)
  forward _ _ _ spares :=
    spares.keep (.of_emitted id rfl rfl rfl (by simp [Effect.Concerns, Effect.RelayOf,
      Effect.ParseOf]))
  endSession _ _ spares := spares.keep (.of_same id rfl rfl rfl)

end Spares

theorem App.reservePreAuth_authenticated (app : App setting) (now bytes items : Nat) :
    (app.reservePreAuth now bytes items).1.authenticated = app.authenticated := by
  refine Attempt.andThen_keeps (fun current : App setting =>
    current.authenticated = app.authenticated) rfl fun current same => ?_
  split
  · exact same
  · split
    · exact same
    · exact same

theorem App.handleStreamData_authenticated (app : App setting) (now : Nat) (streamId : UInt64)
    (data : List UInt8) (fin : Bool) :
    (app.handleStreamData now streamId data fin).1.authenticated = app.authenticated := by
  cases outside : app.authenticated with
  | true => exact (App.step_later app (.streamData now streamId data fin)).authenticated outside
  | false =>
      have buffered : app.handleStreamData now streamId data fin =
          (app.emit (.received streamId fin)).bufferStream now streamId data fin := if_pos outside
      rw [buffered]
      refine Attempt.andThen_keeps (fun current : App setting => current.authenticated = false)
        ?_ fun current same => same
      exact (App.reservePreAuth_authenticated _ _ _ _).trans outside

theorem App.handleDatagram_authenticated (app : App setting) (now : Nat) (data : List UInt8) :
    (app.handleDatagram now data).1.authenticated = app.authenticated := by
  cases outside : app.authenticated with
  | true => exact (App.step_later app (.datagram now data)).authenticated outside
  | false =>
      refine Attempt.andThen_keeps (fun current : App setting => current.authenticated = false)
        outside fun current same => ?_
      split
      · exact same
      · split
        · exact same
        · split
          · exact Attempt.andThen_keeps (fun current : App setting =>
              current.authenticated = false)
              ((App.reservePreAuth_authenticated _ _ _ _).trans same) fun current same => same
          · exact same

theorem App.dispatchCommand_authenticated (app : App setting) (now : Nat)
    (command : QueuedCommand setting.core) :
    (app.dispatchCommand now command).1.authenticated = app.authenticated := by
  cases outside : app.authenticated with
  | true =>
      exact ((Later.handlers app).dispatchCommand (.refl app) now command).authenticated outside
  | false =>
      unfold App.dispatchCommand
      rw [if_pos outside, if_pos outside]
      split
      · exact outside
      · split
        · exact outside
        · exact outside

theorem background_authenticated (authenticated : Bool) :
    Background fun app : App setting => app.authenticated = authenticated where
  deadline _ _ same := same
  queues _ _ _ _ same := same
  session _ _ _ _ _ same := same
  stream _ _ _ _ _ _ same := same
  cleanup app now same := by
    unfold App.maybeCleanupUdpState
    split
    · exact same
    · exact same
  close _ _ same := same

/-- What a command on a unidirectional stream does to a bidirectional one: nothing,
or it replays what has been held back. -/
inductive Commanded (streamId : UInt64) (now : Nat) (order : IterationOrder UInt64 PendingStream)
    (app : App setting) (result : App.Result setting) : Prop where
  | aside (kept : Spares streamId app result.1)
      (same : result.1.authenticated = app.authenticated)
  | replays (admitted : App setting) (kept : Spares streamId app admitted)
      (inside : admitted.authenticated = true)
      (replayed : result = admitted.replayStreams now order)

section Commands

variable {app : App setting} {streamId : UInt64} {now : Nat}
  {order : IterationOrder UInt64 PendingStream}

/-- The same seen from an earlier state. -/
theorem Commanded.since {base : App setting} {result : App.Result setting}
    (commanded : Commanded streamId now order app result)
    (spares : Untouched streamId base app) (same : app.authenticated = base.authenticated) :
    Commanded streamId now order base result := by
  cases commanded with
  | aside kept unchanged =>
      exact .aside (fun unclosed => spares.trans (kept unclosed)) (unchanged.trans same)
  | replays admitted kept inside replayed =>
      exact .replays admitted (fun unclosed => spares.trans (kept unclosed)) inside replayed

theorem App.handleAuthData_commanded {data : List UInt8}
    (succeeded : (app.handleAuthData now order data).2 = .ok ()) :
    Commanded streamId now order app (app.handleAuthData now order data) := by
  have updates := Spares.updates streamId app
  obtain ⟨-, checked⟩ := Attempt.andThen_eq_ok succeeded
  unfold App.handleAuthData at succeeded ⊢
  dsimp only at checked succeeded ⊢
  rw [checked] at succeeded ⊢
  split at succeeded
  · cases succeeded
  · rename_i user accepted
    obtain ⟨-, commands⟩ := Attempt.andThen_eq_ok succeeded
    rw [commands] at succeeded ⊢
    obtain ⟨-, datagrams⟩ := Attempt.andThen_eq_ok succeeded
    rw [datagrams]
    have admitted := updates.admitUser _ user
      (updates.authenticate app now app.authenticationDeadline data (.refl streamId app))
    have replayed := updates.replayDatagrams (updates.replayCommands admitted now) now
    refine .replays _ replayed ?_ rfl
    have inside := ((Later.handlers _).replayCommands (.refl ((app.emit
      (.authenticate now app.authenticationDeadline data)).admitUser user)) now).authenticated rfl
    exact ((Later.handlers _).replayDatagrams (.refl _) now).authenticated inside

theorem App.handleUnidirectionalCommand_commanded {data : List UInt8}
    (succeeded : (app.handleUnidirectionalCommand now order data).2 = .ok ()) :
    Commanded streamId now order app (app.handleUnidirectionalCommand now order data) := by
  unfold App.handleUnidirectionalCommand at succeeded ⊢
  split at succeeded
  · rename_i long
    simp only [dif_pos long]
    split at succeeded
    · rename_i authenticates
      simp only [dif_pos authenticates]
      exact App.handleAuthData_commanded succeeded
    · rename_i other
      simp only [dif_neg other]
      exact .aside ((Spares.updates streamId app).dispatchCommand (.refl streamId app) now _)
        (App.dispatchCommand_authenticated app now _)
  · cases succeeded

theorem App.advanceUniStream_commanded {used : UInt64} {command : List UInt8} {fin : Bool}
    (succeeded : (app.advanceUniStream now order used command fin).2 = .ok ()) :
    Commanded streamId now order app (app.advanceUniStream now order used command fin) := by
  unfold App.advanceUniStream at succeeded ⊢
  dsimp only at succeeded ⊢
  split at succeeded
  · cases succeeded
  · rename_i exact_
    simp only [if_neg exact_]
    split at succeeded
    · rename_i incomplete
      simp only [if_pos incomplete]
      exact .aside ((Spares.updates streamId app).uniStreams app _ (.refl streamId app)) rfl
    · rename_i complete
      simp only [if_neg complete]
      cases fin with
      | true =>
          exact (App.handleUnidirectionalCommand_commanded succeeded).since
            (.of_same id rfl rfl rfl) rfl
      | false =>
          exact (App.handleUnidirectionalCommand_commanded succeeded).since
            (.of_same id rfl rfl rfl) rfl

theorem App.handleUnidirectionalStream_commanded {used : UInt64} {data : List UInt8} {fin : Bool}
    (succeeded : (app.handleUnidirectionalStream now order used data fin).2 = .ok ()) :
    Commanded streamId now order app
      (app.handleUnidirectionalStream now order used data fin) := by
  obtain ⟨-, reserved⟩ := Attempt.andThen_eq_ok succeeded
  have charged := App.reservePreAuth_untouched streamId app now data.length
    (App.newItems app.uniStreams used)
  have same := App.reservePreAuth_authenticated app now data.length
    (App.newItems app.uniStreams used)
  unfold App.handleUnidirectionalStream at succeeded ⊢
  rw [reserved] at succeeded ⊢
  generalize (app.reservePreAuth now data.length (App.newItems app.uniStreams used)).1 = paid
    at charged same succeeded ⊢
  refine Commanded.since ?_ charged same
  split at succeeded
  · split at succeeded
    · cases succeeded
    · rename_i empty
      simp only [if_neg empty]
      split
      · exact .aside ((Spares.updates streamId paid).uniStreams paid _ (.refl streamId paid)) rfl
      · exact .aside (.refl streamId paid) rfl
  · exact App.advanceUniStream_commanded succeeded

end Commands

/-- The record along a change that puts no message into a channel. -/
def Watched.lift (watched : Watched setting) (app : App setting) : Watched setting :=
  ⟨app, watched.given ++ (app.trace.drop watched.app.trace.length).filterMap Effect.opening⟩

section Lift

variable {watched : Watched setting} {app after : App setting} {streamId : UInt64}
  {received : PendingStream}

theorem Watched.lift_given (watched : Watched setting) {added : List Effect}
    (grown : app.trace = watched.app.trace ++ added) :
    (watched.lift app).given = watched.given ++ added.filterMap Effect.opening := by
  simp only [Watched.lift, grown, List.drop_left]

theorem Watched.lift_lift (first : watched.app.trace <+: app.trace)
    (second : app.trace <+: after.trace) : (watched.lift app).lift after = watched.lift after := by
  obtain ⟨early, grown⟩ := first
  obtain ⟨late, further⟩ := second
  have whole : after.trace = watched.app.trace ++ (early ++ late) := by
    rw [← further, ← grown, List.append_assoc]
  have given : ((watched.lift app).lift after).given = (watched.lift after).given := by
    rw [watched.lift_given whole, (watched.lift app).lift_given further.symm,
      watched.lift_given grown.symm, List.filterMap_append, List.append_assoc]
  exact congrArg (Watched.mk after) given

theorem Watched.step_eq_lift {event : Event} (silent : watched.app.message event = []) :
    (watched.step event).1 = watched.lift (watched.app.step event).1 := by
  obtain ⟨added, grown⟩ := (App.step_later watched.app event).trace
  have gives : watched.app.gives event = added.filterMap Effect.opening := by
    rw [App.gives_of_trace grown.symm, silent, List.append_nil]
  have given := watched.lift_given grown.symm
  exact congrArg (Watched.mk _) ((congrArg (watched.given ++ ·) gives).trans given.symm)

/-- A change that does not concern a stream gives its relay nothing. -/
theorem Untouched.inputs (untouched : Untouched streamId watched.app app) :
    (watched.lift app).inputs streamId = watched.inputs streamId := by
  obtain ⟨added, grown, apart⟩ := untouched.trace
  simp only [Watched.inputs, watched.lift_given grown, List.filterMap_append,
    openings_eq_nil apart, List.append_nil]

theorem Follows.lift (follows : Follows watched streamId received)
    (untouched : Untouched streamId watched.app app) :
    Follows (watched.lift app) streamId received :=
  follows.of_same untouched untouched.inputs

end Lift

/-- The bytes of a stream are held back, and it has no relay. -/
structure Withheld (watched : Watched setting) (streamId : UInt64) (pending : PendingStream) :
    Prop where
  unknown : watched.app.streams.lookup streamId = none
  pending : (watched.app.pendingStreams.lookup streamId).getD .fresh = pending
  sessions : watched.sessions streamId = []
  payload : watched.payload streamId = []

section Replay

variable {watched : Watched setting} {app : App setting} {streamId : UInt64}
  {pending received : PendingStream}

theorem Withheld.lift (withheld : Withheld watched streamId pending)
    (untouched : Untouched streamId watched.app app) :
    Withheld (watched.lift app) streamId pending := by
  have inputs := untouched.inputs
  refine ⟨untouched.streams.mpr withheld.unknown, untouched.pending ▸ withheld.pending, ?_, ?_⟩
  · simpa only [Watched.sessions, inputs] using withheld.sessions
  · simpa only [Watched.payload, inputs] using withheld.payload

theorem Withheld.follows (decisive : setting.core.Decisive)
    (withheld : Withheld watched streamId .fresh) : Follows watched streamId .fresh := by
  simp only [Follows, fate_fresh decisive]
  exact ⟨withheld.unknown, withheld.pending, withheld.sessions, withheld.payload⟩

/-- Where a stream stands while the streams are replayed: it is among the entries
still to come, or its bytes have been dealt with. -/
structure Replaying (watched : Watched setting) (streamId : UInt64) (pending : PendingStream)
    (entries : List (Sigma fun _ : UInt64 => PendingStream)) (app : App setting) : Prop where
  distinct : entries.NodupKeys
  inside : app.authenticated = true
  started : watched.app.trace <+: app.trace
  ahead : ∀ held, entries.dlookup streamId = some held →
    held = pending ∧ Withheld (watched.lift app) streamId .fresh
  behind : entries.dlookup streamId = none →
    Follows (watched.lift app) streamId (replayed pending)

namespace Replaying

variable {now : Nat} {used : UInt64} {held : PendingStream}
  {entries : List (Sigma fun _ : UInt64 => PendingStream)}

/-- An entry without a byte is not replayed. -/
theorem skip (decisive : setting.core.Decisive)
    (replaying : Replaying watched streamId pending (⟨used, held⟩ :: entries) app)
    (empty : held.data = []) : Replaying watched streamId pending entries app := by
  obtain ⟨absent, rest⟩ := List.nodupKeys_cons.mp replaying.distinct
  refine ⟨rest, replaying.inside, replaying.started, ?_, ?_⟩
  · intro found still
    have different : streamId ≠ used := by
      intro same
      subst same
      exact absurd (List.dlookup_eq_none.mpr absent) (by simp [still])
    exact replaying.ahead found (by rwa [List.dlookup_cons_ne _ _ different])
  · intro gone
    by_cases same : streamId = used
    · subst same
      obtain ⟨rfl, withheld⟩ := replaying.ahead held (List.dlookup_cons_eq _ _ _)
      rw [replayed, if_pos empty]
      exact withheld.follows decisive
    · exact replaying.behind (by rwa [List.dlookup_cons_ne _ _ same])

/-- The entry of another stream. -/
theorem other (replaying : Replaying watched streamId pending (⟨used, held⟩ :: entries) app)
    (different : used ≠ streamId) :
    Replaying watched streamId pending entries
      (app.step (.streamData now used held.data held.fin)).1 := by
  obtain ⟨-, rest⟩ := List.nodupKeys_cons.mp replaying.distinct
  have untouched := App.handleStreamData_untouched different app now held.data held.fin
  have later := App.step_later app (.streamData now used held.data held.fin)
  have lifted : (watched.lift app).lift (app.step (.streamData now used held.data held.fin)).1 =
      watched.lift (app.step (.streamData now used held.data held.fin)).1 :=
    Watched.lift_lift replaying.started later.trace
  refine ⟨rest, later.authenticated replaying.inside, replaying.started.trans later.trace, ?_, ?_⟩
  · intro found still
    obtain ⟨same, withheld⟩ :=
      replaying.ahead found (by rwa [List.dlookup_cons_ne _ _ (Ne.symm different)])
    exact ⟨same, lifted ▸ withheld.lift untouched⟩
  · intro gone
    have follows := replaying.behind (by rwa [List.dlookup_cons_ne _ _ (Ne.symm different)])
    exact lifted ▸ follows.lift untouched

/-- The entry of the stream itself. -/
theorem own (decisive : setting.core.Decisive)
    (replaying : Replaying watched streamId pending (⟨streamId, held⟩ :: entries) app)
    (nonempty : held.data ≠ [])
    (succeeded : (app.step (.streamData now streamId held.data held.fin)).2 = .ok ()) :
    Replaying watched streamId pending entries
      (app.step (.streamData now streamId held.data held.fin)).1 := by
  obtain ⟨absent, rest⟩ := List.nodupKeys_cons.mp replaying.distinct
  have gone : List.dlookup streamId entries = none := List.dlookup_eq_none.mpr absent
  obtain ⟨rfl, withheld⟩ := replaying.ahead held (List.dlookup_cons_eq _ _ _)
  have unknown : app.streams.lookup streamId = none := withheld.unknown
  have later := App.step_later app (.streamData now streamId held.data held.fin)
  have silent : (watched.lift app).app.message (.streamData now streamId held.data held.fin) =
      [] := by
    simp only [Watched.lift, App.message, unknown]
  have lifted := (Watched.step_eq_lift silent).trans
    (Watched.lift_lift replaying.started later.trace)
  refine ⟨rest, later.authenticated replaying.inside, replaying.started.trans later.trace, ?_, ?_⟩
  · intro found still
    exact absurd still (by simp [gone])
  · intro _
    have fits : ∀ state, (watched.lift app).app.streams.lookup streamId = some state →
        held.data = [] ∨ state.clientTx.Accepts := by
      intro state found
      exact absurd found (by simp [Watched.lift, unknown])
    rw [replayed, if_neg nonempty]
    rcases (withheld.follows decisive).step decisive replaying.inside rfl now held.data held.fin
      fits with ⟨-, follows⟩ | ⟨⟨reason, failed⟩, -⟩
    · rw [lifted] at follows
      exact follows
    · exact absurd (failed.symm.trans succeeded) (by simp)

theorem step (decisive : setting.core.Decisive)
    (replaying : Replaying watched streamId pending (⟨used, held⟩ :: entries) app)
    (succeeded : (app.replayStream now ⟨used, held⟩).2 = .ok ()) :
    Replaying watched streamId pending entries (app.replayStream now ⟨used, held⟩).1 := by
  by_cases empty : held.data = []
  · have skipped : app.replayStream now ⟨used, held⟩ = (app, .ok ()) := if_pos empty
    rw [skipped]
    exact replaying.skip decisive empty
  · have handled : app.replayStream now ⟨used, held⟩ =
        app.step (.streamData now used held.data held.fin) := if_neg empty
    rw [handled] at succeeded ⊢
    by_cases same : used = streamId
    · subst same
      exact replaying.own decisive empty succeeded
    · exact replaying.other same

end Replaying

/-- The replay comes to the fate of what was held back. -/
theorem Withheld.replays (decisive : setting.core.Decisive)
    (withheld : Withheld watched streamId pending) (inside : watched.app.authenticated = true)
    {now : Nat} {order : IterationOrder UInt64 PendingStream}
    (succeeded : (watched.app.replayStreams now order).2 = .ok ()) :
    Follows (watched.lift (watched.app.replayStreams now order).1) streamId
      (replayed pending) := by
  have distinct : (order.arrange watched.app.pendingStreams.entries).NodupKeys :=
    (List.perm_nodupKeys (order.perm _)).mpr watched.app.pendingStreams.nodupKeys
  have found : (order.arrange watched.app.pendingStreams.entries).dlookup streamId =
      watched.app.pendingStreams.lookup streamId :=
    List.perm_dlookup streamId distinct (order.perm _)
  have emptied : Withheld (watched.lift { watched.app with pendingStreams := ∅ }) streamId
      .fresh := by
    have same : (watched.lift { watched.app with pendingStreams := ∅ }).given = watched.given := by
      simp [Watched.lift]
    refine ⟨withheld.unknown, rfl, ?_, ?_⟩
    · simpa only [Watched.sessions, Watched.inputs, same] using withheld.sessions
    · simpa only [Watched.payload, Watched.inputs, same] using withheld.payload
  have start : Replaying watched streamId pending
      (order.arrange watched.app.pendingStreams.entries)
      { watched.app with pendingStreams := ∅ } := by
    refine ⟨distinct, inside, List.prefix_rfl, ?_, ?_⟩
    · intro held still
      have pending := withheld.pending
      rw [← found, still] at pending
      exact ⟨pending, emptied⟩
    · intro gone
      have pending := withheld.pending
      rw [← found, gone] at pending
      subst pending
      exact emptied.follows decisive
  have finished := Attempt.forEach_of_ok (Replaying watched streamId pending)
    (fun app entry entries replaying handled => replaying.step decisive handled) start succeeded
  exact finished.behind rfl

/-- A stream of which nothing is held back has no part in the replay. -/
theorem App.replayStreams_untouched {now : Nat} {order : IterationOrder UInt64 PendingStream}
    (absent : app.pendingStreams.lookup streamId = none)
    (succeeded : (app.replayStreams now order).2 = .ok ()) :
    Untouched streamId app (app.replayStreams now order).1 := by
  have foreign : ∀ entry ∈ order.arrange app.pendingStreams.entries, entry.1 ≠ streamId := by
    intro entry member same
    have stored : entry.1 ∈ app.pendingStreams :=
      List.mem_map_of_mem ((order.perm _).mem_iff.mp member)
    exact absurd (AList.lookup_eq_none.mp absent) (not_not.mpr (same ▸ stored))
  have emptied : Untouched streamId app { app with pendingStreams := ∅ } :=
    ⟨id, Iff.rfl, absent.symm, [], (List.append_nil _).symm, by simp⟩
  refine (Attempt.forEach_of_ok (fun entries current =>
    (∀ entry ∈ entries, entry.1 ≠ streamId) ∧ Untouched streamId app current)
    (fun current entry entries holds _ => ?_) ⟨foreign, emptied⟩ succeeded).2
  obtain ⟨first, rest⟩ := List.forall_mem_cons.mp holds.1
  refine ⟨rest, ?_⟩
  unfold App.replayStream
  split
  · exact holds.2
  · exact holds.2.trans (App.handleStreamData_untouched first current now _ _)

theorem Follows.replay (decisive : setting.core.Decisive)
    (follows : Follows watched streamId received) (inside : watched.app.authenticated = true)
    {now : Nat} {order : IterationOrder UInt64 PendingStream}
    (succeeded : (watched.app.replayStreams now order).2 = .ok ()) :
    Follows (watched.lift (watched.app.replayStreams now order).1) streamId received := by
  cases outcome : fate setting.core received with
  | error reason => exact absurd ⟨reason, outcome⟩ follows.not_doomed
  | ok found =>
      have stands := follows
      simp only [Follows, outcome] at stands
      cases found with
      | none =>
          have unfinished := fin_of_fate_none outcome
          have withheld : Withheld watched streamId received := by
            refine ⟨stands.unknown, stands.pending.trans ?_, stands.sessions, stands.payload⟩
            rw [← unfinished]
          have whole : replayed received = received := by
            unfold replayed
            split
            · rename_i empty
              rw [PendingStream.fresh, ← unfinished, ← empty]
            · rfl
          exact whole ▸ withheld.replays decisive inside succeeded
      | some relay => exact follows.lift (App.replayStreams_untouched stands.pending succeeded)

end Replay

/-- Where a stream stands after the bytes that have arrived on it: they are held
back until the client is authenticated, and then have been dealt with.  An end
without a byte may have been dropped with the replay. -/
inductive Tracked (watched : Watched setting) (streamId : UInt64) (received : PendingStream) :
    Prop where
  | outside (waiting : watched.app.authenticated = false)
      (withheld : Withheld watched streamId received)
  | inside (admitted : watched.app.authenticated = true) (known : PendingStream)
      (heard : known = received ∨ received.data = [] ∧ known = .fresh)
      (follows : Follows watched streamId known)

namespace Tracked

variable {watched : Watched setting} {streamId : UInt64} {received : PendingStream} {now : Nat}
  {order : IterationOrder UInt64 PendingStream} {data : List UInt8} {fin : Bool}
  {app : App setting}

theorem new (setting : Setting) (start : Nat) (streamId : UInt64) :
    Tracked ⟨App.new setting start, []⟩ streamId .fresh :=
  .outside rfl ⟨rfl, rfl, rfl, rfl⟩

theorem lift (tracked : Tracked watched streamId received)
    (untouched : Untouched streamId watched.app app)
    (same : app.authenticated = watched.app.authenticated) :
    Tracked (watched.lift app) streamId received := by
  cases tracked with
  | outside waiting withheld => exact .outside (same.trans waiting) (withheld.lift untouched)
  | inside admitted known heard follows =>
      exact .inside (same.trans admitted) known heard (follows.lift untouched)

/-- The AUTHENTICATE command. -/
theorem replay (decisive : setting.core.Decisive) (tracked : Tracked watched streamId received)
    {admitted : App setting} (untouched : Untouched streamId watched.app admitted)
    (inside : admitted.authenticated = true)
    (succeeded : (admitted.replayStreams now order).2 = .ok ()) :
    Tracked (watched.lift (admitted.replayStreams now order).1) streamId received := by
  have later := (Later.handlers admitted).replayStreams (.refl admitted) now order
  obtain ⟨added, grown, -⟩ := untouched.trace
  have lifted := Watched.lift_lift ⟨added, grown.symm⟩ later.trace
  have still := later.authenticated inside
  cases tracked with
  | outside waiting withheld =>
      have follows := (withheld.lift untouched).replays decisive inside succeeded
      refine .inside still (replayed received) ?_ (lifted ▸ follows)
      unfold replayed
      split
      · rename_i empty
        exact .inr ⟨empty, rfl⟩
      · exact .inl rfl
  | inside _ known heard follows =>
      exact .inside still known heard
        (lifted ▸ (follows.lift untouched).replay decisive inside succeeded)

/-- Data on the stream before the client is authenticated. -/
theorem buffer (withheld : Withheld watched streamId received)
    (waiting : watched.app.authenticated = false)
    (succeeded : (watched.app.step (.streamData now streamId data fin)).2 = .ok ()) :
    Tracked (watched.step (.streamData now streamId data fin)).1 streamId
      (received.extend data fin) := by
  have silent : watched.app.message (.streamData now streamId data fin) = [] := by
    simp only [App.message, withheld.unknown]
  have outside : (watched.app.emit (.received streamId fin)).authenticated = false := waiting
  have buffered : watched.app.step (.streamData now streamId data fin) =
      (watched.app.emit (.received streamId fin)).bufferStream now streamId data fin :=
    if_pos waiting
  rw [buffered] at succeeded
  obtain ⟨admitted, -⟩ := Attempt.andThen_eq_ok succeeded
  obtain ⟨charged, -⟩ := App.reservePreAuth_eq_ok outside admitted
  rw [App.bufferStream, charged, Attempt.andThen_ok] at buffered
  generalize held : (App.charge _ _ _).extendPending streamId data fin = pending at buffered
  have extended : pending = received.extend data fin := by
    rw [← held, ← withheld.pending]
    rfl
  have grown : (watched.app.step (.streamData now streamId data fin)).1.trace =
      watched.app.trace ++ [.received streamId fin] := by
    rw [buffered]
    rfl
  have given : (watched.step (.streamData now streamId data fin)).1.given = watched.given := by
    rw [Watched.step_eq_lift silent, watched.lift_given grown]
    exact List.append_nil _
  refine .outside (congrArg (fun done => done.1.authenticated) buffered |>.trans waiting)
    ⟨?_, ?_, ?_, ?_⟩
  · exact (congrArg (fun done => done.1.streams.lookup streamId) buffered).trans withheld.unknown
  · have stored : (watched.app.step (.streamData now streamId data fin)).1.pendingStreams.lookup
        streamId = some pending := by
      rw [buffered]
      exact AList.lookup_insert _
    exact (congrArg (·.getD .fresh) stored).trans extended
  · simpa only [Watched.sessions, Watched.inputs, given] using withheld.sessions
  · simpa only [Watched.payload, Watched.inputs, given] using withheld.payload

/-- A call that succeeds had room for its message. -/
theorem room_of_ok (admitted : watched.app.authenticated = true)
    (succeeded : (watched.app.step (.streamData now streamId data fin)).2 = .ok ()) :
    ∀ state, watched.app.streams.lookup streamId = some state →
      data = [] ∨ state.clientTx.Accepts := by
  intro state found
  by_contra refused
  obtain ⟨nonempty, full⟩ := not_or.mp refused
  have handled : watched.app.step (.streamData now streamId data fin) =
      (watched.app.emit (.received streamId fin)).sendToRelay streamId state data fin := by
    refine (App.handleStreamData_of_inside admitted now streamId data fin).trans ?_
    simp only [found]
  rw [handled, App.sendToRelay, if_neg nonempty, Channel.trySend_of_not_accepts full] at succeeded
  cases succeeded

/-- Data on the stream. -/
theorem receive (decisive : setting.core.Decisive) (tracked : Tracked watched streamId received)
    (unfinished : received.fin = false)
    (succeeded : (watched.step (.streamData now streamId data fin)).2 = .ok ()) :
    Tracked (watched.step (.streamData now streamId data fin)).1 streamId
      (received.extend data fin) := by
  cases tracked with
  | outside waiting withheld => exact buffer withheld waiting succeeded
  | inside admitted known heard follows =>
      have same : known = received := by
        rcases heard with same | ⟨empty, rfl⟩
        · exact same
        · rw [PendingStream.fresh, ← unfinished, ← empty]
      subst same
      have still := (App.step_later watched.app
        (.streamData now streamId data fin)).authenticated admitted
      rcases follows.step decisive admitted unfinished now data fin
        (room_of_ok admitted succeeded) with ⟨-, next⟩ | ⟨⟨reason, failed⟩, -⟩
      · exact .inside still _ (.inl rfl) next
      · exact absurd (failed.symm.trans succeeded) (by simp)

/-- Data on another stream. -/
theorem other (tracked : Tracked watched streamId received) {used : UInt64}
    (different : used ≠ streamId) (now : Nat) (data : List UInt8) (fin : Bool) :
    Tracked (watched.step (.streamData now used data fin)).1 streamId received := by
  have untouched := App.handleStreamData_untouched different watched.app now data fin
  have same := App.handleStreamData_authenticated watched.app now used data fin
  cases tracked with
  | outside waiting withheld =>
      have silent : watched.app.message (.streamData now used data fin) = [] := by
        simp only [App.message, waiting]
        split <;> simp
      rw [Watched.step_eq_lift silent]
      exact .outside (same.trans waiting) (withheld.lift untouched)
  | inside admitted known heard follows =>
      refine .inside (same.trans admitted) known heard (follows.untouched untouched ?_)
      intro entry sent
      simp only [App.message] at sent
      split at sent
      · split at sent
        · rw [List.mem_singleton.mp sent]
          exact different
        · cases sent
      · cases sent

/-- An event that is no data on a stream and leaves authentication alone. -/
theorem spare (tracked : Tracked watched streamId received) {event : Event}
    (silent : watched.app.message event = [])
    (spares : Spares streamId watched.app (watched.app.step event).1)
    (unclosed : .closed streamId ∉ (watched.step event).1.app.trace)
    (same : (watched.app.step event).1.authenticated = watched.app.authenticated) :
    Tracked (watched.step event).1 streamId received := by
  rw [Watched.step_eq_lift silent]
  exact tracked.lift (spares unclosed) same

theorem command (decisive : setting.core.Decisive) (tracked : Tracked watched streamId received)
    {used : UInt64} (succeeded : (watched.step (.uniStream now order used data fin)).2 = .ok ())
    (unclosed :
      .closed streamId ∉ (watched.step (.uniStream now order used data fin)).1.app.trace) :
    Tracked (watched.step (.uniStream now order used data fin)).1 streamId received := by
  have commanded : Commanded streamId now order watched.app
      (watched.app.step (.uniStream now order used data fin)) :=
    App.handleUnidirectionalStream_commanded succeeded
  cases commanded with
  | aside kept same => exact tracked.spare rfl kept unclosed same
  | replays admitted kept inside replayed =>
      have later := (Later.handlers admitted).replayStreams (.refl admitted) now order
      have silent : watched.app.message (.uniStream now order used data fin) = [] := rfl
      have finished : (admitted.replayStreams now order).2 = .ok () := by
        rw [← replayed]
        exact succeeded
      have before : .closed streamId ∉ admitted.trace := by
        intro closed
        refine unclosed ?_
        have final : (watched.step (.uniStream now order used data fin)).1.app =
            (admitted.replayStreams now order).1 := congrArg Prod.fst replayed
        rw [final]
        exact later.trace.subset closed
      rw [Watched.step_eq_lift silent, replayed]
      exact tracked.replay decisive (kept before) inside finished

/-- One event that has been handled without an error. -/
theorem step (decisive : setting.core.Decisive) {arrived : UInt64 → PendingStream}
    (tracked : Tracked watched streamId (arrived streamId)) {event : Event}
    (unfinished : event.DataOn streamId → (arrived streamId).fin = false)
    (succeeded : (watched.step event).2 = .ok ())
    (unclosed : .closed streamId ∉ (watched.step event).1.app.trace) :
    Tracked (watched.step event).1 streamId (event.extend arrived streamId) := by
  have updates := Spares.updates streamId watched.app
  have start := Spares.refl streamId watched.app
  cases event with
  | streamData now used data fin =>
      by_cases same : streamId = used
      · subst same
        rw [Event.extend, Function.update_self]
        exact tracked.receive decisive (unfinished rfl) succeeded
      · rw [Event.extend, Function.update_of_ne same]
        exact tracked.other (Ne.symm same) now data fin
  | uniStream now order used data fin => exact tracked.command decisive succeeded unclosed
  | datagram now data =>
      exact tracked.spare rfl (updates.handleDatagram start now data) unclosed
        (App.handleDatagram_authenticated watched.app now data)
  | _ =>
      exact tracked.spare rfl (updates.toBackground.step start trivial) unclosed
        ((background_authenticated watched.app.authenticated).step rfl trivial)

/-- A run without an error. -/
theorem handleAll (decisive : setting.core.Decisive) (arrived : UInt64 → PendingStream)
    {events : List Event} (tracked : Tracked watched streamId (arrived streamId))
    (unfinished : ∀ event ∈ events, event.DataOn streamId → (arrived streamId).fin = false)
    (orderly : events.Pairwise fun earlier later =>
      earlier.EndsStream streamId → ¬ later.DataOn streamId)
    (succeeded : (watched.handleAll events).2 = .ok ())
    (unclosed : .closed streamId ∉ (watched.handleAll events).1.app.trace) :
    Tracked (watched.handleAll events).1 streamId (receivedAfter arrived events streamId) := by
  induction events generalizing watched arrived with
  | nil => exact tracked
  | cons event events ih =>
      obtain ⟨first, rest⟩ := Attempt.andThen_eq_ok succeeded
      have unfolded : watched.handleAll (event :: events) =
          (watched.step event).1.handleAll events := rest
      rw [unfolded] at succeeded unclosed ⊢
      have before : .closed streamId ∉ (watched.step event).1.app.trace := fun closed =>
        unclosed (((watched.step event).1.handleAll_later events).trace.subset closed)
      have next := tracked.step decisive (unfinished event List.mem_cons_self) first before
      refine ih _ next ?_ orderly.of_cons succeeded unclosed
      intro later member carries
      have open_ := unfinished later (List.mem_cons_of_mem event member) carries
      have after := List.rel_of_pairwise_cons orderly member
      exact Event.extend_fin (fun ends => after ends carries) open_

end Tracked

/-- In every run that is handled without an error, a stream that the server has not
closed gets what its own bytes call for: nothing before the client is authenticated,
and then one relay to the target of its header with the bytes behind it. -/
theorem streams_are_relayed_as_received (decisive : setting.core.Decisive) (start : Nat)
    (events : List Event) (streamId : UInt64)
    (orderly : events.Pairwise fun earlier later =>
      earlier.EndsStream streamId → ¬ later.DataOn streamId)
    (succeeded : ((Watched.mk (App.new setting start) []).handleAll events).2 = .ok ())
    (unclosed : .closed streamId ∉
      ((Watched.mk (App.new setting start) []).handleAll events).1.app.trace) :
    let watched := ((Watched.mk (App.new setting start) []).handleAll events).1
    (watched.app.authenticated = false →
      watched.sessions streamId = [] ∧ watched.payload streamId = []) ∧
    (watched.app.authenticated = true → (receivedIn events streamId).data ≠ [] →
      match fate setting.core (receivedIn events streamId) with
      | .error _ => False
      | .ok none => watched.sessions streamId = [] ∧ watched.payload streamId = []
      | .ok (some (target, payload)) =>
          watched.sessions streamId = [⟨setting.inbound, .connect, target⟩] ∧
          watched.payload streamId = payload) := by
  intro watched
  have tracked := Tracked.handleAll decisive (fun _ => .fresh)
    (Tracked.new setting start streamId) (fun _ _ _ => rfl) orderly succeeded unclosed
  refine ⟨fun waiting => ?_, fun admitted nonempty => ?_⟩
  · cases tracked with
    | outside _ withheld => exact ⟨withheld.sessions, withheld.payload⟩
    | inside admitted _ _ _ => exact absurd (admitted.symm.trans waiting) (by simp)
  · cases tracked with
    | outside waiting _ => exact absurd (waiting.symm.trans admitted) (by simp)
    | inside _ known heard follows =>
        have same : known = receivedIn events streamId :=
          heard.resolve_right fun empty => nonempty empty.1
        subst same
        cases outcome : fate setting.core (receivedIn events streamId) with
        | error reason => exact follows.not_doomed ⟨reason, outcome⟩
        | ok found =>
            simp only [Follows, outcome] at follows
            cases found with
            | none => exact ⟨follows.sessions, follows.payload⟩
            | some relay => exact ⟨follows.sessions, follows.payload⟩

/-- A stream whose header arrives around the AUTHENTICATE command, among another
stream, heartbeats, write passes and timers. -/
def busyConnection : List Event :=
  [.streamData 1 0 [5, 1, 1] false, .datagram 1 [5, 4],
    .uniStream 2 asStored 2 sampleAuthenticate true, .streamData 3 4 (sampleConnect 81) false,
    .enqueue (.data 0 [9] false), .processWrites 4 [] [.sent 1],
    .streamData 5 0 [127, 0, 0, 1, 0, 80, 7] false, .relayReceives 0, .waitForData 6 7 false,
    .streamData 8 0 [8] true]

theorem busy_connection_relays_stream :
    let watched := ((Watched.mk (App.new sampleSetting 0) []).handleAll busyConnection).1
    watched.sessions 0 = [sampleSession 80] ∧ watched.payload 0 = [7, 8] := by
  have decisive : sampleSetting.core.Decisive := tuicV5_decisive
  have relayed := (streams_are_relayed_as_received decisive 0 busyConnection 0
    (by simp [busyConnection, Event.EndsStream]) (by decide +kernel) (by decide +kernel)).2
    (by decide +kernel) (by decide +kernel)
  have outcome : fate sampleSetting.core (receivedIn busyConnection 0) =
      .ok (some (.ip (.v4 loopback 80), [7, 8])) := by decide +kernel
  rw [outcome] at relayed
  exact relayed

end Rtunnel.Tuic.Inbound
