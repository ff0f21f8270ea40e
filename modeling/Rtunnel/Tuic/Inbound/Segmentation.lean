import Rtunnel.Tuic.Inbound.Fates
import Rtunnel.Tuic.Inbound.Frames

namespace Rtunnel.Tuic.Inbound

open Rtunnel.Data

/-! How a stream is cut into reads does not matter.

The bytes of a stream arrive in as many pieces as the QUIC library likes, and the
last one carries the end of the stream.  A bidirectional stream comes to the fate
of all its bytes.  A unidirectional stream executes the one command that its bytes
make up: an AUTHENTICATE as soon as it is complete, any other at the end.
-/

variable {setting : Setting}

/-- The same connection with other unidirectional streams. -/
def App.withUni (uniStreams : KeyedMap UInt64 UniStreamState) (app : App setting) : App setting :=
  { app with uniStreams := uniStreams }

/-- Handling an AUTHENTICATE does not look at the unidirectional streams. -/
theorem App.handleAuthData_withUni (uniStreams : KeyedMap UInt64 UniStreamState)
    (app : App setting) (now : Nat) (order : IterationOrder UInt64 PendingStream)
    (data : List UInt8) :
    (app.withUni uniStreams).handleAuthData now order data =
      (app.handleAuthData now order data).map (withUni uniStreams) :=
  App.handleAuthData_aside (fun aside => { aside with uniStreams := uniStreams }) app now order data

/-- A unidirectional stream in pieces, the last of which carries its end. -/
inductive UniSegments (streamId : UInt64) : List UInt8 → List Event → Prop
  | last (now : Nat) (order : IterationOrder UInt64 PendingStream) (data : List UInt8) :
      UniSegments streamId data [.uniStream now order streamId data true]
  | more (now : Nat) (order : IterationOrder UInt64 PendingStream) (data : List UInt8)
      {bytes : List UInt8} {events : List Event} (rest : UniSegments streamId bytes events) :
      UniSegments streamId (data ++ bytes) (.uniStream now order streamId data false :: events)

/-- An AUTHENTICATE with bytes behind it. -/
def Excess (setting : Setting) (command : List UInt8) : Prop :=
  App.authComplete setting command = true ∧ command.length ≠ authenticateLen

/-- The calls come to a single execution of the command. -/
structure Executes (base : App setting) (now : Nat)
    (order : IterationOrder UInt64 PendingStream) (command : List UInt8)
    (result : App.Result setting) : Prop where
  excess : Excess setting command → result.Fails
  fails : ¬ Excess setting command →
    (result.Fails ↔ (base.handleUnidirectionalCommand now order command).Fails)
  executes : ¬ Excess setting command →
    (base.handleUnidirectionalCommand now order command).2 = .ok () →
    result = base.handleUnidirectionalCommand now order command

/-- A connection that is `base` but for a stream that holds the first bytes of a command. -/
structure Receives (base app : App setting) (streamId : UInt64) (held : List UInt8) : Prop where
  others : app = base.withUni app.uniStreams
  held : (app.uniStreams.lookup streamId).getD (.receiving []) = .receiving held
  rest : app.uniStreams.erase streamId = base.uniStreams

section UniRuns

variable {base app : App setting} {streamId : UInt64} {held bytes : List UInt8}
  {command : List UInt8} {events : List Event}

theorem authComplete_iff : App.authComplete setting command = true ↔
    authenticateLen ≤ command.length ∧
      command[1]? = some setting.core.typeCodeAuthenticate := by
  simp [App.authComplete]

theorem authComplete_append (complete : App.authComplete setting command = true)
    (rest : List UInt8) :
    App.authComplete setting (command ++ rest) = true := by
  obtain ⟨long, code⟩ := authComplete_iff.mp complete
  have second : 1 < command.length := lt_of_lt_of_le (by decide) long
  refine authComplete_iff.mpr ⟨?_, ?_⟩
  · rw [List.length_append]
    omega
  · rw [List.getElem?_append_left second]
    exact code

theorem Excess.append (excess : Excess setting command) (rest : List UInt8) :
    Excess setting (command ++ rest) := by
  obtain ⟨complete, other⟩ := excess
  have long := (authComplete_iff.mp complete).1
  refine ⟨authComplete_append complete rest, ?_⟩
  rw [List.length_append]
  omega

/-- A complete AUTHENTICATE admits no further byte. -/
theorem excess_append_iff (complete : App.authComplete setting command = true)
    (exact : command.length = authenticateLen) (rest : List UInt8) :
    Excess setting (command ++ rest) ↔ rest ≠ [] := by
  have long : (command ++ rest).length ≠ authenticateLen ↔ rest ≠ [] := by
    rw [List.length_append, exact, ne_eq, Nat.add_eq_left, List.length_eq_zero_iff]
  exact ⟨fun excess => long.mp excess.2,
    fun more => ⟨authComplete_append complete rest, long.mpr more⟩⟩

theorem App.handleUnidirectionalCommand_of_authComplete
    (complete : App.authComplete setting command = true) (app : App setting) (now : Nat)
    (order : IterationOrder UInt64 PendingStream) :
    app.handleUnidirectionalCommand now order command = app.handleAuthData now order command := by
  obtain ⟨long, code⟩ := authComplete_iff.mp complete
  have second : 2 ≤ command.length := le_trans (by decide) long
  have authenticates : command.get ⟨1, second⟩ = setting.core.typeCodeAuthenticate := by
    rw [List.getElem?_eq_getElem second] at code
    exact Option.some.inj code
  unfold App.handleUnidirectionalCommand
  rw [dif_pos second, dif_pos authenticates]

theorem App.reservePreAuth_of_inside (inside : app.authenticated = true) (now bytes items : Nat) :
    app.reservePreAuth now bytes items = (app, .ok ()) := by
  simp [App.reservePreAuth, App.checkAuthenticationDeadline, inside]

theorem App.uniStream_of_inside (inside : app.authenticated = true) (now : Nat)
    (order : IterationOrder UInt64 PendingStream) (streamId : UInt64) (data : List UInt8)
    (fin : Bool) :
    app.step (.uniStream now order streamId data fin) =
      match (app.uniStreams.lookup streamId).getD (.receiving []) with
      | .authenticated =>
          if data ≠ [] then
            (app, .error (.message "unexpected data after tuic authentication"))
          else if fin then (app.withUni (app.uniStreams.erase streamId), .ok ())
          else (app, .ok ())
      | .receiving command => app.advanceUniStream now order streamId (command ++ data) fin := by
  simp only [App.step, App.handleUnidirectionalStream, App.reservePreAuth_of_inside inside,
    Attempt.andThen_ok]
  rfl

/-- After its AUTHENTICATE a stream may end but not go on. -/
theorem UniSegments.after_authenticate (segments : UniSegments streamId bytes events)
    (inside : app.authenticated = true)
    (known : app.uniStreams.lookup streamId = some .authenticated) :
    (bytes ≠ [] → (Attempt.forEach App.step app events).Fails) ∧
    (bytes = [] → Attempt.forEach App.step app events =
      (app.withUni (app.uniStreams.erase streamId), .ok ())) := by
  have stepped := fun now order data fin =>
    App.uniStream_of_inside inside now order streamId data fin
  simp only [known, Option.getD_some] at stepped
  induction segments with
  | last now order data =>
      simp only [Attempt.forEach, stepped]
      by_cases empty : data = []
      · simp [empty]
      · simp [empty, Attempt.Fails]
  | more now order data rest ih =>
      simp only [Attempt.forEach, stepped]
      by_cases empty : data = []
      · simpa [empty] using ih
      · simp [empty, Attempt.Fails]

theorem Receives.step (receives : Receives base app streamId held)
    (inside : base.authenticated = true) (now : Nat)
    (order : IterationOrder UInt64 PendingStream) (data : List UInt8) (fin : Bool) :
    app.step (.uniStream now order streamId data fin) =
      app.advanceUniStream now order streamId (held ++ data) fin := by
  have within : app.authenticated = true := by
    rw [receives.others]
    exact inside
  rw [App.uniStream_of_inside within, receives.held]

theorem App.advanceUniStream_of_excess (app : App setting) (now : Nat)
    (order : IterationOrder UInt64 PendingStream) (streamId : UInt64)
    (excess : App.authComplete setting command = true ∧ command.length ≠ authenticateLen)
    (fin : Bool) : (app.advanceUniStream now order streamId command fin).Fails := by
  unfold App.advanceUniStream
  dsimp only
  rw [if_pos excess]
  exact ⟨_, rfl⟩

/-- A command that is not complete is kept, and the rest of the connection with it. -/
theorem Receives.keep (receives : Receives base app streamId held) (now : Nat)
    (order : IterationOrder UInt64 PendingStream)
    (incomplete : App.authComplete setting command = false) :
    ∃ after, app.advanceUniStream now order streamId command false = (after, .ok ()) ∧
      Receives base after streamId command := by
  refine ⟨app.withUni (app.uniStreams.insert streamId (.receiving command)), ?_, ?_, ?_, ?_⟩
  · unfold App.advanceUniStream
    dsimp only
    rw [if_neg (by simp [incomplete]), if_pos ⟨rfl, incomplete⟩]
    rfl
  · rw [receives.others]
    rfl
  · simp [App.withUni]
  · exact (KeyedMap.erase_insert_self _ _ _).trans receives.rest

/-- A complete AUTHENTICATE is executed without waiting for the end of its stream. -/
theorem Receives.early (receives : Receives base app streamId held) (now : Nat)
    (order : IterationOrder UInt64 PendingStream)
    (complete : App.authComplete setting command = true)
    (exact : command.length = authenticateLen) :
    app.advanceUniStream now order streamId command false =
      (base.withUni (base.uniStreams.insert streamId .authenticated)).handleUnidirectionalCommand
        now order command := by
  have restored : (app.withUni (((app.uniStreams.insert streamId (.receiving command)).erase
      streamId).insert streamId .authenticated)) =
      base.withUni (base.uniStreams.insert streamId .authenticated) := by
    rw [KeyedMap.erase_insert_self, receives.rest, receives.others]
    rfl
  unfold App.advanceUniStream
  dsimp only
  rw [if_neg (by simp [exact]), if_neg (by simp [complete]), if_neg (by simp)]
  exact congrArg (App.handleUnidirectionalCommand · now order command) restored

/-- The last piece of a command executes it, in the state without the stream. -/
theorem Receives.finish (receives : Receives base app streamId held) (now : Nat)
    (order : IterationOrder UInt64 PendingStream)
    (proper : ¬ (App.authComplete setting command = true ∧ command.length ≠ authenticateLen)) :
    app.advanceUniStream now order streamId command true =
      base.handleUnidirectionalCommand now order command := by
  have restored : (app.withUni ((app.uniStreams.insert streamId (.receiving command)).erase
      streamId)) = base := by
    rw [KeyedMap.erase_insert_self, receives.rest, receives.others]
    rfl
  unfold App.advanceUniStream
  dsimp only
  rw [if_neg proper, if_neg (by simp), if_pos rfl]
  exact congrArg (App.handleUnidirectionalCommand · now order command) restored

theorem Executes.of_excess {now : Nat} {order : IterationOrder UInt64 PendingStream}
    {result : App.Result setting} (excess : Excess setting command) (fails : result.Fails) :
    Executes base now order command result :=
  ⟨fun _ => fails, fun proper => absurd excess proper, fun proper => absurd excess proper⟩

theorem Executes.self (base : App setting) (now : Nat) (order : IterationOrder UInt64 PendingStream)
    (proper : ¬ Excess setting command) :
    Executes base now order command (base.handleUnidirectionalCommand now order command) :=
  ⟨fun excess => absurd excess proper, fun _ => Iff.rfl, fun _ _ => rfl⟩

/-- An AUTHENTICATE that is complete before its stream ends: executed at once, and
undone as a whole by any further byte. -/
theorem UniSegments.executes_early (segments : UniSegments streamId bytes events)
    (inside : base.authenticated = true) (complete : App.authComplete setting command = true)
    (exact : command.length = authenticateLen) {uniStreams : KeyedMap UInt64 UniStreamState}
    (marked : uniStreams.lookup streamId = some .authenticated)
    (others : uniStreams.erase streamId = base.uniStreams) (now : Nat)
    (order : IterationOrder UInt64 PendingStream) :
    Executes base now order (command ++ bytes)
      (((base.withUni uniStreams).handleUnidirectionalCommand now order command).andThen
        fun app => Attempt.forEach App.step app events) := by
  have framed := fun streams => App.handleAuthData_withUni streams base now order command
  have same : base.withUni base.uniStreams = base := rfl
  have kept := framed base.uniStreams
  rw [same] at kept
  rw [App.handleUnidirectionalCommand_of_authComplete complete, framed uniStreams]
  have early : ((base.handleAuthData now order command).1.withUni uniStreams).authenticated =
      true :=
    ((Later.handlers base).handleAuthData
      (fun current now order kept => (Later.handlers base).replayStreams kept now order)
      (.refl base) now order command).authenticated inside
  have whole : base.handleUnidirectionalCommand now order command =
      base.handleAuthData now order command :=
    App.handleUnidirectionalCommand_of_authComplete complete base now order
  have known : ((base.handleAuthData now order command).1.withUni uniStreams).uniStreams.lookup
      streamId = some .authenticated := marked
  have tail := segments.after_authenticate early known
  have extra := excess_append_iff complete exact bytes
  clear early known
  generalize base.handleAuthData now order command = handled at kept whole tail ⊢
  obtain ⟨after, outcome⟩ := handled
  have restored : after.withUni base.uniStreams = after := (congrArg Prod.fst kept).symm
  by_cases empty : bytes = []
  · have proper : ¬ Excess setting (command ++ bytes) := fun excess => extra.mp excess empty
    subst empty
    rw [List.append_nil] at proper ⊢
    refine ⟨fun excess => absurd excess proper, fun _ => ?_, fun _ succeeded => ?_⟩
    · rw [whole]
      cases outcome with
      | error reason => exact ⟨fun _ => ⟨reason, rfl⟩, fun _ => ⟨reason, rfl⟩⟩
      | ok done =>
          cases done
          simp only [Attempt.map, Attempt.andThen_ok, tail.2 rfl]
          rfl
    · rw [whole] at succeeded ⊢
      dsimp only at succeeded
      subst succeeded
      simp only [Attempt.map, Attempt.andThen_ok, tail.2 rfl]
      exact congrArg (·, _) ((congrArg (App.withUni · after) others).trans restored)
  · refine .of_excess (extra.mpr empty) ?_
    cases outcome with
    | error reason => exact ⟨reason, rfl⟩
    | ok done => exact tail.1 empty

/-- The pieces of a stream come to one execution of the command they make up, at
the time of one of them. -/
theorem Receives.run (receives : Receives base app streamId held)
    (inside : base.authenticated = true) (segments : UniSegments streamId bytes events) :
    ∃ now order data fin, Event.uniStream now order streamId data fin ∈ events ∧
      Executes base now order (held ++ bytes) (Attempt.forEach App.step app events) := by
  induction segments generalizing app held with
  | last now order data =>
      refine ⟨now, order, data, true, List.mem_singleton_self _, ?_⟩
      rw [Attempt.forEach_singleton, receives.step inside]
      by_cases excess : Excess setting (held ++ data)
      · exact .of_excess excess (app.advanceUniStream_of_excess now order streamId excess true)
      · rw [receives.finish now order excess]
        exact .self base now order excess
  | more now order data rest ih =>
      rename_i bytes events
      simp only [Attempt.forEach, receives.step inside, ← List.append_assoc]
      by_cases excess : Excess setting (held ++ data)
      · refine ⟨now, order, data, false, List.mem_cons_self, ?_⟩
        obtain ⟨reason, failed⟩ := app.advanceUniStream_of_excess now order streamId excess false
        generalize app.advanceUniStream now order streamId (held ++ data) false = result at failed ⊢
        obtain ⟨after, outcome⟩ := result
        subst failed
        exact .of_excess (excess.append bytes) ⟨reason, rfl⟩
      · cases complete : App.authComplete setting (held ++ data) with
        | false =>
            obtain ⟨after, kept, receives⟩ := receives.keep now order complete
            obtain ⟨now, order, data, fin, member, executes⟩ := ih receives
            exact ⟨now, order, data, fin, List.mem_cons_of_mem _ member, by
              rw [kept]
              exact executes⟩
        | true =>
            have exact : (held ++ data).length = authenticateLen := by
              by_contra other
              exact excess ⟨complete, other⟩
            refine ⟨now, order, data, false, List.mem_cons_self, ?_⟩
            rw [receives.early now order complete exact]
            refine rest.executes_early inside complete exact (by simp) ?_ now order
            rw [KeyedMap.erase_insert_self, ← receives.rest]
            exact KeyedMap.erase_of_lookup_none (AList.lookup_erase _ _)

end UniRuns

/-- A bidirectional stream in pieces, the last of which carries its end.  Its relay
may take messages in between. -/
inductive Segments (streamId : UInt64) : List UInt8 → List Event → Prop
  | last (now : Nat) (data : List UInt8) :
      Segments streamId data [.streamData now streamId data true]
  | more (now : Nat) (data : List UInt8) {bytes : List UInt8} {events : List Event}
      (rest : Segments streamId bytes events) :
      Segments streamId (data ++ bytes) (.streamData now streamId data false :: events)
  | taken {bytes : List UInt8} {events : List Event} (rest : Segments streamId bytes events) :
      Segments streamId bytes (.relayReceives streamId :: events)

section Runs

variable {streamId : UInt64} {bytes : List UInt8} {events : List Event}
  {received : UInt64 → PendingStream}

theorem Segments.event (segments : Segments streamId bytes events) {event : Event}
    (member : event ∈ events) :
    (∃ now data fin, event = .streamData now streamId data fin) ∨
      event = .relayReceives streamId := by
  induction segments with
  | last now data => exact .inl ⟨now, data, true, List.mem_singleton.mp member⟩
  | more now data rest ih =>
      rcases List.mem_cons.mp member with rfl | later
      · exact .inl ⟨now, data, false, rfl⟩
      · exact ih later
  | taken rest ih =>
      rcases List.mem_cons.mp member with rfl | later
      · exact .inr rfl
      · exact ih later

theorem Segments.orderly (segments : Segments streamId bytes events) : Orderly events := by
  induction segments with
  | last now data => exact List.pairwise_singleton _ _
  | more now data rest ih =>
      refine List.Pairwise.cons (fun later _ other ends => ?_) ih
      exact absurd ends.2 Bool.false_ne_true
  | taken rest ih => exact List.Pairwise.cons (fun later _ other ends => ends.elim) ih

theorem Segments.admissible (segments : Segments streamId bytes events)
    (unfinished : (received streamId).fin = false) :
    Admissible (· = streamId) received events where
  orderly := segments.orderly
  streaming event member := by
    rcases segments.event member with ⟨now, data, fin, rfl⟩ | rfl <;> trivial
  among event member other carries := by
    rcases segments.event member with ⟨now, data, fin, rfl⟩ | rfl
    · exact carries.symm
    · exact carries.elim
  unfinished event member other carries := by
    rcases segments.event member with ⟨now, data, fin, rfl⟩ | rfl
    · exact carries ▸ unfinished
    · exact carries.elim

/-- Whatever the pieces, the stream has received all its bytes and its end. -/
theorem Segments.total (segments : Segments streamId bytes events) :
    receivedAfter received events streamId = (received streamId).extend bytes true := by
  induction segments generalizing received with
  | last now data => exact Function.update_self ..
  | more now data rest ih =>
      refine ih.trans ?_
      simp [Event.extend, PendingStream.extend]
  | taken rest ih => exact ih

/-- A fresh stream that is handled to its end: the calls fail exactly when its bytes
doom it, and otherwise leave one relay and no trace of the stream in the maps. -/
theorem Segments.handled (decisive : setting.core.Decisive) {app : App setting}
    (inside : app.authenticated = true) (unknown : app.streams.lookup streamId = none)
    (unheld : app.pendingStreams.lookup streamId = none)
    (segments : Segments streamId bytes events)
    (roomy : (appMachine setting).Meets Roomy app events) :
    (((Watched.mk app []).handleAll events).Fails ↔ Doomed setting.core ⟨bytes, true⟩) ∧
    ∀ target payload, fate setting.core ⟨bytes, true⟩ = .ok (some (target, payload)) →
      Relays ((Watched.mk app []).handleAll events).1 streamId target payload true := by
  have start : Stands (· = streamId) (fun _ => .fresh) (Watched.mk app []) := by
    refine ⟨inside, ?_⟩
    rintro other rfl
    simp only [Follows, fate_fresh decisive]
    exact ⟨unknown, by rw [unheld]; rfl, rfl, rfl⟩
  have total : receivedAfter (fun _ => .fresh) events streamId = ⟨bytes, true⟩ :=
    segments.total
  rcases start.handleAll decisive (segments.admissible rfl) roomy with
    ⟨handled, stands⟩ | ⟨failed, other, rfl, doomed⟩
  · have follows := stands.follows streamId rfl
    rw [total] at follows
    refine ⟨⟨?_, fun doomed => absurd doomed follows.not_doomed⟩, ?_⟩
    · rintro ⟨reason, failed⟩
      rw [handled] at failed
      cases failed
    · intro target payload relayed
      simpa only [Follows, relayed] using follows
  · rw [total] at doomed
    refine ⟨⟨fun _ => doomed, fun _ => failed⟩, ?_⟩
    intro target payload relayed
    obtain ⟨reason, refused⟩ := doomed
    rw [relayed] at refused
    cases refused

end Runs

/-- The same error or not, and without one the same single dial, the same bytes for
the relay, and nothing left of the stream. -/
structure SameRelay (streamId : UInt64) (cut whole : Attempt (Watched setting) Error) : Prop where
  fails : cut.Fails ↔ whole.Fails
  dials : whole.2 = .ok () →
    ∃ session, cut.1.sessions streamId = [session] ∧ whole.1.sessions streamId = [session]
  payload : whole.2 = .ok () → cut.1.payload streamId = whole.1.payload streamId
  cutRemoved : whole.2 = .ok () → cut.1.app.streams.lookup streamId = none ∧
    cut.1.app.pendingStreams.lookup streamId = none
  wholeRemoved : whole.2 = .ok () → whole.1.app.streams.lookup streamId = none ∧
    whole.1.app.pendingStreams.lookup streamId = none

theorem SameRelay.of_handled {streamId : UInt64} {bytes : List UInt8}
    {cut whole : Attempt (Watched setting) Error}
    (cutFails : cut.Fails ↔ Doomed setting.core ⟨bytes, true⟩)
    (wholeFails : whole.Fails ↔ Doomed setting.core ⟨bytes, true⟩)
    (cutRelays : ∀ target payload, fate setting.core ⟨bytes, true⟩ = .ok (some (target, payload)) →
      Relays cut.1 streamId target payload true)
    (wholeRelays : ∀ target payload,
      fate setting.core ⟨bytes, true⟩ = .ok (some (target, payload)) →
      Relays whole.1 streamId target payload true) :
    SameRelay streamId cut whole := by
  have relays : whole.2 = .ok () → ∃ target payload,
      Relays cut.1 streamId target payload true ∧
      Relays whole.1 streamId target payload true := by
    intro succeeded
    cases outcome : fate setting.core ⟨bytes, true⟩ with
    | error reason =>
        obtain ⟨failure, failed⟩ := wholeFails.mpr ⟨reason, outcome⟩
        rw [succeeded] at failed
        cases failed
    | ok found =>
        cases found with
        | none => exact absurd (fin_of_fate_none outcome) (by simp)
        | some found =>
            exact ⟨found.1, found.2, cutRelays _ _ outcome, wholeRelays _ _ outcome⟩
  have gone : ∀ {watched : Watched setting} {target payload},
      Relays watched streamId target payload true →
      watched.app.streams.lookup streamId = none ∧
        watched.app.pendingStreams.lookup streamId = none := by
    intro watched target payload relays
    exact ⟨Option.not_isSome_iff_eq_none.mp (by simp [relays.known]), relays.pending⟩
  refine ⟨cutFails.trans wholeFails.symm, ?_, ?_, ?_, ?_⟩
  · intro succeeded
    obtain ⟨target, payload, cutRelay, wholeRelay⟩ := relays succeeded
    exact ⟨_, cutRelay.sessions, wholeRelay.sessions⟩
  · intro succeeded
    obtain ⟨target, payload, cutRelay, wholeRelay⟩ := relays succeeded
    exact cutRelay.payload.trans wholeRelay.payload.symm
  · intro succeeded
    obtain ⟨target, payload, cutRelay, wholeRelay⟩ := relays succeeded
    exact gone cutRelay
  · intro succeeded
    obtain ⟨target, payload, cutRelay, wholeRelay⟩ := relays succeeded
    exact gone wholeRelay

/-- On an authenticated connection, the pieces in which a fresh stream arrives do not
matter.  A bidirectional stream fails or is relayed as if its bytes came at once;
a unidirectional one executes the same command once, at the time of one piece. -/
theorem pieces_of_stream_do_not_matter (decisive : setting.core.Decisive) {app : App setting}
    (inside : app.authenticated = true) (streamId : UInt64) (bytes : List UInt8)
    (events : List Event) :
    (app.streams.lookup streamId = none → app.pendingStreams.lookup streamId = none →
      Segments streamId bytes events → (appMachine setting).Meets Roomy app events →
      ∀ now, SameRelay streamId ((Watched.mk app []).handleAll events)
        ((Watched.mk app []).handleAll [.streamData now streamId bytes true])) ∧
    (app.uniStreams.lookup streamId = none → UniSegments streamId bytes events →
      ∃ now order data fin, Event.uniStream now order streamId data fin ∈ events ∧
        ((Attempt.forEach App.step app events).Fails ↔
          (app.step (.uniStream now order streamId bytes true)).Fails) ∧
        ((app.step (.uniStream now order streamId bytes true)).2 = .ok () →
          Attempt.forEach App.step app events =
            app.handleUnidirectionalCommand now order bytes ∧
          app.step (.uniStream now order streamId bytes true) =
            app.handleUnidirectionalCommand now order bytes)) := by
  constructor
  · intro unknown unheld segments roomy now
    have cut := segments.handled decisive inside unknown unheld roomy
    have whole := (Segments.last now bytes).handled decisive inside unknown unheld
      ⟨by simp [Roomy, unknown], trivial⟩
    exact .of_handled cut.1 whole.1 cut.2 whole.2
  · intro unknown segments
    have receives : Receives app app streamId [] :=
      ⟨rfl, by rw [unknown]; rfl, KeyedMap.erase_of_lookup_none unknown⟩
    obtain ⟨now, order, data, fin, member, executes⟩ := receives.run inside segments
    refine ⟨now, order, data, fin, member, ?_⟩
    rw [List.nil_append] at executes
    have whole := receives.step inside now order bytes true
    rw [List.nil_append] at whole
    rw [whole]
    by_cases excess : Excess setting bytes
    · have fails := app.advanceUniStream_of_excess now order streamId excess true
      refine ⟨⟨fun _ => fails, fun _ => executes.excess excess⟩, fun succeeded => ?_⟩
      obtain ⟨reason, failed⟩ := fails
      rw [succeeded] at failed
      cases failed
    · rw [receives.finish now order excess]
      exact ⟨executes.fails excess, fun succeeded => ⟨executes.executes excess succeeded, rfl⟩⟩

/-- A connection on which the sample user has just authenticated. -/
def sampleInside : App sampleSetting :=
  ((App.new sampleSetting 0).step (.uniStream 1 asStored 2 sampleAuthenticate true)).1

def samplePieces : List Event :=
  [.streamData 2 0 [5, 1, 1] false, .streamData 3 0 [127, 0, 0, 1, 0, 80, 7] false,
    .streamData 4 0 [] false, .streamData 5 0 [8] false, .relayReceives 0,
    .streamData 6 0 [9] true]

def sampleDissociate : List Event :=
  [.uniStream 2 asStored 6 [5] false, .uniStream 3 asStored 6 [] false,
    .uniStream 4 asStored 6 [3, 0, 7] true]

theorem sample_pieces_do_not_matter :
    SameRelay 0 ((Watched.mk sampleInside []).handleAll samplePieces)
      ((Watched.mk sampleInside []).handleAll
        [.streamData 7 0 [5, 1, 1, 127, 0, 0, 1, 0, 80, 7, 8, 9] true]) ∧
    ∃ now order data fin, Event.uniStream now order 6 data fin ∈ sampleDissociate ∧
      ((Attempt.forEach App.step sampleInside sampleDissociate).Fails ↔
        (sampleInside.step (.uniStream now order 6 [5, 3, 0, 7] true)).Fails) ∧
      ((sampleInside.step (.uniStream now order 6 [5, 3, 0, 7] true)).2 = .ok () →
        Attempt.forEach App.step sampleInside sampleDissociate =
          sampleInside.handleUnidirectionalCommand now order [5, 3, 0, 7] ∧
        sampleInside.step (.uniStream now order 6 [5, 3, 0, 7] true) =
          sampleInside.handleUnidirectionalCommand now order [5, 3, 0, 7]) :=
  ⟨(pieces_of_stream_do_not_matter tuicV5_decisive (by decide) 0 _ samplePieces).1 (by decide)
      (by decide) (.more 2 _ (.more 3 _ (.more 4 _ (.more 5 _ (.taken (.last 6 _))))))
      (by decide) 7,
    (pieces_of_stream_do_not_matter tuicV5_decisive (by decide) 6 _ sampleDissociate).2
      (by decide)
      (.more 2 asStored [5] (.more 3 asStored [] (.last 4 asStored [3, 0, 7])))⟩

end Rtunnel.Tuic.Inbound
