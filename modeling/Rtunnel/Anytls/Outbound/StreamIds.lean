import Rtunnel.Anytls.Outbound.Accounting
import Mathlib.Data.List.Nodup

namespace Rtunnel.Anytls.Outbound

open Rtunnel.Data

/-! The ids of one session's streams.

`reserve_stream` checks the closed flag, takes an id from an atomic counter and
counts the stream, each in one access.  Here any number of calls may be between
these accesses at once, so a run also covers callers that hold no lock; the
sessions of the pool are a special case.
-/

/-- A session and the calls of `reserve_stream` on it: how many have found it
open and not yet taken an id, the ids taken by calls that have not yet counted
their stream, the accesses to the counter so far and the ids of the calls that
passed the check of their id.  Such a call cannot fail any more. -/
structure SharedSession where
  session : ClientSession
  checked : Nat
  taken : List UInt32
  accesses : Nat
  issued : List UInt32

inductive SessionEvent where
  | check
  | takeId
  | count (streamId : UInt32)
  | act (action : SessionAction)

namespace SharedSession

def new (now : Nat) : SharedSession where
  session := .new now
  checked := 0
  taken := []
  accesses := 0
  issued := []

/-- The counter moves on, whatever id it gives. -/
def advanceCounter (shared : SharedSession) : SharedSession :=
  { shared with
    session := shared.session.takeStreamId
    checked := shared.checked - 1
    accesses := shared.accesses + 1 }

/-- The id 0 is refused. -/
def takeId (shared : SharedSession) : SharedSession :=
  if shared.session.nextStreamId = 0 then shared.advanceCounter
  else
    { shared.advanceCounter with
      taken := shared.session.nextStreamId :: shared.taken
      issued := shared.issued ++ [shared.session.nextStreamId] }

@[simp] theorem takeId_session (shared : SharedSession) :
    shared.takeId.session = shared.session.takeStreamId := by
  unfold takeId
  split <;> rfl

@[simp] theorem takeId_accesses (shared : SharedSession) :
    shared.takeId.accesses = shared.accesses + 1 := by
  unfold takeId
  split <;> rfl

theorem takeId_issued (shared : SharedSession) :
    shared.takeId.issued =
      shared.issued ++ [shared.session.nextStreamId].filter (· ≠ 0) := by
  unfold takeId
  split
  case isTrue zero => simp [zero, advanceCounter]
  case isFalse nonzero => simp [nonzero]

/-- An access that no call is about to make changes nothing. -/
def step (shared : SharedSession) : SessionEvent → SharedSession
  | .check =>
      if shared.session.closed then shared else { shared with checked := shared.checked + 1 }
  | .takeId => if 0 < shared.checked then shared.takeId else shared
  | .count streamId =>
      if streamId ∈ shared.taken then
        { shared with
          session := shared.session.countStream streamId
          taken := shared.taken.erase streamId }
      else shared
  | .act action => { shared with session := shared.session.act action }

/-- No id is issued twice, none is 0, and no stream that is still to be
inserted has the id of a live entry. -/
structure NoReuse (shared : SharedSession) : Prop where
  distinct : shared.issued.Nodup
  nonzero : 0 ∉ shared.issued
  unreplaced : ∀ streamId ∈ shared.session.reserved, streamId ∉ shared.session.streams

end SharedSession

def sharedMachine : Machine SharedSession SessionEvent Unit :=
  ⟨fun shared event => (shared.step event, ())⟩

@[simp] theorem sharedMachine_next (shared : SharedSession) (event : SessionEvent) :
    sharedMachine.next shared event = shared.step event := rfl

/-- The ids that the first accesses to a counter issue. -/
def issuedIds (accesses : Nat) : List UInt32 :=
  ((List.range accesses).map fun access => UInt32.ofNat (access + 1)).filter (· ≠ 0)

theorem issuedIds_succ (accesses : Nat) :
    issuedIds (accesses + 1) =
      issuedIds accesses ++ [UInt32.ofNat (accesses + 1)].filter (· ≠ 0) := by
  simp only [issuedIds, List.range_succ, List.map_append, List.filter_append, List.map_cons,
    List.map_nil]

theorem mem_issuedIds {accesses : Nat} {streamId : UInt32} :
    streamId ∈ issuedIds accesses ↔
      streamId ≠ 0 ∧ ∃ access < accesses, UInt32.ofNat (access + 1) = streamId := by
  simp only [issuedIds, List.mem_filter, List.mem_map, List.mem_range, decide_eq_true_eq]
  exact and_comm

theorem nodup_issuedIds {accesses : Nat} (bound : accesses ≤ UInt32.size) :
    (issuedIds accesses).Nodup := by
  refine List.Nodup.filter _ (List.Nodup.map_on ?_ List.nodup_range)
  intro first firstListed second secondListed same
  rw [List.mem_range] at firstListed secondListed
  have residues := congrArg UInt32.toNat same
  rw [UInt32.toNat_ofNat', UInt32.toNat_ofNat'] at residues
  rw [UInt32.size] at bound
  omega

/-- The counter comes back to 1 after 2³² accesses. -/
theorem accesses_le_of_nodup {accesses : Nat} (distinct : (issuedIds accesses).Nodup) :
    accesses ≤ UInt32.size := by
  by_contra more
  obtain ⟨further, rfl⟩ := Nat.exists_eq_add_of_lt (Nat.lt_of_not_le more)
  have split : issuedIds (UInt32.size + further + 1) =
      issuedIds UInt32.size ++ ((List.range (further + 1)).map
        fun access => UInt32.ofNat (UInt32.size + access + 1)).filter (· ≠ 0) := by
    rw [issuedIds, Nat.add_assoc, List.range_add, List.map_append, List.filter_append,
      List.map_map]
    rfl
  rw [split] at distinct
  have first : (1 : UInt32) ∈ issuedIds UInt32.size :=
    mem_issuedIds.mpr ⟨by decide, 0, by decide, by decide⟩
  refine (List.nodup_append.mp distinct).2.2 1 first 1 ?_ rfl
  rw [List.mem_filter, List.mem_map]
  exact ⟨⟨0, List.mem_range.mpr (Nat.succ_pos _), by decide⟩, by decide⟩

namespace SharedSession

variable {shared : SharedSession}

/-- The ids in use were issued, and no id is in use twice. -/
structure Tracked (shared : SharedSession) : Prop where
  distinct : (shared.taken ++ shared.session.reserved).Nodup
  issued : ∀ streamId ∈ shared.taken ++ shared.session.reserved, streamId ∈ shared.issued
  live : ∀ streamId ∈ shared.session.streams, streamId ∈ shared.issued
  apart : ∀ streamId ∈ shared.taken ++ shared.session.reserved,
    streamId ∉ shared.session.streams

/-- A reserved id becomes that of a live stream. -/
theorem Tracked.insert (tracked : shared.Tracked) (streamId : UInt32) :
    (shared.step (.act (.insert streamId))).Tracked := by
  obtain ⟨distinct, issued, live, apart⟩ := tracked
  simp only [step, ClientSession.act]
  split
  case isFalse => exact ⟨distinct, issued, live, apart⟩
  case isTrue pending =>
      have fewer : (shared.taken ++ shared.session.reserved.erase streamId).Sublist
          (shared.taken ++ shared.session.reserved) :=
        (List.Sublist.refl _).append List.erase_sublist
      have used := issued streamId (List.mem_append_right _ pending)
      obtain ⟨takenOnce, reservedOnce, elsewhere⟩ := List.nodup_append.mp distinct
      refine ⟨distinct.sublist fewer, fun id member => issued id (fewer.subset member),
        fun id member => ?_, fun id member => ?_⟩
      · rcases Finset.mem_insert.mp member with rfl | earlier
        · exact used
        · exact live id earlier
      · have other : id ≠ streamId := by
          rcases List.mem_append.mp member with inTaken | left
          · exact elsewhere id inTaken streamId pending
          · exact ((reservedOnce.mem_erase_iff).mp left).1
        intro inserted
        rcases Finset.mem_insert.mp inserted with same | earlier
        · exact other same
        · exact apart id (fewer.subset member) earlier

theorem Tracked.act (tracked : shared.Tracked) (action : SessionAction) :
    (shared.step (.act action)).Tracked := by
  cases action with
  | insert streamId => exact tracked.insert streamId
  | remove streamId =>
      simp only [step, ClientSession.act]
      split
      case isFalse => exact { tracked with }
      case isTrue =>
          exact { tracked with
            live := fun id member => tracked.live id (Finset.mem_of_mem_erase member)
            apart := fun id member removed =>
              tracked.apart id member (Finset.mem_of_mem_erase removed) }
  | clear =>
      simp only [step, ClientSession.act]
      split
      case isFalse => exact { tracked with }
      case isTrue =>
          exact { tracked with
            live := fun id member => absurd member (Finset.notMem_empty id)
            apart := fun id _ => Finset.notMem_empty id }
  | release =>
      simp only [step, ClientSession.act]
      split <;> exact { tracked with }
  | storeZero =>
      simp only [step, ClientSession.act]
      split <;> exact { tracked with }
  | touch now => exact { tracked with }
  | close => exact { tracked with }

/-- An id may be taken that was not issued before, or is refused. -/
theorem Tracked.takeId (tracked : shared.Tracked)
    (unused : shared.session.nextStreamId ≠ 0 →
      shared.session.nextStreamId ∉ shared.issued) : shared.takeId.Tracked := by
  obtain ⟨distinct, issued, live, apart⟩ := tracked
  unfold SharedSession.takeId
  split
  case isTrue => exact ⟨distinct, issued, live, apart⟩
  case isFalse nonzero =>
      have absent := unused nonzero
      refine ⟨List.nodup_cons.mpr ⟨fun used => absent (issued _ used), distinct⟩,
        fun id member => ?_, fun id member => List.mem_append_left _ (live id member),
        fun id member => ?_⟩
      · rcases List.mem_cons.mp member with rfl | earlier
        · exact List.mem_append_right _ List.mem_cons_self
        · exact List.mem_append_left _ (issued id earlier)
      · rcases List.mem_cons.mp member with rfl | earlier
        · exact fun alive => absent (live _ alive)
        · exact apart id earlier

theorem Tracked.count (tracked : shared.Tracked) (streamId : UInt32) :
    (shared.step (.count streamId)).Tracked := by
  obtain ⟨distinct, issued, live, apart⟩ := tracked
  simp only [step]
  split
  case isFalse => exact ⟨distinct, issued, live, apart⟩
  case isTrue pending =>
      have moved : (shared.taken.erase streamId ++ streamId :: shared.session.reserved).Perm
          (shared.taken ++ shared.session.reserved) :=
        List.perm_middle.trans ((List.perm_cons_erase pending).symm.append_right _)
      exact ⟨moved.nodup_iff.mpr distinct, fun id member => issued id (moved.subset member),
        live, fun id member => apart id (moved.subset member)⟩

/-- The counter and the issued ids follow the number of accesses; up to 2³²
of them the ids in use are told apart. -/
structure Counted (shared : SharedSession) : Prop where
  next : shared.session.nextStreamId = UInt32.ofNat (shared.accesses + 1)
  issued : shared.issued = issuedIds shared.accesses
  tracked : shared.accesses ≤ UInt32.size → shared.Tracked

theorem nextStreamId_act (session : ClientSession) (action : SessionAction) :
    (session.act action).nextStreamId = session.nextStreamId := by
  cases action <;> simp only [ClientSession.act] <;> first | rfl | (split <;> rfl)

theorem Counted.takeId (counted : shared.Counted) :
    shared.takeId.Counted := by
  obtain ⟨next, issued, tracked⟩ := counted
  have grown : issuedIds (shared.accesses + 1) =
      shared.issued ++ [shared.session.nextStreamId].filter (· ≠ 0) := by
    rw [issuedIds_succ, ← issued, ← next]
  refine ⟨?_, ?_, fun bound => ?_⟩
  · rw [takeId_session, takeId_accesses, ClientSession.takeStreamId, next,
      UInt32.ofNat_add (shared.accesses + 1) 1]
    rfl
  · rw [takeId_issued, takeId_accesses, grown]
  · rw [takeId_accesses] at bound
    have distinct := nodup_issuedIds bound
    rw [grown] at distinct
    refine (tracked (Nat.le_of_succ_le bound)).takeId fun nonzero used => ?_
    refine (List.nodup_append.mp distinct).2.2 _ used _ ?_ rfl
    simp [nonzero]

theorem Counted.step (counted : shared.Counted) (event : SessionEvent) :
    (shared.step event).Counted := by
  cases event with
  | check =>
      simp only [SharedSession.step]
      split
      case isTrue => exact counted
      case isFalse =>
          exact ⟨counted.next, counted.issued, fun bound => { counted.tracked bound with }⟩
  | takeId =>
      simp only [SharedSession.step]
      split
      case isTrue => exact counted.takeId
      case isFalse => exact counted
  | count streamId =>
      have same : (shared.step (.count streamId)).accesses = shared.accesses ∧
          (shared.step (.count streamId)).issued = shared.issued ∧
          (shared.step (.count streamId)).session.nextStreamId =
            shared.session.nextStreamId := by
        simp only [SharedSession.step]
        split <;> exact ⟨rfl, rfl, rfl⟩
      obtain ⟨accesses, issued, next⟩ := same
      refine ⟨by rw [next, accesses, counted.next], by rw [issued, accesses, counted.issued],
        fun bound => ?_⟩
      rw [accesses] at bound
      exact (counted.tracked bound).count streamId
  | act action =>
      exact ⟨(nextStreamId_act shared.session action).trans counted.next, counted.issued,
        fun bound => (counted.tracked bound).act action⟩

theorem counted_new (now : Nat) : (new now).Counted :=
  ⟨rfl, rfl, fun _ => ⟨List.nodup_nil, fun _ absent => absurd absent List.not_mem_nil,
    fun id absent => absurd absent (Finset.notMem_empty id),
    fun _ absent => absurd absent List.not_mem_nil⟩⟩

theorem run_counted (now : Nat) (events : List SessionEvent) :
    (sharedMachine.run (new now) events).Counted :=
  sharedMachine.run_invariant (fun _ event counted => counted.step event) (counted_new now) events

theorem accesses_le_step (shared : SharedSession) (event : SessionEvent) :
    shared.accesses ≤ (shared.step event).accesses := by
  cases event with
  | check => simp only [step]; split <;> exact Nat.le_refl _
  | count streamId => simp only [step]; split <;> exact Nat.le_refl _
  | act action => exact Nat.le_refl _
  | takeId =>
      simp only [step]
      split
      case isFalse => exact Nat.le_refl _
      case isTrue =>
          rw [takeId_accesses]
          exact Nat.le_succ _

theorem accesses_le_run (shared : SharedSession) {past events : List SessionEvent}
    (earlier : past <+: events) :
    (sharedMachine.run shared past).accesses ≤ (sharedMachine.run shared events).accesses := by
  obtain ⟨rest, rfl⟩ := earlier
  rw [Machine.run_append]
  have keeps : ∀ later : SharedSession, ∀ event : SessionEvent,
      (sharedMachine.run shared past).accesses ≤ later.accesses →
      (sharedMachine.run shared past).accesses ≤ (sharedMachine.next later event).accesses :=
    fun later event reached => Nat.le_trans reached (accesses_le_step later event)
  exact sharedMachine.run_invariant keeps (Nat.le_refl _) rest

theorem Counted.noReuse (counted : shared.Counted) (bound : shared.accesses ≤ UInt32.size) :
    shared.NoReuse := by
  have tracked := counted.tracked bound
  refine ⟨?_, ?_, fun id member => tracked.apart id (List.mem_append_right _ member)⟩
  · rw [counted.issued]
    exact nodup_issuedIds bound
  · rw [counted.issued]
    exact fun member => (mem_issuedIds.mp member).1 rfl

end SharedSession

/-- Ids are told apart exactly as long as the counter is accessed at most 2³²
times: the access that takes the id 0 is refused, and the next one takes 1 again. -/
theorem stream_ids_are_fresh_iff (now : Nat) (events : List SessionEvent) :
    (∀ past, past <+: events → (sharedMachine.run (.new now) past).NoReuse) ↔
      (sharedMachine.run (.new now) events).accesses ≤ UInt32.size := by
  constructor
  · intro everywhere
    have distinct := (everywhere events List.prefix_rfl).distinct
    rw [(SharedSession.run_counted now events).issued] at distinct
    exact accesses_le_of_nodup distinct
  · intro bound past earlier
    exact (SharedSession.run_counted now past).noReuse
      (Nat.le_trans (SharedSession.accesses_le_run _ earlier) bound)

/-- Two calls that overlap take different ids. -/
theorem overlapping_ids_are_fresh :
    (sharedMachine.run (.new 0)
      [.check, .check, .takeId, .takeId, .count 2, .count 1, .act (.insert 2)]).NoReuse :=
  (stream_ids_are_fresh_iff 0 _).mpr (by decide) _ List.prefix_rfl

def Holder.isReserving : Holder → Bool
  | .reserving _ _ _ => true
  | _ => false

namespace Pool

variable {session : SessionId} {pool : Pool}

/-- The calls on a session as the holder of the pool's lock makes them. -/
structure Shares (session : SessionId) (shared : SharedSession) (pool : Pool) : Prop where
  same : pool.table session = shared.session
  checked : ∀ fresh, pool.lock = .reserving session fresh .takeId → 0 < shared.checked
  taken : ∀ fresh streamId, pool.lock = .reserving session fresh (.count streamId) →
    streamId ∈ shared.taken

/-- The session has come where a run of its own comes. -/
def Follows (session : SessionId) (pool : Pool) : Prop :=
  ∃ now events, pool.Shares session (sharedMachine.run (.new now) events)

/-- The holder of the lock is not inside a reservation on this session. -/
def Outside (session : SessionId) (pool : Pool) : Prop :=
  ∀ fresh stage, pool.lock = .reserving session fresh stage →
    stage = .closedFlag ∨ stage = .touch

theorem Outside.shares {shared : SharedSession} (outside : pool.Outside session)
    (same : pool.table session = shared.session) :
    pool.Shares session shared := by
  refine ⟨same, fun fresh holds => ?_, fun fresh streamId holds => ?_⟩
  · rcases outside fresh _ holds with impossible | impossible <;> cases impossible
  · rcases outside fresh _ holds with impossible | impossible <;> cases impossible

theorem outside_of_not_reserving (away : pool.lock.isReserving = false) (session : SessionId) :
    pool.Outside session := by
  intro fresh stage holds
  rw [holds] at away
  cases away

/-- The session takes one more step of its own. -/
theorem Follows.extend {after : Pool} (follows : pool.Follows session)
    (step : ∀ shared, pool.Shares session shared →
      ∃ events, after.Shares session (sharedMachine.run shared events)) :
    after.Follows session := by
  obtain ⟨now, events, shares⟩ := follows
  obtain ⟨further, reached⟩ := step _ shares
  refine ⟨now, events ++ further, ?_⟩
  rw [Machine.run_append]
  exact reached

/-- The session is left alone by a holder outside of its reservations. -/
theorem Follows.idle {after : Pool} (follows : pool.Follows session)
    (outside : after.Outside session) (same : after.table session = pool.table session) :
    after.Follows session :=
  follows.extend fun _ shares => ⟨[], outside.shares (same.trans shares.same)⟩

theorem Follows.away {after : Pool} (follows : pool.Follows session)
    (away : after.lock.isReserving = false) (same : after.table = pool.table) :
    after.Follows session :=
  follows.idle (outside_of_not_reserving away session) (congrFun same session)

theorem Follows.act (follows : pool.Follows session) (changed : SessionId)
    (action : SessionAction) :
    (pool.update changed ((pool.table changed).act action)).Follows session := by
  refine follows.extend fun shared shares => ?_
  by_cases own : session = changed
  · subst own
    refine ⟨[.act action], ?_, shares.checked, shares.taken⟩
    simp [update, SharedSession.step, shares.same]
  · exact ⟨[], (by simpa [update, own] using shares.same), shares.checked, shares.taken⟩

theorem outside_reserveFails (pool : Pool) (session other : SessionId) (fresh : Bool)
    (now : Nat) : (pool.reserveFails other fresh now).Outside session := by
  unfold reserveFails
  split <;> exact outside_of_not_reserving rfl session

theorem outside_hold (pool : Pool) {other : SessionId} (different : session ≠ other) (fresh : Bool)
    (stage : ReserveStage) :
    (pool.hold (.reserving other fresh stage)).Outside session := by
  intro _ _ holds
  cases holds
  exact absurd rfl different

/-- A reservation on another session leaves this one alone. -/
theorem reserveStream_elsewhere (pool : Pool) {other : SessionId} (different : session ≠ other)
    (fresh : Bool) (now : Nat) (stage : ReserveStage) :
    (pool.reserveStream other fresh now stage).Outside session ∧
      (pool.reserveStream other fresh now stage).table session = pool.table session := by
  cases stage with
  | closedFlag =>
      simp only [Pool.reserveStream]
      split
      · exact ⟨outside_reserveFails _ _ _ _ _, by rw [Change.reserveFails_table]⟩
      · exact ⟨outside_hold _ different _ _, rfl⟩
  | takeId =>
      simp only [Pool.reserveStream]
      split
      · exact ⟨outside_reserveFails _ _ _ _ _, by simp [update, different]⟩
      · exact ⟨outside_hold _ different _ _, by simp [update, hold, different]⟩
  | count streamId =>
      exact ⟨outside_hold _ different _ _, by simp [Pool.reserveStream, update, hold, different]⟩
  | touch =>
      refine ⟨outside_of_not_reserving ?_ session,
        by simp [Pool.reserveStream, update, hold, different]⟩
      cases fresh <;> rfl

/-- One access of a reservation is one step of the session. -/
theorem Follows.reserveStream {reserving : SessionId} {fresh : Bool} {stage : ReserveStage}
    (follows : pool.Follows session) (holds : pool.lock = .reserving reserving fresh stage)
    (now : Nat) :
    (pool.reserveStream reserving fresh now stage).Follows session := by
  by_cases own : session = reserving
  case neg =>
      obtain ⟨outside, same⟩ := reserveStream_elsewhere pool own fresh now stage
      exact follows.idle outside same
  case pos =>
      subst own
      refine follows.extend fun shared shares => ?_
      have same := shares.same
      cases stage with
      | closedFlag =>
          simp only [Pool.reserveStream]
          split
          case isTrue => exact ⟨[], (outside_reserveFails _ _ _ _ _).shares (by simpa using same)⟩
          case isFalse opened =>
              refine ⟨[.check], ?_⟩
              rw [same] at opened
              refine ⟨?_, fun _ _ => ?_, fun _ _ impossible => ?_⟩
              · simpa [SharedSession.step, opened, hold] using same
              · simp [SharedSession.step, opened]
              · cases impossible
      | takeId =>
          have ready := shares.checked fresh holds
          have stepped : sharedMachine.run shared [.takeId] = shared.takeId := by
            simp [SharedSession.step, ready]
          refine ⟨[.takeId], ?_⟩
          rw [stepped]
          simp only [Pool.reserveStream]
          split
          case isTrue => exact (outside_reserveFails _ _ _ _ _).shares (by simp [update, same])
          case isFalse nonzero =>
              refine ⟨by simp [update, hold, same], fun _ impossible => ?_,
                fun _ streamId counts => ?_⟩
              · cases impossible
              · cases counts
                rw [same] at nonzero ⊢
                simp [SharedSession.takeId, nonzero]
      | count streamId =>
          have pending := shares.taken fresh streamId holds
          refine ⟨[.count streamId], Outside.shares ?_ ?_⟩
          · intro _ _ later
            cases later
            exact Or.inr rfl
          · simp [Pool.reserveStream, update, hold, same, SharedSession.step, pending]
      | touch =>
          refine ⟨[.act (.touch now)], Outside.shares (outside_of_not_reserving ?_ session) ?_⟩
          · cases fresh <;> rfl
          · simp [Pool.reserveStream, update, hold, same, SharedSession.step, ClientSession.act]

theorem Follows.removeClosedAndExpired (follows : pool.Follows session)
    (tuning : ClientSessionTuning) (now : Nat) (kept : List SessionId) (examined : SessionId)
    (rest : List SessionId) (stage : CleanStage) :
    (pool.removeClosedAndExpired tuning now kept examined rest stage).Follows session := by
  cases stage with
  | close =>
      exact (follows.act examined .close).away rfl rfl
  | closedFlag =>
      simp only [Pool.removeClosedAndExpired]
      split <;> exact follows.away rfl rfl
  | activeCount =>
      simp only [Pool.removeClosedAndExpired]
      split <;> exact follows.away rfl rfl
  | age =>
      simp only [Pool.removeClosedAndExpired]
      split <;> exact follows.away rfl rfl

theorem Follows.connectSession (follows : pool.Follows session) (answers : Answers) :
    (pool.connectSession answers).Follows session := by
  unfold Pool.connectSession
  split
  case isFalse => exact follows.away rfl rfl
  case isTrue =>
      by_cases own : session = pool.nextSessionId
      · refine ⟨answers.now, [], Outside.shares ?_ ?_⟩
        · intro _ _ holds
          cases holds
          exact Or.inl rfl
        · simp [update, own, SharedSession.new]
      · refine follows.idle ?_ (by simp [update, own])
        intro _ _ holds
        cases holds
        exact absurd rfl own

theorem Follows.advance (follows : pool.Follows session) (tuning : ClientSessionTuning)
    (answers : Answers) :
    (pool.advance tuning answers).Follows session := by
  unfold Pool.advance
  split
  case h_1 => exact follows
  case h_3 now kept examined rest stage holds =>
      exact follows.removeClosedAndExpired tuning now kept examined rest stage
  case h_6 =>
      split
      · refine follows.idle ?_ rfl
        intro _ _ holds
        cases holds
        exact Or.inl rfl
      · exact follows.away rfl rfl
  case h_8 => exact follows.connectSession answers
  case h_9 reserving fresh stage holds => exact follows.reserveStream holds answers.now
  all_goals exact follows.away rfl rfl

theorem Follows.step (follows : pool.Follows session) (tuning : ClientSessionTuning)
    (event : PoolEvent) :
    (pool.step tuning event).Follows session := by
  cases event with
  | lockToClean now =>
      simp only [Pool.step]
      split
      · exact follows.away rfl rfl
      · exact follows
  | lockToOpen =>
      simp only [Pool.step]
      split
      · exact follows.away rfl rfl
      · exact follows
  | advance answers => exact follows.advance tuning answers
  | act changed action => exact follows.act changed action

/-- Every session of the pool runs as a session of its own. -/
theorem run_follows (tuning : ClientSessionTuning) (session : SessionId)
    (events : List PoolEvent) : ((poolMachine tuning).run .new events).Follows session := by
  refine (poolMachine tuning).run_invariant (fun _ event follows => follows.step tuning event)
    ?_ events
  exact ⟨0, [], (outside_of_not_reserving rfl session).shares rfl⟩

end Pool

/-- Beside a stream that stays open, 2³² reservations later its id is reserved
again, and the insertion will replace its entry. -/
theorem long_lived_id_is_issued_again :
    ∃ now events, ¬ (sharedMachine.run (.new now) events).NoReuse := by
  obtain ⟨events, last⟩ := Pool.OneLive.reachable (UInt32.size - 2) (by decide)
  have wrapped : (twoStreamsMachine.run .new (events ++ reuse)).OneLive 1 := by
    rw [Machine.run_append]
    exact Pool.OneLive.run_overflow last
  have reserved : (twoStreamsMachine.run .new (events ++ reuse ++ reuse)).table 1 =
      ⟨2, 2, {1}, 0, false, [1], 0, 0⟩ := by
    rw [Machine.run_append, wrapped.run_reuse, wrapped.run_reserve (by decide)]
    simp [Pool.update]
  obtain ⟨now, own, shares⟩ :=
    Pool.run_follows (.fromConfig twoStreams) 1 (events ++ reuse ++ reuse)
  have same := shares.same.symm.trans reserved
  refine ⟨now, own, fun fresh => ?_⟩
  have unreplaced := fresh.unreplaced 1
  rw [same] at unreplaced
  exact unreplaced List.mem_cons_self (Finset.mem_singleton_self 1)

end Rtunnel.Anytls.Outbound
