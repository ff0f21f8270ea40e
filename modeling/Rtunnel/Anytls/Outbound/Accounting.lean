import Rtunnel.Anytls.Outbound.Pool

namespace Rtunnel.Anytls.Outbound

open Rtunnel.Data

/-! Accounting of streams.

Every decision of the pool reads a session's counter.  The counter never falls
short of the streams it stands for, so an expiring session carries none and the
limit on streams holds.  It is exact as long as every stream enters the map
under an unused id; the id counter wraps around, and an insertion that replaces
a live entry leaves the counter one too high for good.
-/

namespace ClientSession

/-- Streams reserved or in the map. -/
def load (session : ClientSession) : Nat := session.reserved.length + session.streams.card

/-- The counter of an open session is exact. -/
def Accounted (session : ClientSession) : Prop :=
  session.closed = false → session.activeStreams = session.load + session.removing

/-- The counter of an open session covers its streams. -/
def Covered (session : ClientSession) : Prop :=
  session.closed = false → session.load + session.removing ≤ session.activeStreams

theorem load_insertStream_le {session : ClientSession} {streamId : UInt32}
    (pending : streamId ∈ session.reserved) :
    (session.insertStream streamId).load ≤ session.load := by
  have shorter := List.length_erase_of_mem pending
  have positive := List.length_pos_of_mem pending
  have grown := Finset.card_insert_le streamId session.streams
  simp only [load, insertStream]
  omega

/-- A new entry leaves the load alone, a replaced one lowers it. -/
theorem load_insertStream_eq_iff {session : ClientSession} {streamId : UInt32}
    (pending : streamId ∈ session.reserved) :
    (session.insertStream streamId).load = session.load ↔ streamId ∉ session.streams := by
  have shorter := List.length_erase_of_mem pending
  have positive := List.length_pos_of_mem pending
  simp only [load, insertStream]
  by_cases live : streamId ∈ session.streams
  · simp only [Finset.insert_eq_of_mem live, live, not_true, iff_false]
    omega
  · simp only [Finset.card_insert_of_notMem live, live, not_false_eq_true, iff_true]
    omega

theorem load_removeStream {session : ClientSession} {streamId : UInt32}
    (present : streamId ∈ session.streams) :
    (session.removeStream streamId).load + 1 = session.load := by
  have smaller := Finset.card_erase_of_mem present
  have positive := Finset.card_pos.mpr ⟨streamId, present⟩
  simp only [load, removeStream]
  omega

@[simp] theorem load_takeStreamId (session : ClientSession) :
    session.takeStreamId.load = session.load := rfl

theorem load_countStream (session : ClientSession) (streamId : UInt32) :
    (session.countStream streamId).load = session.load + 1 := by
  simp only [load, countStream, List.length_cons]
  omega

theorem load_clearStreams_le (session : ClientSession) :
    session.clearStreams.load ≤ session.load := by
  simp [load, clearStreams]

end ClientSession

/-- No open session gets a stream under the id of a live one. -/
def Pool.InsertsUnused (pool : Pool) : PoolEvent → Prop
  | .act session (.insert streamId) =>
      (pool.table session).closed = false → streamId ∈ (pool.table session).reserved →
        streamId ∉ (pool.table session).streams
  | _ => True

instance (pool : Pool) : (event : PoolEvent) → Decidable (pool.InsertsUnused event)
  | .act session (.insert streamId) =>
      inferInstanceAs (Decidable ((pool.table session).closed = false →
        streamId ∈ (pool.table session).reserved → streamId ∉ (pool.table session).streams))
  | .act _ (.remove _) | .act _ .release | .act _ (.touch _) | .act _ .close | .act _ .clear
  | .act _ .storeZero | .lockToClean _ | .lockToOpen | .advance _ => .isTrue trivial

namespace Change

variable {pool : Pool} {event : PoolEvent} {session : SessionId} {after : ClientSession}

/-- A step that leaves a session open changes its counter by as much as what the
counter stands for, except where an insertion replaces a live entry. -/
theorem balance (change : Change pool event session after) (isOpen : after.closed = false)
    (covered : (pool.table session).Covered) :
    after.activeStreams = after.load + after.removing ∨
    (pool.table session).closed = false ∧ ∃ replaced,
      (pool.table session).load + (pool.table session).removing + after.activeStreams =
        after.load + after.removing + (pool.table session).activeStreams + replaced ∧
      (replaced = 0 ∨ ∃ streamId, event = .act session (.insert streamId) ∧
        streamId ∈ (pool.table session).reserved ∧ streamId ∈ (pool.table session).streams) := by
  cases change with
  | same | touch | takeId => exact Or.inr ⟨isOpen, 0, rfl, Or.inl rfl⟩
  | insert streamId own pending =>
      refine Or.inr ⟨isOpen, (pool.table session).load -
        ((pool.table session).insertStream streamId).load, ?_, ?_⟩
      · have smaller := ClientSession.load_insertStream_le pending
        simp only [ClientSession.insertStream] at smaller ⊢
        omega
      · by_cases live : streamId ∈ (pool.table session).streams
        · exact Or.inr ⟨streamId, own, pending, live⟩
        · rw [(ClientSession.load_insertStream_eq_iff pending).mpr live]
          exact Or.inl (Nat.sub_self _)
  | remove streamId present =>
      have smaller := ClientSession.load_removeStream present
      refine Or.inr ⟨isOpen, 0, ?_, Or.inl rfl⟩
      simp only [ClientSession.removeStream] at smaller ⊢
      omega
  | release pending =>
      have enough := covered isOpen
      refine Or.inr ⟨isOpen, 0, ?_, Or.inl rfl⟩
      simp only [ClientSession.releaseStream, ClientSession.load] at enough ⊢
      omega
  | close => cases isOpen
  | clear closed => exact absurd (closed.symm.trans isOpen) nofun
  | storeZero closed => exact absurd (closed.symm.trans isOpen) nofun
  | count fresh streamId answers own counting =>
      refine Or.inr ⟨isOpen, 0, ?_, Or.inl rfl⟩
      rw [ClientSession.load_countStream]
      simp only [ClientSession.countStream]
      omega
  | create now => exact Or.inl rfl

theorem covered (change : Change pool event session after)
    (covered : (pool.table session).Covered) : after.Covered := by
  intro isOpen
  rcases change.balance isOpen covered with exactly | ⟨wasOpen, replaced, balanced, _⟩
  · exact Nat.le_of_eq exactly.symm
  · have enough := covered wasOpen
    omega

theorem accounted (change : Change pool event session after)
    (accounted : (pool.table session).Accounted) (unused : pool.InsertsUnused event) :
    after.Accounted := by
  intro isOpen
  have covered : (pool.table session).Covered :=
    fun wasOpen => Nat.le_of_eq (accounted wasOpen).symm
  rcases change.balance isOpen covered with exactly | ⟨wasOpen, replaced, balanced, none | live⟩
  · exact exactly
  · have exactly := accounted wasOpen
    omega
  · obtain ⟨streamId, rfl, pending, present⟩ := live
    exact absurd present (unused wasOpen pending)

/-- Only a counted reservation raises the counter or the load. -/
theorem le_or_counts (change : Change pool event session after) :
    (after.activeStreams ≤ (pool.table session).activeStreams ∧
      after.load ≤ (pool.table session).load) ∨
    ∃ fresh streamId answers, event = .advance answers ∧
      pool.lock = .reserving session fresh (.count streamId) ∧
        after.load = (pool.table session).load + 1 := by
  cases change with
  | same | touch | takeId | close => exact Or.inl ⟨Nat.le_refl _, Nat.le_refl _⟩
  | insert streamId own pending =>
      exact Or.inl ⟨Nat.le_refl _, ClientSession.load_insertStream_le pending⟩
  | remove streamId present =>
      have smaller := ClientSession.load_removeStream present
      exact Or.inl ⟨Nat.le_refl _, by omega⟩
  | release pending => exact Or.inl ⟨Nat.sub_le _ _, Nat.le_refl _⟩
  | clear closed => exact Or.inl ⟨Nat.le_refl _, ClientSession.load_clearStreams_le _⟩
  | storeZero closed => exact Or.inl ⟨Nat.zero_le _, Nat.le_refl _⟩
  | count fresh streamId answers own counting =>
      exact Or.inr ⟨fresh, streamId, answers, own, counting,
        ClientSession.load_countStream _ streamId⟩
  | create now => exact Or.inl ⟨Nat.zero_le _, Nat.zero_le _⟩

end Change

/-- Every open session's counter is exact. -/
def Pool.Accounted (pool : Pool) : Prop := ∀ session, (pool.table session).Accounted

/-- From exact counters a step keeps them exact unless it replaces a live entry. -/
theorem Pool.Accounted.step_iff {pool : Pool} (accounted : pool.Accounted)
    (tuning : ClientSessionTuning) (event : PoolEvent) :
    (pool.step tuning event).Accounted ↔ pool.InsertsUnused event := by
  constructor
  · intro after
    cases event with
    | act session action =>
        cases action with
        | insert streamId =>
            intro isOpen pending
            have updated : ((pool.step tuning (.act session (.insert streamId))).table session) =
                (pool.table session).insertStream streamId := by
              simp [Pool.step, Pool.update, ClientSession.act, pending]
            have exactly := after session
            rw [updated] at exactly
            refine (ClientSession.load_insertStream_eq_iff pending).mp ?_
            exact Nat.add_right_cancel ((exactly isOpen).symm.trans (accounted session isOpen))
        | _ => trivial
    | _ => trivial
  · intro unused session
    exact (Change.step tuning pool event session).accounted (accounted session) unused

/-- A read replaces the bound of the session it reads. -/
theorem Pool.le_read {pool : Pool} {reads : Reads} {session other : SessionId}
    (earlier : other ≠ session → (pool.table other).activeStreams ≤ reads.active other) :
    (pool.table other).activeStreams ≤ (pool.read reads session).active other := by
  by_cases same : other = session
  · simp [same, Pool.read]
  · simpa [Pool.read, same] using earlier same

/-- While the lock is held counters only fall, so what its holder has read of a
session stays an upper bound. -/
def Holder.Backed (maxStreams : Option Nat) (pool : Pool) : Holder → Prop
  | .cleaning _ _ rest stage =>
      stage = .age ∨ stage = .close →
        ∀ session ∈ rest.head?, (pool.table session).activeStreams = 0
  | .readingIdle idle rest =>
      ∀ session ∈ pool.sessions, session ∉ rest →
        (pool.table session).activeStreams ≤ idle.active session
  | .readingBusy idle busy rest =>
      ∀ session ∈ pool.sessions, (pool.table session).activeStreams ≤ idle.active session ∧
        (session ∉ rest → (pool.table session).activeStreams ≤ busy.active session)
  | .reserving session _ .closedFlag =>
      ∀ limit ∈ maxStreams, (pool.table session).activeStreams < limit
  | .reserving session _ .takeId | .reserving session _ (.count _) =>
      ∀ limit ∈ maxStreams, (pool.table session).load < limit
  | _ => True

structure Pool.Sound (maxStreams : Option Nat) (pool : Pool) : Prop where
  covered : ∀ session, (pool.table session).Covered
  limited : ∀ limit ∈ maxStreams, ∀ session, (pool.table session).load ≤ limit
  lock : pool.lock.Backed maxStreams pool

namespace Holder.Backed

variable {maxStreams : Option Nat} {pool : Pool}

theorem mono {lock : Holder} (backed : lock.Backed maxStreams pool) {after : Pool}
    (sessions : after.sessions = pool.sessions)
    (lower : ∀ session,
      (after.table session).activeStreams ≤ (pool.table session).activeStreams ∧
        (after.table session).load ≤ (pool.table session).load) :
    lock.Backed maxStreams after := by
  cases lock with
  | free | connecting | pushing => trivial
  | cleaning now kept rest stage =>
      intro expiring session next
      exact Nat.eq_zero_of_le_zero (backed expiring session next ▸ (lower session).1)
  | readingIdle idle rest =>
      intro session member read
      exact Nat.le_trans (lower session).1 (backed session (sessions ▸ member) read)
  | readingBusy idle busy rest =>
      intro session member
      obtain ⟨first, second⟩ := backed session (sessions ▸ member)
      exact ⟨Nat.le_trans (lower session).1 first,
        fun read => Nat.le_trans (lower session).1 (second read)⟩
  | reserving session fresh stage =>
      cases stage with
      | closedFlag =>
          exact fun limit limited => Nat.lt_of_le_of_lt (lower session).1 (backed limit limited)
      | takeId =>
          exact fun limit limited => Nat.lt_of_le_of_lt (lower session).2 (backed limit limited)
      | count streamId =>
          exact fun limit limited => Nat.lt_of_le_of_lt (lower session).2 (backed limit limited)
      | touch => trivial

theorem nextChecked (now : Nat) (kept rest : List SessionId) :
    (Holder.cleaning now kept rest .closedFlag).Backed maxStreams pool := by
  rintro (expired | expired) <;> cases expired

theorem removeClosedAndExpired (tuning : ClientSessionTuning) {now : Nat}
    {kept rest : List SessionId} {session : SessionId} {stage : CleanStage}
    (backed : (Holder.cleaning now kept (session :: rest) stage).Backed maxStreams pool) :
    (pool.removeClosedAndExpired tuning now kept session rest stage).lock.Backed maxStreams
      (pool.removeClosedAndExpired tuning now kept session rest stage) := by
  cases stage with
  | closedFlag =>
      simp only [Pool.removeClosedAndExpired]
      split
      · exact nextChecked now kept rest
      · rintro (expired | expired) <;> cases expired
  | activeCount =>
      simp only [Pool.removeClosedAndExpired]
      split
      case isTrue unused =>
          intro _ checked next
          cases next
          exact unused
      case isFalse => exact nextChecked now (kept ++ [session]) rest
  | age =>
      simp only [Pool.removeClosedAndExpired]
      split
      · exact fun _ => backed (Or.inl rfl)
      · exact nextChecked now (kept ++ [session]) rest
  | close => exact nextChecked now kept rest

theorem reserveFails (session : SessionId) (fresh : Bool) (now : Nat) :
    (pool.reserveFails session fresh now).lock.Backed maxStreams
      (pool.reserveFails session fresh now) := by
  unfold Pool.reserveFails
  split
  · exact nextChecked now [] pool.sessions
  · trivial

theorem reserveStream (covered : ∀ session, (pool.table session).Covered)
    {session : SessionId} {fresh : Bool} {stage : ReserveStage}
    (backed : (Holder.reserving session fresh stage).Backed maxStreams pool) (now : Nat) :
    (pool.reserveStream session fresh now stage).lock.Backed maxStreams
      (pool.reserveStream session fresh now stage) := by
  cases stage with
  | closedFlag =>
      simp only [Pool.reserveStream]
      split
      case isTrue => exact reserveFails session fresh now
      case isFalse isOpen =>
          intro limit limited
          have enough := covered session (Bool.eq_false_of_not_eq_true isOpen)
          have below := backed limit limited
          show (pool.table session).load < limit
          omega
  | takeId =>
      simp only [Pool.reserveStream]
      split
      · exact reserveFails session fresh now
      · intro limit limited
        have below := backed limit limited
        simpa [Pool.hold, Pool.update] using below
  | count streamId => trivial
  | touch => cases fresh <;> trivial

theorem advance {tuning : ClientSessionTuning} (sensible : tuning.Sensible)
    (covered : ∀ session, (pool.table session).Covered)
    (backed : pool.lock.Backed tuning.maxStreams pool) (answers : Answers) :
    (pool.advance tuning answers).lock.Backed tuning.maxStreams
      (pool.advance tuning answers) := by
  unfold Pool.advance
  split
  case h_1 => exact backed
  case h_2 => trivial
  case h_3 now kept session rest stage holds =>
      rw [holds] at backed
      exact removeClosedAndExpired tuning backed
  case h_4 idle holds =>
      rw [holds] at backed
      intro session member
      exact ⟨backed session member List.not_mem_nil, fun unread => absurd member unread⟩
  case h_5 idle session rest holds =>
      rw [holds] at backed
      intro other member read
      refine Pool.le_read fun different => backed other member ?_
      exact List.not_mem_cons_of_ne_of_not_mem different read
  case h_6 idle busy holds =>
      rw [holds] at backed
      split
      case h_1 session found =>
          intro limit limited
          obtain ⟨member, below⟩ := select_reads sensible found limited
          obtain ⟨first, second⟩ := backed session member
          have last := second List.not_mem_nil
          show (pool.table session).activeStreams < limit
          omega
      case h_2 => trivial
  case h_7 idle busy session rest holds =>
      rw [holds] at backed
      intro other member
      obtain ⟨first, second⟩ := backed other member
      refine ⟨first, fun read => Pool.le_read fun different => second ?_⟩
      exact List.not_mem_cons_of_ne_of_not_mem different read
  case h_8 holds =>
      unfold Pool.connectSession
      split
      · intro limit limited
        simpa [Pool.update, ClientSession.new] using (sensible limit limited).1
      · trivial
  case h_9 session fresh stage holds =>
      rw [holds] at backed
      exact reserveStream covered backed answers.now
  case h_10 => trivial

end Holder.Backed

namespace Pool.Sound

variable {pool : Pool} {tuning : ClientSessionTuning}

theorem new (maxStreams : Option Nat) : Pool.new.Sound maxStreams where
  covered := fun _ _ => Nat.le_refl 0
  limited := fun limit _ _ => Nat.zero_le limit
  lock := trivial

/-- A counted reservation had room, every other step lowers the load. -/
theorem load_le (sound : pool.Sound tuning.maxStreams) (event : PoolEvent) {limit : Nat}
    (limited : limit ∈ tuning.maxStreams) (session : SessionId) :
    ((pool.step tuning event).table session).load ≤ limit := by
  rcases (Change.step tuning pool event session).le_or_counts with
    ⟨_, lower⟩ | ⟨fresh, streamId, answers, _, counting, grown⟩
  · exact Nat.le_trans lower (sound.limited limit limited session)
  · have room := sound.lock
    rw [counting] at room
    rw [grown]
    exact room limit limited

theorem step (sensible : tuning.Sensible) (sound : pool.Sound tuning.maxStreams)
    (event : PoolEvent) : (pool.step tuning event).Sound tuning.maxStreams where
  covered := fun session =>
    (Change.step tuning pool event session).covered (sound.covered session)
  limited := fun limit limited session => sound.load_le event limited session
  lock := by
    cases event with
    | lockToClean now =>
        simp only [Pool.step]
        split
        · exact Holder.Backed.nextChecked now [] pool.sessions
        · exact sound.lock
    | lockToOpen =>
        simp only [Pool.step]
        split
        · exact fun session member unread => absurd member unread
        · exact sound.lock
    | advance answers => exact sound.lock.advance sensible sound.covered answers
    | act session action =>
        have moved : pool.lock.Backed tuning.maxStreams
            (pool.step tuning (.act session action)) := by
          refine Holder.Backed.mono sound.lock rfl fun other => ?_
          rcases (Change.step tuning pool (.act session action) other).le_or_counts with
            lower | ⟨_, _, _, own, _⟩
          · exact lower
          · cases own
        exact moved

theorem run (sensible : tuning.Sensible) (events : List PoolEvent) :
    ((poolMachine tuning).run .new events).Sound tuning.maxStreams := by
  have keeps : ∀ pool event, pool.Sound tuning.maxStreams →
      ((poolMachine tuning).next pool event).Sound tuning.maxStreams :=
    fun pool event sound => sound.step sensible event
  exact Machine.run_invariant _ keeps (new tuning.maxStreams) events

end Pool.Sound

/-- The cleaner is about to close an open session because it looks idle. -/
def Pool.Expires (pool : Pool) (session : SessionId) : Prop :=
  (∃ now kept rest, pool.lock = .cleaning now kept (session :: rest) .close) ∧
    (pool.table session).closed = false

theorem Pool.Sound.load_of_expires {maxStreams : Option Nat} {pool : Pool}
    (sound : pool.Sound maxStreams) {session : SessionId} (expires : pool.Expires session) :
    (pool.table session).load = 0 := by
  obtain ⟨⟨now, kept, rest, holds⟩, isOpen⟩ := expires
  have unused := sound.lock
  rw [holds] at unused
  have none := unused (Or.inr rfl) session rfl
  have enough := sound.covered session isOpen
  omega

/-- In every interleaving the counters of all open sessions are exact exactly as
long as no stream enters a map under the id of a live one.  In any case a
session that expires has no stream, and no session has more than its limit. -/
theorem streams_are_accounted_iff {config : OutboundConfig} (anytls : config.protocol = .anytls)
    (valid : config.validate = .ok ()) (events : List PoolEvent) :
    ((∀ past, past <+: events →
        ((poolMachine (.fromConfig config)).run .new past).Accounted) ↔
      (poolMachine (.fromConfig config)).Meets Pool.InsertsUnused .new events) ∧
    ∀ session,
      (((poolMachine (.fromConfig config)).run .new events).Expires session →
        (((poolMachine (.fromConfig config)).run .new events).table session).reserved = [] ∧
        (((poolMachine (.fromConfig config)).run .new events).table session).streams = ∅) ∧
      ∀ limit ∈ config.anytlsMaxStreams,
        (((poolMachine (.fromConfig config)).run .new events).table session).load ≤ limit := by
  have sensible := ClientSessionTuning.fromConfig_sensible anytls valid
  have sound := Pool.Sound.run sensible events
  refine ⟨?_, fun session => ⟨fun expires => ?_, fun limit limited => ?_⟩⟩
  · refine Machine.safe_along_iff_meets _ Pool.Accounted ?_ (fun _ _ => rfl) events
    exact fun pool event accounted => accounted.step_iff _ event
  · have unused := sound.load_of_expires expires
    rw [ClientSession.load, Nat.add_eq_zero_iff] at unused
    exact ⟨List.eq_nil_of_length_eq_zero unused.1, Finset.card_eq_zero.mp unused.2⟩
  · exact sound.limited limit limited session

/-- Two streams at most on one connection. -/
def twoStreams : OutboundConfig where
  tag := "proxy"
  protocol := .anytls
  maxStreams := some 2
  maxConnections := none
  connectionIdleTimeout := none

/-- The first stream of a connection is accounted for. -/
theorem first_stream_is_accounted :
    ((poolMachine (.fromConfig twoStreams)).run .new firstOpen).Accounted := by
  have valid : twoStreams.validate = .ok () := rfl
  have always := (streams_are_accounted_iff rfl valid firstOpen).1.mpr (by decide)
  exact always firstOpen List.prefix_rfl

def twoStreamsMachine : Machine Pool PoolEvent Unit := poolMachine (.fromConfig twoStreams)

/-- Stream 1 lives on the only connection, whose next id is given. -/
structure Pool.OneLive (nextStreamId : UInt32) (pool : Pool) : Prop where
  sessions : pool.sessions = [1]
  session : pool.table 1 = ⟨nextStreamId, 1, {1}, 0, false, [], 0, 0⟩
  lock : pool.lock = .free

def cleanPass : List PoolEvent := .lockToClean 0 :: List.replicate 3 proceed

/-- One more stream is opened on the connection. -/
def reuse : List PoolEvent :=
  cleanPass ++ (.lockToOpen :: List.replicate 4 proceed ++ List.replicate 4 proceed)

/-- A stream that is opened, used and removed. -/
def shortLived (streamId : UInt32) : List PoolEvent :=
  reuse ++ [.act 1 (.insert streamId), .act 1 (.remove streamId), .act 1 .release]

namespace Pool.OneLive

variable {pool : Pool} {nextStreamId : UInt32}

theorem run_firstOpen : (twoStreamsMachine.run .new firstOpen).OneLive 2 :=
  ⟨by decide, by decide, rfl⟩

/-- The busy session survives a pass of the cleaner. -/
theorem run_cleanPass (live : pool.OneLive nextStreamId) :
    twoStreamsMachine.run pool cleanPass = pool := by
  obtain ⟨sessions, table, nextSessionId, removed, lock⟩ := pool
  obtain ⟨rfl, session, rfl⟩ := live
  dsimp only at session
  simp [cleanPass, twoStreamsMachine, proceed, Pool.step, Pool.advance, Pool.hold,
    Pool.removeClosedAndExpired, List.replicate, session]

/-- It is below its limit, so it is selected. -/
theorem run_select (live : pool.OneLive nextStreamId) :
    twoStreamsMachine.run pool (.lockToOpen :: List.replicate 4 proceed) =
      pool.hold (.reserving 1 false .closedFlag) := by
  obtain ⟨sessions, table, nextSessionId, removed, lock⟩ := pool
  obtain ⟨rfl, session, rfl⟩ := live
  dsimp only at session
  simp [twoStreamsMachine, proceed, Pool.step, Pool.advance, Pool.hold, Pool.read, List.replicate,
    session, select, freshestIdle, leastBusyActive, maxByKey, minBy, reduce,
    ClientSessionTuning.fromConfig, twoStreams, OutboundConfig.anytlsMaxStreams]

theorem run_reserve (live : pool.OneLive nextStreamId) (fits : nextStreamId ≠ 0) :
    twoStreamsMachine.run (pool.hold (.reserving 1 false .closedFlag))
        (List.replicate 4 proceed) =
      pool.update 1 ⟨nextStreamId + 1, 2, {1}, 0, false, [nextStreamId], 0, 0⟩ := by
  obtain ⟨sessions, table, nextSessionId, removed, lock⟩ := pool
  obtain ⟨rfl, session, rfl⟩ := live
  dsimp only at session
  simp [twoStreamsMachine, proceed, Pool.step, Pool.advance, Pool.hold, Pool.reserveStream,
    Pool.update, List.replicate, session, fits, ClientSession.takeStreamId,
    ClientSession.countStream, ClientSession.touch]

/-- At the overflow the reservation fails and the counter moves on. -/
theorem run_reserve_overflow (live : pool.OneLive 0) :
    twoStreamsMachine.run (pool.hold (.reserving 1 false .closedFlag))
        (List.replicate 4 proceed) =
      pool.update 1 ⟨1, 1, {1}, 0, false, [], 0, 0⟩ := by
  obtain ⟨sessions, table, nextSessionId, removed, lock⟩ := pool
  obtain ⟨rfl, session, rfl⟩ := live
  dsimp only at session
  simp [twoStreamsMachine, proceed, Pool.step, Pool.advance, Pool.hold, Pool.reserveStream,
    Pool.reserveFails, Pool.update, List.replicate, session, ClientSession.takeStreamId]

theorem run_reuse (live : pool.OneLive nextStreamId) :
    twoStreamsMachine.run pool reuse =
      twoStreamsMachine.run (pool.hold (.reserving 1 false .closedFlag))
        (List.replicate 4 proceed) := by
  rw [reuse, Machine.run_append, live.run_cleanPass, Machine.run_append, live.run_select]

theorem run_overflow (live : pool.OneLive 0) :
    (twoStreamsMachine.run pool reuse).OneLive 1 := by
  rw [live.run_reuse, live.run_reserve_overflow]
  exact ⟨live.sessions, by simp [Pool.update], live.lock⟩

theorem run_shortLived (live : pool.OneLive nextStreamId) (fits : nextStreamId ≠ 0)
    (other : nextStreamId ≠ 1) :
    (twoStreamsMachine.run pool (shortLived nextStreamId)).OneLive (nextStreamId + 1) := by
  rw [shortLived, Machine.run_append, live.run_reuse, live.run_reserve fits]
  refine ⟨live.sessions, ?_, live.lock⟩
  simp [twoStreamsMachine, Pool.step, Pool.update, ClientSession.act, ClientSession.insertStream,
    ClientSession.removeStream, ClientSession.releaseStream, other]

/-- Short streams carry the counter to any id beside the live stream. -/
theorem reachable (count : Nat) (bound : 2 + count ≤ UInt32.size) :
    ∃ events, (twoStreamsMachine.run .new events).OneLive (UInt32.ofNat (2 + count)) := by
  induction count with
  | zero => exact ⟨firstOpen, run_firstOpen⟩
  | succ count ih =>
      obtain ⟨events, live⟩ := ih (by omega)
      have value : (UInt32.ofNat (2 + count)).toNat = 2 + count :=
        UInt32.toNat_ofNat_of_lt' (Nat.lt_of_succ_le bound)
      have differs : ∀ streamId : UInt32, streamId.toNat < 2 →
          UInt32.ofNat (2 + count) ≠ streamId := by
        rintro streamId small rfl
        omega
      refine ⟨events ++ shortLived (UInt32.ofNat (2 + count)), ?_⟩
      rw [Machine.run_append, ← Nat.add_assoc, UInt32.ofNat_add]
      exact live.run_shortLived (differs 0 (by decide)) (differs 1 (by decide))

end Pool.OneLive

/-- After 2³² reservations beside a live stream its id is reserved again, and the
insertion replaces its entry: the counter stays one too high. -/
theorem wrapped_id_replaces_live_stream :
    twoStreams.validate = .ok () ∧
      ∃ events, ¬ ((poolMachine (.fromConfig twoStreams)).run .new events).Accounted := by
  refine ⟨by decide, ?_⟩
  obtain ⟨events, last⟩ := Pool.OneLive.reachable (UInt32.size - 2) (by decide)
  have wrapped : (twoStreamsMachine.run .new (events ++ reuse)).OneLive 1 := by
    rw [Machine.run_append]
    exact Pool.OneLive.run_overflow last
  refine ⟨events ++ reuse ++ (reuse ++ [.act 1 (.insert 1)]), fun accounted => ?_⟩
  have replaced : (twoStreamsMachine.run .new
      (events ++ reuse ++ (reuse ++ [.act 1 (.insert 1)]))).table 1 =
        ⟨2, 2, {1}, 0, false, [], 0, 0⟩ := by
    rw [Machine.run_append, Machine.run_append, wrapped.run_reuse, wrapped.run_reserve (by decide)]
    simp [twoStreamsMachine, Pool.step, Pool.update, ClientSession.act,
      ClientSession.insertStream]
  have exactly := accounted 1
  rw [show poolMachine (.fromConfig twoStreams) = twoStreamsMachine from rfl, replaced] at exactly
  exact absurd (exactly rfl) (by decide)

end Rtunnel.Anytls.Outbound
