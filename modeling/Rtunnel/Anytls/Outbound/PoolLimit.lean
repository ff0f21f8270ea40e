import Rtunnel.Anytls.Outbound.Pool

namespace Rtunnel.Anytls.Outbound

open Rtunnel.Data

/-! The limit on connections.

A full pool must reuse one of its sessions.  Selection looks for an idle session
first and for a busy one after that; a session whose last stream is released
between the two scans is neither, and a pool of such sessions grows.
-/

/-- At a full pool selection finds a session exactly if one was idle in the
first scan or busy in the second. -/
theorem select_isSome_iff {tuning : ClientSessionTuning} {limit : Nat}
    (limited : tuning.maxConnections = some limit) {sessions : List SessionId}
    (full : limit ≤ sessions.length) (idle busy : Reads)
    (greater : SessionId → SessionId → Bool) :
    (select tuning sessions idle busy greater).isSome ↔
      ∃ session ∈ sessions, idle.active session = 0 ∨ 0 < busy.active session := by
  simp only [select, limited, if_neg (Nat.not_lt.mpr full)]
  cases fresh : freshestIdle sessions idle with
  | some session =>
      obtain ⟨member, unused⟩ := freshestIdle_reads fresh
      exact iff_of_true rfl ⟨session, member, Or.inl unused⟩
  | none =>
      have used : ∀ session ∈ sessions, idle.active session ≠ 0 := by
        simpa [freshestIdle, List.filter_eq_nil_iff] using fresh
      cases least : leastBusyActive sessions busy greater none with
      | some session =>
          obtain ⟨member, positive, _⟩ := leastBusyActive_reads least
          exact iff_of_true rfl ⟨session, member, Or.inr positive⟩
      | none =>
          have released : ∀ session ∈ sessions, busy.active session = 0 := by
            simpa [leastBusyActive, List.filter_eq_nil_iff] using least
          refine iff_of_false Bool.false_ne_true ?_
          rintro ⟨session, member, unused | positive⟩
          · exact used session member unused
          · exact absurd (released session member) (Nat.ne_of_gt positive)

/-- A selection that ends at a full pool has a session to take. -/
def Holder.FindsSession (limit : Nat) (sessions : List SessionId) : Holder → Prop
  | .readingBusy idle busy [] =>
      limit ≤ sessions.length →
        ∃ session ∈ sessions, idle.active session = 0 ∨ 0 < busy.active session
  | _ => True

instance (limit : Nat) (sessions : List SessionId) :
    (lock : Holder) → Decidable (lock.FindsSession limit sessions)
  | .readingBusy idle busy [] =>
      inferInstanceAs (Decidable (limit ≤ sessions.length →
        ∃ session ∈ sessions, idle.active session = 0 ∨ 0 < busy.active session))
  | .readingBusy _ _ (_ :: _) | .free | .cleaning .. | .readingIdle .. | .connecting
  | .reserving .. | .pushing _ => .isTrue trivial

def Pool.FindsSession (limit : Nat) (pool : Pool) : PoolEvent → Prop
  | .advance _ => pool.lock.FindsSession limit pool.sessions
  | _ => True

instance (limit : Nat) (pool : Pool) :
    (event : PoolEvent) → Decidable (pool.FindsSession limit event)
  | .advance _ => inferInstanceAs (Decidable (pool.lock.FindsSession limit pool.sessions))
  | .lockToClean _ | .lockToOpen | .act _ _ => .isTrue trivial

/-- The holder of the lock adds a session only where there is room. -/
def Holder.HasRoom (limit : Nat) (sessions : List SessionId) : Holder → Prop
  | .cleaning _ kept rest _ => kept.length + rest.length ≤ sessions.length
  | .connecting => sessions.length < limit
  | .reserving _ fresh _ => fresh = true → sessions.length < limit
  | .pushing _ => sessions.length < limit
  | _ => True

structure Pool.Within (limit : Nat) (pool : Pool) : Prop where
  sessions : pool.sessions.length ≤ limit
  lock : pool.lock.HasRoom limit pool.sessions

namespace Pool.Within

variable {limit : Nat} {pool : Pool}

theorem removeClosedAndExpired (within : pool.sessions.length ≤ limit)
    (tuning : ClientSessionTuning) (now : Nat) {kept rest : List SessionId}
    {session : SessionId}
    (counted : kept.length + (session :: rest).length ≤ pool.sessions.length)
    (stage : CleanStage) :
    (pool.removeClosedAndExpired tuning now kept session rest stage).Within limit := by
  rw [List.length_cons] at counted
  have dropped : kept.length + rest.length ≤ pool.sessions.length := by omega
  have moved : (kept ++ [session]).length + rest.length ≤ pool.sessions.length := by
    rw [List.length_append, List.length_singleton]
    omega
  cases stage with
  | close => exact ⟨within, dropped⟩
  | closedFlag =>
      simp only [Pool.removeClosedAndExpired]
      split
      · exact ⟨within, dropped⟩
      · exact ⟨within, counted⟩
  | activeCount =>
      simp only [Pool.removeClosedAndExpired]
      split
      · exact ⟨within, counted⟩
      · exact ⟨within, moved⟩
  | age =>
      simp only [Pool.removeClosedAndExpired]
      split
      · exact ⟨within, counted⟩
      · exact ⟨within, moved⟩

theorem reserveFails (within : pool.sessions.length ≤ limit) (session : SessionId)
    (fresh : Bool) (now : Nat) : (pool.reserveFails session fresh now).Within limit := by
  unfold Pool.reserveFails
  split
  · exact ⟨within, Nat.le_of_eq (Nat.zero_add _)⟩
  · exact ⟨within, trivial⟩

theorem reserveStream (within : pool.sessions.length ≤ limit) (session : SessionId)
    {fresh : Bool} (room : fresh = true → pool.sessions.length < limit) (now : Nat)
    (stage : ReserveStage) : (pool.reserveStream session fresh now stage).Within limit := by
  cases stage with
  | closedFlag =>
      simp only [Pool.reserveStream]
      split
      · exact reserveFails within session fresh now
      · exact ⟨within, room⟩
  | takeId =>
      simp only [Pool.reserveStream]
      split
      · refine reserveFails ?_ session fresh now
        exact within
      · exact ⟨within, room⟩
  | count streamId => exact ⟨within, room⟩
  | touch =>
      refine ⟨within, ?_⟩
      cases fresh with
      | true => exact room rfl
      | false => trivial

theorem advance {tuning : ClientSessionTuning} (limited : tuning.maxConnections = some limit)
    (within : pool.Within limit) (answers : Answers)
    (finds : pool.FindsSession limit (.advance answers)) :
    (pool.advance tuning answers).Within limit := by
  obtain ⟨bounded, room⟩ := within
  unfold Pool.advance
  split
  case h_1 => exact ⟨bounded, room⟩
  case h_2 now kept stage holds =>
      rw [holds] at room
      exact ⟨Nat.le_trans room bounded, trivial⟩
  case h_3 now kept session rest stage holds =>
      rw [holds] at room
      exact removeClosedAndExpired bounded tuning now room stage
  case h_6 idle busy holds =>
      have finds : pool.lock.FindsSession limit pool.sessions := finds
      rw [holds] at finds
      split
      case h_1 session found => exact ⟨bounded, nofun⟩
      case h_2 found =>
          have reuses (full : limit ≤ pool.sessions.length) :
              (select tuning pool.sessions idle busy answers.greater).isSome :=
            (select_isSome_iff limited full idle busy answers.greater).mpr
              (finds full)
          refine ⟨bounded, Nat.lt_of_not_le fun full => ?_⟩
          have reused := reuses full
          rw [found] at reused
          cases reused
  case h_8 holds =>
      rw [holds] at room
      unfold Pool.connectSession
      split
      · exact ⟨bounded, fun _ => room⟩
      · exact ⟨bounded, trivial⟩
  case h_9 session fresh stage holds =>
      rw [holds] at room
      exact reserveStream bounded session room answers.now stage
  case h_10 session holds =>
      rw [holds] at room
      refine ⟨?_, trivial⟩
      rw [List.length_append, List.length_singleton]
      exact room
  all_goals exact ⟨bounded, trivial⟩

theorem step {tuning : ClientSessionTuning} (limited : tuning.maxConnections = some limit)
    (within : pool.Within limit) (event : PoolEvent) (finds : pool.FindsSession limit event) :
    (pool.step tuning event).Within limit := by
  cases event with
  | lockToClean now =>
      simp only [Pool.step]
      split
      · exact ⟨within.sessions, Nat.le_of_eq (Nat.zero_add _)⟩
      · exact within
  | lockToOpen =>
      simp only [Pool.step]
      split
      · exact ⟨within.sessions, trivial⟩
      · exact within
  | advance answers => exact within.advance limited answers finds
  | act session action => exact ⟨within.sessions, within.lock⟩

end Pool.Within

/-- A full pool reuses a session exactly if some session was idle in the first
scan or busy in the second, and a pool whose selections all find one never
outgrows its limit. -/
theorem pool_stays_within_limit {config : OutboundConfig} (anytls : config.protocol = .anytls)
    (valid : config.validate = .ok ()) {limit : Nat}
    (limited : config.maxConnections = some limit) :
    0 < limit ∧
    (∀ (sessions : List SessionId) (idle busy : Reads) (greater : SessionId → SessionId → Bool),
      limit ≤ sessions.length → (∀ session, busy.active session ≤ idle.active session) →
        ((select (.fromConfig config) sessions idle busy greater).isSome ↔
          ∃ session ∈ sessions, idle.active session = 0 ∨ 0 < busy.active session)) ∧
    ∀ events : List PoolEvent,
      (poolMachine (.fromConfig config)).Meets (Pool.FindsSession limit) .new events →
        ((poolMachine (.fromConfig config)).run .new events).sessions.length ≤ limit := by
  have tuned : (ClientSessionTuning.fromConfig config).maxConnections = some limit := limited
  refine ⟨(config.maxConnections_of_validate anytls valid limited).1, ?_, ?_⟩
  · intro sessions idle busy greater full _
    exact select_isSome_iff tuned full idle busy greater
  · intro events finds
    have keeps : ∀ pool event, pool.FindsSession limit event → pool.Within limit →
        ((poolMachine (.fromConfig config)).next pool event).Within limit :=
      fun pool event finds within => within.step tuned event finds
    have start : Pool.new.Within limit := ⟨Nat.zero_le limit, trivial⟩
    exact (Machine.run_invariant_of_meets _ keeps start finds).sessions

/-- One connection at most. -/
def oneConnection : OutboundConfig where
  tag := "proxy"
  protocol := .anytls
  maxStreams := none
  maxConnections := some 1
  connectionIdleTimeout := none

/-- A second stream is opened while the first one ends: its entry is released
after the scan for idle sessions has read it and before the next scan. -/
def secondOpen : List PoolEvent :=
  [.lockToClean 0, proceed, proceed, proceed, .lockToOpen, proceed,
    .act 1 (.remove 1), .act 1 .release] ++ List.replicate 9 proceed

/-- The only session of a full pool is neither idle nor busy: the pool grows. -/
theorem released_session_is_missed :
    oneConnection.validate = .ok () ∧
      select (.fromConfig oneConnection) [1] ⟨fun _ => 1, fun _ => 0⟩ ⟨fun _ => 0, fun _ => 0⟩
        (fun _ _ => false) = none ∧
      ((poolMachine (.fromConfig oneConnection)).run .new
        (firstOpen ++ secondOpen)).sessions = [1, 2] := by
  decide

/-- A second stream opened while the first one lives reuses its connection. -/
theorem live_session_is_reused :
    ((poolMachine (.fromConfig oneConnection)).run .new
      (firstOpen ++ [.lockToOpen] ++ List.replicate 4 proceed)).sessions.length ≤ 1 := by
  exact (pool_stays_within_limit rfl rfl rfl).2.2 _ (by decide)

end Rtunnel.Anytls.Outbound
