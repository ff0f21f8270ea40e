import Rtunnel.Config
import Rtunnel.Data.Machine
import Rtunnel.Data.Selection
import Mathlib.Data.Finset.Card
import Mathlib.Data.Finset.Erase
import Mathlib.Data.Finset.Insert
import Mathlib.Logic.Function.Basic

namespace Rtunnel.Anytls.Outbound

open Rtunnel.Data

/-! The pool of client sessions.

Opening a stream and cleaning the pool hold the pool's lock; the sessions'
counters are atomics that other tasks change without it.  A run is therefore a
list of single accesses: `advance` moves the holder of the lock over its next
access, and a session's own events are the accesses of the tasks that relay,
close and tear down its streams.  Opening a stream holds the lock twice, first
to clean and then to select; a run may order such holdings in any way.

Instants and durations count nanoseconds.
-/

abbrev SessionId := Nat

structure ClientSessionTuning where
  maxStreams : Option Nat
  maxConnections : Option Nat
  connectionIdleTimeout : Nat
deriving DecidableEq

def ClientSessionTuning.fromConfig (config : OutboundConfig) : ClientSessionTuning where
  maxStreams := config.anytlsMaxStreams
  maxConnections := config.maxConnections
  connectionIdleTimeout := config.anytlsConnectionIdleTimeout

/-- A limit on streams admits one and stands alone. -/
def ClientSessionTuning.Sensible (tuning : ClientSessionTuning) : Prop :=
  ∀ limit ∈ tuning.maxStreams, 0 < limit ∧ tuning.maxConnections = none

theorem ClientSessionTuning.fromConfig_sensible {config : OutboundConfig}
    (anytls : config.protocol = .anytls) (valid : config.validate = .ok ()) :
    (fromConfig config).Sensible := by
  intro limit limited
  refine ⟨config.anytlsMaxStreams_pos anytls valid limited, ?_⟩
  cases connections : config.maxConnections with
  | none => exact connections
  | some bound => simp [fromConfig, OutboundConfig.anytlsMaxStreams, connections] at limited

/-- What one scan over the pool read from each session. -/
structure Reads where
  active : SessionId → Nat
  lastUsed : SessionId → Nat

def Reads.nothing : Reads := ⟨fun _ => 0, fun _ => 0⟩

def freshestIdle (sessions : List SessionId) (reads : Reads) : Option SessionId :=
  maxByKey reads.lastUsed (sessions.filter fun session => reads.active session == 0)

def freshestSession (sessions : List SessionId) (reads : Reads) : Option SessionId :=
  maxByKey reads.lastUsed sessions

/-- The comparison reads the counters once more; `greater` is what it saw. -/
def leastBusyActive (sessions : List SessionId) (reads : Reads)
    (greater : SessionId → SessionId → Bool) (maxStreams : Option Nat) : Option SessionId :=
  minBy greater (sessions.filter fun session =>
    decide (0 < reads.active session) &&
      maxStreams.all fun limit => decide (reads.active session < limit))

/-- The scan for an idle session reads `idle`, the one after it reads `busy`. -/
def select (tuning : ClientSessionTuning) (sessions : List SessionId) (idle busy : Reads)
    (greater : SessionId → SessionId → Bool) : Option SessionId :=
  match freshestIdle sessions idle with
  | some session => some session
  | none =>
      match tuning.maxConnections with
      | some maxConnections =>
          if sessions.length < maxConnections then none
          else leastBusyActive sessions busy greater none
      | none =>
          match tuning.maxStreams with
          | some maxStreams => leastBusyActive sessions busy greater (some maxStreams)
          | none => freshestSession sessions busy

theorem leastBusyActive_reads {sessions : List SessionId} {reads : Reads}
    {greater : SessionId → SessionId → Bool} {maxStreams : Option Nat} {session : SessionId}
    (found : leastBusyActive sessions reads greater maxStreams = some session) :
    session ∈ sessions ∧ 0 < reads.active session ∧
      ∀ limit ∈ maxStreams, reads.active session < limit := by
  have member := mem_of_minBy found
  simp only [List.mem_filter, Bool.and_eq_true, decide_eq_true_eq] at member
  obtain ⟨listed, positive, below⟩ := member
  refine ⟨listed, positive, fun limit limited => ?_⟩
  cases limited
  simpa using below

theorem freshestIdle_reads {sessions : List SessionId} {reads : Reads} {session : SessionId}
    (found : freshestIdle sessions reads = some session) :
    session ∈ sessions ∧ reads.active session = 0 := by
  have member := mem_of_maxByKey found
  simpa [List.mem_filter] using member

/-- Under a limit on streams the selected session was read below it. -/
theorem select_reads {tuning : ClientSessionTuning} (sensible : tuning.Sensible)
    {sessions : List SessionId} {idle busy : Reads} {greater : SessionId → SessionId → Bool}
    {session : SessionId} (found : select tuning sessions idle busy greater = some session)
    {limit : Nat} (limited : limit ∈ tuning.maxStreams) :
    session ∈ sessions ∧ (idle.active session < limit ∨ busy.active session < limit) := by
  obtain ⟨positive, unlimited⟩ := sensible limit limited
  cases fresh : freshestIdle sessions idle with
  | some chosen =>
      simp only [select, fresh, Option.some.injEq] at found
      obtain ⟨member, unused⟩ := freshestIdle_reads fresh
      rw [← found, unused]
      exact ⟨member, Or.inl positive⟩
  | none =>
      rw [Option.mem_def] at limited
      simp only [select, fresh, unlimited, limited] at found
      obtain ⟨member, _, below⟩ := leastBusyActive_reads found
      exact ⟨member, Or.inr (below limit rfl)⟩

/-- The counters of a session and, behind them, where its tasks are: streams
reserved and not yet in the map, `remove_stream` calls that have removed their
entry and not yet released it, `clear_streams` calls that have emptied the map
and not yet stored the zero. -/
structure ClientSession where
  nextStreamId : UInt32
  activeStreams : Nat
  streams : Finset UInt32
  lastUsed : Nat
  closed : Bool
  reserved : List UInt32
  removing : Nat
  clearing : Nat
deriving DecidableEq

namespace ClientSession

def new (now : Nat) : ClientSession where
  nextStreamId := 1
  activeStreams := 0
  streams := ∅
  lastUsed := now
  closed := false
  reserved := []
  removing := 0
  clearing := 0

def touch (session : ClientSession) (now : Nat) : ClientSession :=
  { session with lastUsed := now }

def close (session : ClientSession) : ClientSession :=
  { session with closed := true }

/-- The stream-id counter wraps around. -/
def takeStreamId (session : ClientSession) : ClientSession :=
  { session with nextStreamId := session.nextStreamId + 1 }

def countStream (session : ClientSession) (streamId : UInt32) : ClientSession :=
  { session with
    activeStreams := session.activeStreams + 1
    reserved := streamId :: session.reserved }

/-- The insertion made by `dial`: an entry of the same id is replaced. -/
def insertStream (session : ClientSession) (streamId : UInt32) : ClientSession :=
  { session with
    reserved := session.reserved.erase streamId
    streams := insert streamId session.streams }

def removeStream (session : ClientSession) (streamId : UInt32) : ClientSession :=
  { session with
    streams := session.streams.erase streamId
    removing := session.removing + 1 }

def releaseStream (session : ClientSession) : ClientSession :=
  { session with
    activeStreams := session.activeStreams - 1
    removing := session.removing - 1 }

def clearStreams (session : ClientSession) : ClientSession :=
  { session with
    streams := ∅
    clearing := session.clearing + 1 }

def storeZero (session : ClientSession) : ClientSession :=
  { session with
    activeStreams := 0
    clearing := session.clearing - 1 }

end ClientSession

/-- The accesses of the tasks that do not hold the pool's lock. -/
inductive SessionAction where
  | insert (streamId : UInt32)
  | remove (streamId : UInt32)
  | release
  | touch (now : Nat)
  | close
  | clear
  | storeZero

/-- An access that no task is about to make changes nothing.  The map is
cleared by tasks that have closed the session before. -/
def ClientSession.act (session : ClientSession) : SessionAction → ClientSession
  | .insert streamId =>
      if streamId ∈ session.reserved then session.insertStream streamId else session
  | .remove streamId =>
      if streamId ∈ session.streams then session.removeStream streamId else session
  | .release => if 0 < session.removing then session.releaseStream else session
  | .touch now => session.touch now
  | .close => session.close
  | .clear =>
      if session.closed = true ∧ session.streams ≠ ∅ then session.clearStreams else session
  | .storeZero =>
      if session.closed = true ∧ 0 < session.clearing then session.storeZero else session

inductive ClientSessionRemovalReason where
  | closed
  | idleExpired
deriving DecidableEq

/-- The next access of `remove_closed_and_expired` to the session it checks. -/
inductive CleanStage where
  | closedFlag
  | activeCount
  | age
  | close
deriving DecidableEq

/-- The next access of `reserve_stream`. -/
inductive ReserveStage where
  | closedFlag
  | takeId
  | count (streamId : UInt32)
  | touch
deriving DecidableEq

/-- Where the task is that holds the pool's lock. -/
inductive Holder where
  | free
  | cleaning (now : Nat) (kept rest : List SessionId) (stage : CleanStage)
  | readingIdle (idle : Reads) (rest : List SessionId)
  | readingBusy (idle busy : Reads) (rest : List SessionId)
  | connecting
  | reserving (session : SessionId) (fresh : Bool) (stage : ReserveStage)
  | pushing (session : SessionId)

structure Pool where
  sessions : List SessionId
  table : SessionId → ClientSession
  nextSessionId : SessionId
  removed : List (SessionId × ClientSessionRemovalReason)
  lock : Holder

/-- What the holder of the lock finds outside the pool. -/
structure Answers where
  now : Nat
  connected : Bool
  greater : SessionId → SessionId → Bool

namespace Pool

def new : Pool where
  sessions := []
  table := fun _ => .new 0
  nextSessionId := 1
  removed := []
  lock := .free

def update (pool : Pool) (session : SessionId) (updated : ClientSession) : Pool :=
  { pool with table := Function.update pool.table session updated }

def hold (pool : Pool) (lock : Holder) : Pool := { pool with lock := lock }

def read (pool : Pool) (reads : Reads) (session : SessionId) : Reads where
  active := Function.update reads.active session (pool.table session).activeStreams
  lastUsed := Function.update reads.lastUsed session (pool.table session).lastUsed

def remove (pool : Pool) (session : SessionId) (reason : ClientSessionRemovalReason) : Pool :=
  { pool with removed := pool.removed ++ [(session, reason)] }

/-- One access of `remove_closed_and_expired`. -/
def removeClosedAndExpired (tuning : ClientSessionTuning) (pool : Pool) (now : Nat)
    (kept : List SessionId) (session : SessionId) (rest : List SessionId) : CleanStage → Pool
  | .closedFlag =>
      if (pool.table session).closed then
        (pool.remove session .closed).hold (.cleaning now kept rest .closedFlag)
      else pool.hold (.cleaning now kept (session :: rest) .activeCount)
  | .activeCount =>
      if (pool.table session).activeStreams = 0 then
        pool.hold (.cleaning now kept (session :: rest) .age)
      else pool.hold (.cleaning now (kept ++ [session]) rest .closedFlag)
  | .age =>
      if tuning.connectionIdleTimeout < now - (pool.table session).lastUsed then
        pool.hold (.cleaning now kept (session :: rest) .close)
      else pool.hold (.cleaning now (kept ++ [session]) rest .closedFlag)
  | .close =>
      ((pool.update session (pool.table session).close).remove session .idleExpired).hold
        (.cleaning now kept rest .closedFlag)

/-- A reservation failed: on a closed session of the pool the opener cleans and
starts again, otherwise it reports the error. -/
def reserveFails (pool : Pool) (session : SessionId) (fresh : Bool) (now : Nat) : Pool :=
  if fresh = false ∧ (pool.table session).closed = true then
    pool.hold (.cleaning now [] pool.sessions .closedFlag)
  else pool.hold .free

/-- One access of `reserve_stream`. -/
def reserveStream (pool : Pool) (session : SessionId) (fresh : Bool) (now : Nat) :
    ReserveStage → Pool
  | .closedFlag =>
      if (pool.table session).closed then pool.reserveFails session fresh now
      else pool.hold (.reserving session fresh .takeId)
  | .takeId =>
      let streamId := (pool.table session).nextStreamId
      let pool := pool.update session (pool.table session).takeStreamId
      if streamId = 0 then pool.reserveFails session fresh now
      else pool.hold (.reserving session fresh (.count streamId))
  | .count streamId =>
      (pool.update session ((pool.table session).countStream streamId)).hold
        (.reserving session fresh .touch)
  | .touch =>
      (pool.update session ((pool.table session).touch now)).hold
        (if fresh then .pushing session else .free)

/-- `connect_session`: the new session is not in the pool yet. -/
def connectSession (pool : Pool) (answers : Answers) : Pool :=
  if answers.connected then
    { pool.update pool.nextSessionId (.new answers.now) with
      nextSessionId := pool.nextSessionId + 1
      lock := .reserving pool.nextSessionId true .closedFlag }
  else pool.hold .free

def advance (tuning : ClientSessionTuning) (pool : Pool) (answers : Answers) : Pool :=
  match pool.lock with
  | .free => pool
  | .cleaning _ kept [] _ => { pool with sessions := kept, lock := .free }
  | .cleaning now kept (session :: rest) stage =>
      pool.removeClosedAndExpired tuning now kept session rest stage
  | .readingIdle idle [] => pool.hold (.readingBusy idle .nothing pool.sessions)
  | .readingIdle idle (session :: rest) =>
      pool.hold (.readingIdle (pool.read idle session) rest)
  | .readingBusy idle busy [] =>
      match select tuning pool.sessions idle busy answers.greater with
      | some session => pool.hold (.reserving session false .closedFlag)
      | none => pool.hold .connecting
  | .readingBusy idle busy (session :: rest) =>
      pool.hold (.readingBusy idle (pool.read busy session) rest)
  | .connecting => pool.connectSession answers
  | .reserving session fresh stage => pool.reserveStream session fresh answers.now stage
  | .pushing session => { pool with sessions := pool.sessions ++ [session], lock := .free }

end Pool

inductive PoolEvent where
  | lockToClean (now : Nat)
  | lockToOpen
  | advance (answers : Answers)
  | act (session : SessionId) (action : SessionAction)

/-- The lock is taken only when it is free. -/
def Pool.step (tuning : ClientSessionTuning) (pool : Pool) : PoolEvent → Pool
  | .lockToClean now =>
      match pool.lock with
      | .free => pool.hold (.cleaning now [] pool.sessions .closedFlag)
      | _ => pool
  | .lockToOpen =>
      match pool.lock with
      | .free => pool.hold (.readingIdle .nothing pool.sessions)
      | _ => pool
  | .advance answers => pool.advance tuning answers
  | .act session action => pool.update session ((pool.table session).act action)

def poolMachine (tuning : ClientSessionTuning) : Machine Pool PoolEvent Unit :=
  ⟨fun pool event => (pool.step tuning event, ())⟩

@[simp] theorem poolMachine_next (tuning : ClientSessionTuning) (pool : Pool)
    (event : PoolEvent) : (poolMachine tuning).next pool event = pool.step tuning event := rfl

/-- The lock's holder moves; the server accepts connections. -/
def proceed : PoolEvent := .advance ⟨0, true, fun _ _ => false⟩

/-- An empty pool opens its first connection and a stream on it. -/
def firstOpen : List PoolEvent :=
  [.lockToClean 0, proceed, .lockToOpen] ++ List.replicate 8 proceed ++ [.act 1 (.insert 1)]

/-- Every way in which one step leaves a session. -/
inductive Change (pool : Pool) (event : PoolEvent) (session : SessionId) : ClientSession → Prop
  | same : Change pool event session (pool.table session)
  | insert (streamId : UInt32) (own : event = .act session (.insert streamId))
      (pending : streamId ∈ (pool.table session).reserved) :
      Change pool event session ((pool.table session).insertStream streamId)
  | remove (streamId : UInt32) (present : streamId ∈ (pool.table session).streams) :
      Change pool event session ((pool.table session).removeStream streamId)
  | release (pending : 0 < (pool.table session).removing) :
      Change pool event session (pool.table session).releaseStream
  | touch (now : Nat) : Change pool event session ((pool.table session).touch now)
  | close : Change pool event session (pool.table session).close
  | clear (closed : (pool.table session).closed = true) :
      Change pool event session (pool.table session).clearStreams
  | storeZero (closed : (pool.table session).closed = true) :
      Change pool event session (pool.table session).storeZero
  | takeId : Change pool event session (pool.table session).takeStreamId
  | count (fresh : Bool) (streamId : UInt32) (answers : Answers)
      (own : event = .advance answers)
      (counting : pool.lock = .reserving session fresh (.count streamId)) :
      Change pool event session ((pool.table session).countStream streamId)
  | create (now : Nat) : Change pool event session (.new now)

namespace Change

variable {pool : Pool} {event : PoolEvent}

theorem act (pool : Pool) (session : SessionId) (action : SessionAction) :
    Change pool (.act session action) session ((pool.table session).act action) := by
  cases action with
  | insert streamId =>
      simp only [ClientSession.act]
      split
      case isTrue pending => exact .insert streamId rfl pending
      case isFalse => exact .same
  | remove streamId =>
      simp only [ClientSession.act]
      split
      case isTrue present => exact .remove streamId present
      case isFalse => exact .same
  | release =>
      simp only [ClientSession.act]
      split
      case isTrue pending => exact .release pending
      case isFalse => exact .same
  | touch now => exact .touch now
  | close => exact .close
  | clear =>
      simp only [ClientSession.act]
      split
      case isTrue ready => exact .clear ready.1
      case isFalse => exact .same
  | storeZero =>
      simp only [ClientSession.act]
      split
      case isTrue ready => exact .storeZero ready.1
      case isFalse => exact .same

theorem update {changed : SessionId} {updated : ClientSession}
    (change : Change pool event changed updated) (session : SessionId) :
    Change pool event session ((pool.update changed updated).table session) := by
  by_cases same : session = changed
  · subst same
    simpa [Pool.update] using change
  · simpa [Pool.update, same] using Change.same

theorem removeClosedAndExpired (tuning : ClientSessionTuning) (now : Nat)
    (kept : List SessionId) (checked : SessionId) (rest : List SessionId) (stage : CleanStage)
    (session : SessionId) :
    Change pool event session
      ((pool.removeClosedAndExpired tuning now kept checked rest stage).table session) := by
  cases stage with
  | close => exact Change.close.update session
  | closedFlag => simp only [Pool.removeClosedAndExpired]; split <;> exact .same
  | activeCount => simp only [Pool.removeClosedAndExpired]; split <;> exact .same
  | age => simp only [Pool.removeClosedAndExpired]; split <;> exact .same

@[simp] theorem reserveFails_table (pool : Pool) (session : SessionId) (fresh : Bool)
    (now : Nat) : (pool.reserveFails session fresh now).table = pool.table := by
  unfold Pool.reserveFails
  split <;> rfl

theorem reserveStream {reserving : SessionId} {fresh : Bool} {stage : ReserveStage}
    (holds : pool.lock = .reserving reserving fresh stage) (answers : Answers)
    (session : SessionId) :
    Change pool (.advance answers) session
      ((pool.reserveStream reserving fresh answers.now stage).table session) := by
  cases stage with
  | closedFlag =>
      simp only [Pool.reserveStream]
      split
      · rw [reserveFails_table]
        exact .same
      · exact .same
  | takeId =>
      simp only [Pool.reserveStream]
      split
      · rw [reserveFails_table]
        exact Change.takeId.update session
      · exact Change.takeId.update session
  | count streamId => exact (Change.count fresh streamId answers rfl holds).update session
  | touch => exact (Change.touch answers.now).update session

theorem advance (tuning : ClientSessionTuning) (answers : Answers) (session : SessionId) :
    Change pool (.advance answers) session ((pool.advance tuning answers).table session) := by
  unfold Pool.advance
  split
  case h_3 now kept checked rest stage holds =>
      exact removeClosedAndExpired tuning now kept checked rest stage session
  case h_6 => split <;> exact .same
  case h_8 =>
      unfold Pool.connectSession
      split
      · exact (Change.create answers.now).update session
      · exact .same
  case h_9 reserving fresh stage holds => exact reserveStream holds answers session
  all_goals exact .same

theorem step (tuning : ClientSessionTuning) (pool : Pool) (event : PoolEvent)
    (session : SessionId) :
    Change pool event session ((pool.step tuning event).table session) := by
  cases event with
  | lockToClean now => simp only [Pool.step]; split <;> exact .same
  | lockToOpen => simp only [Pool.step]; split <;> exact .same
  | advance answers => exact advance tuning answers session
  | act changed action => exact (Change.act pool changed action).update session

end Change

end Rtunnel.Anytls.Outbound
