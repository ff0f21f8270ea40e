import Mathlib.Data.List.Basic

namespace Rtunnel.Data

/-! Bounded message queues between two tasks.

The sending side never waits: a message is refused when the queue is full and
when the receiving task has gone.  A queue beyond its capacity cannot be built.
-/

structure Channel (α : Type) where
  capacity : Nat
  queue : List α
  receiverAlive : Bool
  within : queue.length ≤ capacity
deriving DecidableEq

inductive TrySendError where
  | full
  | closed
deriving DecidableEq

def TrySendError.text : TrySendError → String
  | .full => "no available capacity"
  | .closed => "channel closed"

namespace Channel

variable {α : Type}

/-- A fresh queue; both ends are held. -/
def bounded (capacity : Nat) : Channel α where
  capacity := capacity
  queue := []
  receiverAlive := true
  within := Nat.zero_le capacity

/-- A closed queue reports that it is closed, whether or not it is full. -/
def trySend (channel : Channel α) (message : α) : Except TrySendError (Channel α) :=
  if channel.receiverAlive then
    if room : channel.queue.length < channel.capacity then
      .ok { channel with
        queue := channel.queue ++ [message]
        within := by rw [List.length_append]; exact room }
    else
      .error .full
  else
    .error .closed

/-- The receiving task takes the oldest message, if it is alive and there is one. -/
def recv (channel : Channel α) : Channel α :=
  if channel.receiverAlive then
    { channel with
      queue := channel.queue.tail
      within := by
        have bound := channel.within
        rw [List.length_tail]
        omega }
  else
    channel

/-- The receiving task ends and drops its half. -/
def dropReceiver (channel : Channel α) : Channel α :=
  { channel with receiverAlive := false }

/-- A queue takes one more message. -/
def Accepts (channel : Channel α) : Prop :=
  channel.receiverAlive = true ∧ channel.queue.length < channel.capacity

instance (channel : Channel α) : Decidable channel.Accepts :=
  inferInstanceAs (Decidable (_ ∧ _))

theorem recv_capacity (channel : Channel α) : channel.recv.capacity = channel.capacity := by
  unfold recv
  split <;> rfl

theorem trySend_capacity {channel after : Channel α} {message : α}
    (sent : channel.trySend message = .ok after) : after.capacity = channel.capacity := by
  unfold trySend at sent
  split at sent
  · split at sent
    · cases sent
      rfl
    · cases sent
  · cases sent

theorem trySend_eq_ok {channel after : Channel α} {message : α}
    (sent : channel.trySend message = .ok after) :
    after.queue = channel.queue ++ [message] ∧ after.receiverAlive = channel.receiverAlive := by
  unfold trySend at sent
  split at sent
  · split at sent
    · cases sent
      exact ⟨rfl, rfl⟩
    · cases sent
  · cases sent

theorem recv_of_alive {channel : Channel α} (alive : channel.receiverAlive = true) :
    channel.recv.queue = channel.queue.tail ∧ channel.recv.receiverAlive = true := by
  unfold recv
  rw [if_pos alive]
  exact ⟨rfl, alive⟩

theorem trySend_of_accepts {channel : Channel α} (accepts : channel.Accepts) (message : α) :
    ∃ after, channel.trySend message = .ok after ∧ after.queue = channel.queue ++ [message] := by
  simp only [trySend, accepts.1, accepts.2, ↓reduceIte, ↓reduceDIte]
  exact ⟨_, rfl, rfl⟩

theorem trySend_of_not_accepts {channel : Channel α} (refuses : ¬ channel.Accepts) (message : α) :
    channel.trySend message = .error (if channel.receiverAlive then .full else .closed) := by
  unfold trySend
  by_cases alive : channel.receiverAlive = true
  · have full : ¬ channel.queue.length < channel.capacity := fun room => refuses ⟨alive, room⟩
    simp only [alive, full, ↓reduceIte, ↓reduceDIte]
  · simp only [alive, Bool.false_eq_true, ↓reduceIte]

end Channel

end Rtunnel.Data
