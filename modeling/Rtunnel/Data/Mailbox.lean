import Mathlib.Data.List.Basic

namespace Rtunnel.Data

/-! Bounded message queues whose senders wait.

A sender hands over its message and waits until the queue has room; senders are
let in in the order they came.  When the receiving task has gone, whoever waits
gets its message back.  The messages that went in are kept in three parts: those
that were received, those in the queue, those that wait.
-/

structure Mailbox (α : Type) where
  capacity : Nat
  taken : List α
  queue : List α
  waiting : List α
  receiverAlive : Bool
  within : queue.length ≤ capacity
  returned : receiverAlive = false → waiting = []

namespace Mailbox

variable {α : Type}

def bounded (capacity : Nat) : Mailbox α where
  capacity := capacity
  taken := []
  queue := []
  waiting := []
  receiverAlive := true
  within := Nat.zero_le capacity
  returned := fun _ => rfl

/-- A sender starts to wait; without a receiver it fails at once. -/
def send (mailbox : Mailbox α) (message : α) : Mailbox α :=
  if alive : mailbox.receiverAlive = true then
    { mailbox with
      waiting := mailbox.waiting ++ [message]
      returned := fun gone => absurd (alive.symm.trans gone) Bool.true_eq_false.mp }
  else mailbox

def HasRoom (mailbox : Mailbox α) : Prop := mailbox.queue.length < mailbox.capacity

instance (mailbox : Mailbox α) : Decidable mailbox.HasRoom := inferInstanceAs (Decidable (_ < _))

/-- The first sender in line is let in. -/
def letIn (mailbox : Mailbox α) : Mailbox α :=
  match mailbox.waiting with
  | [] => mailbox
  | message :: rest =>
      if room : mailbox.HasRoom ∧ mailbox.receiverAlive = true then
        { mailbox with
          queue := mailbox.queue ++ [message]
          waiting := rest
          within := by rw [List.length_append]; exact room.1
          returned := fun gone => absurd (room.2.symm.trans gone) Bool.true_eq_false.mp }
      else mailbox

/-- The receiver takes the oldest message of the queue. -/
def recv (mailbox : Mailbox α) : Mailbox α :=
  { mailbox with
    taken := mailbox.taken ++ mailbox.queue.take 1
    queue := mailbox.queue.drop 1
    within := by
      have bound := mailbox.within
      rw [List.length_drop]
      omega }

/-- The receiving task ends; what is left in the queue is lost. -/
def dropReceiver (mailbox : Mailbox α) : Mailbox α :=
  { mailbox with
    waiting := []
    receiverAlive := false
    returned := fun _ => rfl }

/-- Everything that was let in. -/
def accepted (mailbox : Mailbox α) : List α := mailbox.taken ++ mailbox.queue

/-- Everything that was handed over and not given back. -/
def offered (mailbox : Mailbox α) : List α := mailbox.accepted ++ mailbox.waiting

@[simp] theorem offered_bounded (capacity : Nat) :
    (bounded capacity : Mailbox α).offered = [] := rfl

theorem offered_send {mailbox : Mailbox α} (alive : mailbox.receiverAlive = true) (message : α) :
    (mailbox.send message).offered = mailbox.offered ++ [message] := by
  simp only [send, alive, dite_true, offered, accepted, List.append_assoc]

@[simp] theorem offered_letIn (mailbox : Mailbox α) : mailbox.letIn.offered = mailbox.offered := by
  unfold letIn
  split
  · rfl
  · split
    · simp [offered, accepted, *]
    · rfl

/-- Whoever is first in line is let in when there is room. -/
theorem letIn_of_head {mailbox : Mailbox α} {message : α}
    (first : mailbox.waiting.head? = some message) (room : mailbox.HasRoom)
    (alive : mailbox.receiverAlive = true) :
    ∃ rest, mailbox.waiting = message :: rest ∧ mailbox.letIn.waiting = rest ∧
      mailbox.letIn.accepted = mailbox.accepted ++ [message] := by
  cases line : mailbox.waiting with
  | nil =>
      rw [line] at first
      cases first
  | cons head rest =>
      rw [line] at first
      cases first
      exact ⟨rest, rfl, by simp [letIn, line, room, alive],
        by simp [letIn, line, room, alive, accepted]⟩

@[simp] theorem accepted_recv (mailbox : Mailbox α) : mailbox.recv.accepted = mailbox.accepted := by
  simp only [accepted, recv, List.append_assoc, List.take_append_drop]

@[simp] theorem offered_recv (mailbox : Mailbox α) : mailbox.recv.offered = mailbox.offered := by
  rw [offered, accepted_recv]
  rfl

theorem offered_dropReceiver (mailbox : Mailbox α) :
    mailbox.dropReceiver.offered <+: mailbox.offered := by
  simp only [offered, dropReceiver, accepted, List.append_nil]
  exact List.prefix_append _ _

end Mailbox

end Rtunnel.Data
