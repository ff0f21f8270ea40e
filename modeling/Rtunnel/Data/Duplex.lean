import Rtunnel.Data.Confluence
import Rtunnel.Data.Demand

namespace Rtunnel.Data

/-! Two processes and the pipes between them.

Each process reads from one pipe and writes to the other.  A read waits for its
bytes; it fails when they cannot come any more because the other process has
failed and dropped its end.  The processes share nothing but the pipes, so the
order in which they take turns does not matter.
-/

inductive Process (Reason Value : Type) where
  | done (value : Value)
  | fail (reason : Reason)
  | read (width : Nat) (ended : Reason) (next : Octets width → Process Reason Value)
  | write (bytes : List UInt8) (next : Process Reason Value)

namespace Process

variable {Reason Value Next : Type}

def bind : Process Reason Value → (Value → Process Reason Next) → Process Reason Next
  | .done value, rest => rest value
  | .fail reason, _ => .fail reason
  | .read width ended next, rest => .read width ended fun field => (next field).bind rest
  | .write bytes next, rest => .write bytes (next.bind rest)

instance : Monad (Process Reason) where
  pure := .done
  bind := bind

def send (bytes : List UInt8) : Process Reason Unit := .write bytes (.done ())

/-- Read with a reader that writes nothing. -/
def receive : Demand Reason Value → Process Reason Value
  | .done value => .done value
  | .fail reason => .fail reason
  | .need width ended next => .read width ended fun field => receive (next field)

def ensure (condition : Prop) [Decidable condition] (reason : Reason) : Process Reason Unit :=
  if condition then .done () else .fail reason

/-- A call that neither reads nor writes. -/
def ofExcept : Except Reason Value → Process Reason Value
  | .ok value => .done value
  | .error reason => .fail reason

def failed : Process Reason Value → Bool
  | .fail _ => true
  | _ => false

theorem bind_assoc {Last : Type} (first : Process Reason Value)
    (second : Value → Process Reason Next) (third : Next → Process Reason Last) :
    first >>= second >>= third = first >>= fun value => second value >>= third := by
  induction first with
  | done value => rfl
  | fail reason => rfl
  | read width ended next ih =>
      exact congrArg (Process.read width ended) (funext fun field => ih field)
  | write bytes next ih => exact congrArg (Process.write bytes) ih

@[simp] theorem done_bind (value : Value) (rest : Value → Process Reason Next) :
    Process.done value >>= rest = rest value := rfl

theorem ensure_of_true {condition : Prop} [Decidable condition] (holds : condition)
    (reason : Reason) : ensure condition reason = .done () := if_pos holds

end Process

/-- What a process leaves when it acts: itself, what is left to read, and what it
has written. -/
structure Acted (Reason Value : Type) where
  process : Process Reason Value
  incoming : List UInt8
  written : List UInt8

/-- One action, if there is one; `closed` says that nothing more will come. -/
def Process.act {Reason Value : Type} (closed : Bool) :
    Process Reason Value → List UInt8 → Option (Acted Reason Value)
  | .done _, _ => none
  | .fail _, _ => none
  | .write bytes next, incoming => some ⟨next, incoming, bytes⟩
  | .read width ended next, incoming =>
      match readExact width incoming with
      | some (field, rest) => some ⟨next field, rest, []⟩
      | none => if closed then some ⟨.fail ended, incoming, []⟩ else none

/-- An action that does not starve is the same when more bytes are there. -/
theorem Process.act_append {Reason Value : Type} {process : Process Reason Value}
    {incoming : List UInt8} {acted : Acted Reason Value}
    (acts : process.act false incoming = some acted) (closed : Bool) (more : List UInt8) :
    process.act closed (incoming ++ more) =
      some { acted with incoming := acted.incoming ++ more } := by
  cases process with
  | done value => cases acts
  | fail reason => cases acts
  | write bytes next =>
      cases acts
      rfl
  | read width ended next =>
      cases found : readExact width incoming with
      | none =>
          simp only [act, found, Bool.false_eq_true, if_false] at acts
          cases acts
      | some split =>
          simp only [act, found, Option.some.injEq] at acts
          simp only [act, readExact_append_of_some found more, ← acts]

structure Link (Reason First Second : Type) where
  client : Process Reason First
  server : Process Reason Second
  toServer : List UInt8
  toClient : List UInt8

namespace Link

variable {Reason First Second : Type}

inductive Moves :
    Link Reason First Second → Link Reason First Second → Prop where
  | client (link : Link Reason First Second) (acted : Acted Reason First)
      (acts : link.client.act link.server.failed link.toClient = some acted) :
      Moves link
        ⟨acted.process, link.server, link.toServer ++ acted.written, acted.incoming⟩
  | server (link : Link Reason First Second) (acted : Acted Reason Second)
      (acts : link.server.act link.client.failed link.toServer = some acted) :
      Moves link
        ⟨link.client, acted.process, acted.incoming, link.toClient ++ acted.written⟩

/-- A process that acts has not failed. -/
theorem failed_of_acts {Value : Type} {closed : Bool}
    {process : Process Reason Value} {incoming : List UInt8} {acted : Acted Reason Value}
    (acts : process.act closed incoming = some acted) : process.failed = false := by
  cases process with
  | fail reason => cases acts
  | _ => rfl

theorem joins {link : Link Reason First Second} {first : Acted Reason First}
    {second : Acted Reason Second}
    (clientActs : link.client.act link.server.failed link.toClient = some first)
    (serverActs : link.server.act link.client.failed link.toServer = some second) :
    ∃ joined, Moves
        ⟨first.process, link.server, link.toServer ++ first.written, first.incoming⟩ joined ∧
      Moves
        ⟨link.client, second.process, second.incoming, link.toClient ++ second.written⟩ joined := by
  rw [failed_of_acts serverActs] at clientActs
  rw [failed_of_acts clientActs] at serverActs
  have serverAgain := Process.act_append serverActs first.process.failed first.written
  have clientAgain := Process.act_append clientActs second.process.failed second.written
  exact ⟨⟨first.process, second.process, second.incoming ++ first.written,
      first.incoming ++ second.written⟩,
    .server ⟨first.process, link.server, link.toServer ++ first.written, first.incoming⟩
      { second with incoming := second.incoming ++ first.written } serverAgain,
    .client ⟨link.client, second.process, second.incoming, link.toClient ++ second.written⟩
      { first with incoming := first.incoming ++ second.written } clientAgain⟩

theorem diamond :
    Diamond (Moves : Link Reason First Second → Link Reason First Second → Prop) := by
  intro link left right toLeft toRight
  cases toLeft with
  | client first leftActs =>
      cases toRight with
      | client second rightActs =>
          cases leftActs.symm.trans rightActs
          exact .inl rfl
      | server second rightActs => exact .inr (joins leftActs rightActs)
  | server first leftActs =>
      cases toRight with
      | client second rightActs =>
          obtain ⟨joined, fromClient, fromServer⟩ := joins rightActs leftActs
          exact .inr ⟨joined, fromServer, fromClient⟩
      | server second rightActs =>
          cases leftActs.symm.trans rightActs
          exact .inl rfl

/-- The same link, seen from the other side. -/
def swap (link : Link Reason First Second) : Link Reason Second First :=
  ⟨link.server, link.client, link.toClient, link.toServer⟩

theorem Moves.swap {first second : Link Reason First Second}
    (move : Moves first second) : Moves first.swap second.swap := by
  cases move with
  | client acted acts => exact .server first.swap acted acts
  | server acted acts => exact .client first.swap acted acts

/-- Some schedule leads from one link to another. -/
def Reaches (start last : Link Reason First Second) : Prop :=
  ∃ count, Steps (Moves) count start last

namespace Reaches

variable {client : Process Reason First} {server : Process Reason Second}
variable {toServer toClient : List UInt8}

theorem refl (link : Link Reason First Second) : Reaches link link := ⟨0, .zero link⟩

theorem trans {first second third : Link Reason First Second} (early : Reaches first second)
    (late : Reaches second third) : Reaches first third := by
  obtain ⟨before, early⟩ := early
  obtain ⟨after, late⟩ := late
  exact ⟨before + after, early.trans late⟩

theorem of_move {first second : Link Reason First Second} (move : Moves first second) :
    Reaches first second := ⟨1, .succ move (.zero second)⟩

theorem clientSends (bytes : List UInt8) (rest : Unit → Process Reason First) :
    Reaches ⟨Process.send bytes >>= rest, server, toServer, toClient⟩
      ⟨rest (), server, toServer ++ bytes, toClient⟩ :=
  of_move (.client ⟨Process.send bytes >>= rest, server, toServer, toClient⟩
    ⟨rest (), toClient, bytes⟩ rfl)

/-- What a reader makes of the bytes in the pipe, the process makes of them. -/
theorem clientReceives {Value : Type} {reader : Demand Reason Value} {used later : List UInt8}
    {value : Value} (reads : reader.Reads used value) (rest : Value → Process Reason First) :
    Reaches ⟨Process.receive reader >>= rest, server, toServer, used ++ later⟩
      ⟨rest value, server, toServer, later⟩ := by
  have read := reads later
  generalize used ++ later = incoming at read
  clear reads
  induction reader generalizing incoming with
  | done other =>
      cases read
      exact refl _
  | fail reason => cases read
  | need width ended next ih =>
      obtain ⟨field, left, found, read⟩ := Demand.advance_need_eq_done read
      refine trans (of_move (.client _ ⟨Process.receive (next field) >>= rest, left, []⟩ ?_)) ?_
      · change (Process.read width ended fun field => (Process.receive (next field)).bind rest).act
          server.failed incoming = _
        simp only [Process.act, found]
        rfl
      · dsimp only
        rw [List.append_nil]
        exact ih field left read

theorem swap {first second : Link Reason First Second} (reaches : Reaches first second) :
    Reaches first.swap second.swap := by
  obtain ⟨count, steps⟩ := reaches
  exact ⟨count, steps.map Link.swap fun _ _ move => move.swap⟩

theorem serverSends (bytes : List UInt8) (rest : Unit → Process Reason Second) :
    Reaches ⟨client, Process.send bytes >>= rest, toServer, toClient⟩
      ⟨client, rest (), toServer, toClient ++ bytes⟩ :=
  (clientSends bytes rest).swap

theorem serverReceives {Value : Type} {reader : Demand Reason Value} {used later : List UInt8}
    {value : Value} (reads : reader.Reads used value) (rest : Value → Process Reason Second) :
    Reaches ⟨client, Process.receive reader >>= rest, used ++ later, toClient⟩
      ⟨client, rest value, later, toClient⟩ :=
  (clientReceives reads rest).swap

end Reaches

/-- Neither process has anything left to do. -/
def Ended (link : Link Reason First Second) : Prop :=
  (∀ closed incoming, link.client.act closed incoming = none) ∧
    ∀ closed incoming, link.server.act closed incoming = none

theorem Reaches.settles {start last : Link Reason First Second}
    (reaches : Reaches start last) (ended : last.Ended) :
    ∃ count, Settles (Moves) start last count := by
  obtain ⟨count, steps⟩ := reaches
  refine ⟨count, steps.settles (diamond) fun next move => ?_⟩
  cases move with
  | client acted acts => exact Option.some_ne_none _ (acts.symm.trans (ended.1 _ _))
  | server acted acts => exact Option.some_ne_none _ (acts.symm.trans (ended.2 _ _))

end Link

end Rtunnel.Data
