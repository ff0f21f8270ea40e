import Mathlib.Logic.Basic

namespace Rtunnel.Data

/-! Runs whose order does not matter.

When any two different moves from a state can be joined by one move each, all
runs that cannot be continued have the same end and the same length.  One such
run therefore says where every schedule leads and how long it takes.
-/

universe u

variable {State : Type u}

/-- A run of a given number of moves. -/
inductive Steps (moves : State → State → Prop) : Nat → State → State → Prop where
  | zero (state : State) : Steps moves 0 state state
  | succ {count : Nat} {first second last : State} (move : moves first second)
      (rest : Steps moves count second last) : Steps moves (count + 1) first last

def Diamond (moves : State → State → Prop) : Prop :=
  ∀ state left right, moves state left → moves state right →
    left = right ∨ ∃ joined, moves left joined ∧ moves right joined

/-- Every run can be continued to the end, and no run goes past it or takes more
moves than `count`. -/
structure Settles (moves : State → State → Prop) (start last : State) (count : Nat) : Prop where
  stuck : ∀ next, ¬ moves last next
  completes : ∀ made reached, Steps moves made start reached →
    made ≤ count ∧ Steps moves (count - made) reached last

variable {moves : State → State → Prop}

theorem Steps.trans {first second third : State} {early late : Nat}
    (start : Steps moves early first second) (rest : Steps moves late second third) :
    Steps moves (early + late) first third := by
  induction start with
  | zero state => rwa [Nat.zero_add]
  | succ move steps ih =>
      rw [Nat.add_right_comm]
      exact .succ move (ih rest)

theorem Steps.map {Other : Type u} {otherMoves : Other → Other → Prop} (view : State → Other)
    (keeps : ∀ first second, moves first second → otherMoves (view first) (view second))
    {count : Nat} {first last : State} (steps : Steps moves count first last) :
    Steps otherMoves count (view first) (view last) := by
  induction steps with
  | zero state => exact .zero _
  | succ move rest ih => exact .succ (keeps _ _ move) ih

/-- A move towards elsewhere is one of the moves towards the end. -/
theorem Steps.shorten (diamond : Diamond moves) {count : Nat} {start next last : State}
    (steps : Steps moves count start last) (stuck : ∀ next, ¬ moves last next)
    (move : moves start next) : ∃ fewer, count = fewer + 1 ∧ Steps moves fewer next last := by
  induction steps generalizing next with
  | zero state => exact absurd move (stuck next)
  | succ first rest ih =>
      rcases diamond _ _ _ first move with rfl | ⟨joined, fromFirst, fromOther⟩
      · exact ⟨_, rfl, rest⟩
      · obtain ⟨fewer, rfl, remaining⟩ := ih stuck fromFirst
        exact ⟨fewer + 1, rfl, .succ fromOther remaining⟩

theorem Steps.settles (diamond : Diamond moves) {count : Nat} {start last : State}
    (steps : Steps moves count start last) (stuck : ∀ next, ¬ moves last next) :
    Settles moves start last count := by
  refine ⟨stuck, fun made reached run => ?_⟩
  induction run generalizing count with
  | zero state => exact ⟨Nat.zero_le _, steps⟩
  | succ move rest ih =>
      obtain ⟨fewer, rfl, remaining⟩ := steps.shorten diamond stuck move
      obtain ⟨within, completed⟩ := ih remaining
      exact ⟨Nat.succ_le_succ within, by rwa [Nat.add_sub_add_right]⟩

/-- All schedules lead to the same end. -/
theorem Settles.unique {start first second : State} {short long : Nat}
    (settles : Settles moves start first short) (other : Settles moves start second long) :
    first = second := by
  obtain ⟨-, whole⟩ := settles.completes 0 start (.zero start)
  obtain ⟨-, rest⟩ := other.completes _ first whole
  generalize long - (short - 0) = more at rest
  cases rest with
  | zero => rfl
  | succ move later => exact absurd move (settles.stuck _)

end Rtunnel.Data
