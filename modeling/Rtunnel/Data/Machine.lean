import Mathlib.Data.List.Basic

namespace Rtunnel.Data

/-! Event-driven machines.

A component that reacts to calls, messages or scheduler choices is a function
from a state and one event to the next state and what the reaction emits.  A
run is a list of events; an event that is not enabled leaves the state alone.
The rules below are the only inductions over runs that clients need.
-/

universe u v w

structure Machine (State : Type u) (Event : Type v) (Output : Type w) where
  step : State → Event → State × Output

namespace Machine

variable {State : Type u} {Event : Type v} {Output : Type w}
variable (machine : Machine State Event Output)

def next (state : State) (event : Event) : State := (machine.step state event).1

def output (state : State) (event : Event) : Output := (machine.step state event).2

/-- The state after a whole run. -/
def run : State → List Event → State
  | state, [] => state
  | state, event :: events => run (machine.next state event) events

/-- What each event of a run emitted, in order. -/
def outputs : State → List Event → List Output
  | _, [] => []
  | state, event :: events =>
      machine.output state event :: outputs (machine.next state event) events

/-- Every event of the run satisfies `guard` in the state that handles it. -/
def Meets (guard : State → Event → Prop) : State → List Event → Prop
  | _, [] => True
  | state, event :: events => guard state event ∧ Meets guard (machine.next state event) events

instance decidableMeets (guard : State → Event → Prop)
    [∀ state event, Decidable (guard state event)] :
    (state : State) → (events : List Event) → Decidable (machine.Meets guard state events)
  | _, [] => .isTrue trivial
  | state, event :: events =>
      have := decidableMeets guard (machine.next state event) events
      inferInstanceAs (Decidable (_ ∧ _))

@[simp] theorem run_nil (state : State) : machine.run state [] = state := rfl

@[simp] theorem run_cons (state : State) (event : Event) (events : List Event) :
    machine.run state (event :: events) = machine.run (machine.next state event) events := rfl

@[simp] theorem outputs_nil (state : State) : machine.outputs state [] = [] := rfl

@[simp] theorem outputs_cons (state : State) (event : Event) (events : List Event) :
    machine.outputs state (event :: events) =
      machine.output state event :: machine.outputs (machine.next state event) events := rfl

theorem run_append (state : State) (first second : List Event) :
    machine.run state (first ++ second) = machine.run (machine.run state first) second := by
  induction first generalizing state with
  | nil => rfl
  | cons event events ih => exact ih (machine.next state event)

/-- What a run emits holds what each of its events emits. -/
theorem output_mem_outputs {past events : List Event} {event : Event} (state : State)
    (earlier : past ++ [event] <+: events) :
    machine.output (machine.run state past) event ∈ machine.outputs state events := by
  obtain ⟨rest, rfl⟩ := earlier
  induction past generalizing state with
  | nil => exact List.mem_cons_self
  | cons first past ih => exact List.mem_cons_of_mem _ (ih (machine.next state first))

theorem meets_append {guard : State → Event → Prop} (state : State) (first second : List Event) :
    machine.Meets guard state (first ++ second) ↔
      machine.Meets guard state first ∧ machine.Meets guard (machine.run state first) second := by
  induction first generalizing state with
  | nil => exact ⟨fun meets => ⟨trivial, meets⟩, fun both => both.2⟩
  | cons event first ih =>
      exact (and_congr_right fun _ => ih _).trans and_assoc.symm

/-- An invariant that every guarded step keeps holds after every guarded run. -/
theorem run_invariant_of_meets {guard : State → Event → Prop} {invariant : State → Prop}
    (step : ∀ state event, guard state event → invariant state →
      invariant (machine.next state event))
    {state : State} {events : List Event} (holds : invariant state)
    (meets : machine.Meets guard state events) : invariant (machine.run state events) := by
  induction events generalizing state with
  | nil => exact holds
  | cons event events ih => exact ih (step state event meets.1 holds) meets.2

/-- An invariant that every step keeps holds after every run. -/
theorem run_invariant {invariant : State → Prop}
    (step : ∀ state event, invariant state → invariant (machine.next state event))
    {state : State} (holds : invariant state) (events : List Event) :
    invariant (machine.run state events) := by
  induction events generalizing state with
  | nil => exact holds
  | cons event events ih => exact ih (step state event holds)

/-- The same for events that are admitted whatever the state. -/
theorem run_invariant_of_forall {admitted : Event → Prop} {invariant : State → Prop}
    (step : ∀ state event, admitted event → invariant state →
      invariant (machine.next state event))
    {state : State} (holds : invariant state) {events : List Event}
    (all : ∀ event ∈ events, admitted event) : invariant (machine.run state events) := by
  induction events generalizing state with
  | nil => exact holds
  | cons event events ih =>
      obtain ⟨first, rest⟩ := List.forall_mem_cons.mp all
      exact ih (step state event first holds) rest

/-- A machine that only records what another one does follows it on every guarded run. -/
theorem run_follows {Seen : Type*} {Output' : Type*} (observed : Machine Seen Event Output')
    (view : State → Seen) {guard : State → Event → Prop} {invariant : State → Prop}
    (step : ∀ state event, guard state event → invariant state →
      invariant (machine.next state event) ∧
        view (machine.next state event) = observed.next (view state) event)
    {state : State} {events : List Event} (holds : invariant state)
    (meets : machine.Meets guard state events) :
    invariant (machine.run state events) ∧
      view (machine.run state events) = observed.run (view state) events := by
  induction events generalizing state with
  | nil => exact ⟨holds, rfl⟩
  | cons event events ih =>
      obtain ⟨stepped, follows⟩ := step state event meets.1 holds
      obtain ⟨ran, reached⟩ := ih stepped meets.2
      refine ⟨ran, reached.trans ?_⟩
      rw [follows]
      rfl

/-- A machine that refines another one: seen through `view` it takes the other's
steps, and it emits what the other emits. -/
theorem run_refines {Seen : Type*} {Output' : Type*} (abstract : Machine Seen Event Output')
    (view : State → Seen) (convert : Output' → Output) {invariant : State → Prop}
    (step : ∀ state event, invariant state → invariant (machine.next state event) ∧
      view (machine.next state event) = abstract.next (view state) event ∧
      machine.output state event = convert (abstract.output (view state) event))
    {state : State} (holds : invariant state) (events : List Event) :
    invariant (machine.run state events) ∧
      view (machine.run state events) = abstract.run (view state) events ∧
      machine.outputs state events = (abstract.outputs (view state) events).map convert := by
  induction events generalizing state with
  | nil => exact ⟨holds, rfl, rfl⟩
  | cons event events ih =>
      obtain ⟨stepped, follows, emits⟩ := step state event holds
      obtain ⟨ran, reached, emitted⟩ := ih stepped
      rw [follows] at reached emitted
      exact ⟨ran, reached, congrArg₂ List.cons emits emitted⟩

/-- Two guards that agree wherever an invariant holds guard the same runs. -/
theorem meets_congr (invariant : State → Prop) {first second : State → Event → Prop}
    (keeps : ∀ state event, invariant state → invariant (machine.next state event))
    (same : ∀ state event, invariant state → (first state event ↔ second state event))
    {state : State} (holds : invariant state) (events : List Event) :
    machine.Meets first state events ↔ machine.Meets second state events := by
  induction events generalizing state with
  | nil => exact Iff.rfl
  | cons event events ih =>
      exact and_congr (same state event holds) (ih (keeps state event holds))

/-- A guard that implies another one wherever an invariant holds guards fewer runs. -/
theorem meets_mono (invariant : State → Prop) {first second : State → Event → Prop}
    (keeps : ∀ state event, invariant state → invariant (machine.next state event))
    (implies : ∀ state event, invariant state → first state event → second state event)
    {state : State} (holds : invariant state) {events : List Event}
    (meets : machine.Meets first state events) : machine.Meets second state events := by
  induction events generalizing state with
  | nil => trivial
  | cons event events ih =>
      exact ⟨implies state event holds meets.1, ih (keeps state event holds) meets.2⟩

/-- When a guarded step keeps the invariant and an unguarded one breaks safety
for good, a run is safe exactly if all its steps meet the guard. -/
theorem safe_run_iff_meets (invariant safe : State → Prop)
    {assumed guard : State → Event → Prop}
    (sound : ∀ state, invariant state → safe state)
    (keeps : ∀ state event, assumed state event → guard state event → invariant state →
      invariant (machine.next state event))
    (breaks : ∀ state event, assumed state event → ¬ guard state event → invariant state →
      ¬ safe (machine.next state event))
    (stays : ∀ state event, safe (machine.next state event) → safe state)
    {state : State} {events : List Event} (holds : invariant state)
    (assumption : machine.Meets assumed state events) :
    safe (machine.run state events) ↔ machine.Meets guard state events := by
  have earlier : ∀ (events : List Event) (state : State),
      safe (machine.run state events) → safe state := by
    intro events
    induction events with
    | nil => exact fun _ => id
    | cons event events ih => exact fun state safe => stays state event (ih _ safe)
  induction events generalizing state with
  | nil => exact ⟨fun _ => trivial, fun _ => sound state holds⟩
  | cons event events ih =>
      by_cases guarded : guard state event
      · have rest := ih (keeps state event assumption.1 guarded holds) assumption.2
        exact ⟨fun safe => ⟨guarded, rest.mp safe⟩, fun meets => rest.mpr meets.2⟩
      · have broken := breaks state event assumption.1 guarded holds
        exact ⟨fun safe => absurd (earlier events _ safe) broken,
          fun meets => absurd meets.1 guarded⟩

/-- When the guard decides in every safe state whether the next one is safe,
all states of a run are safe exactly if all its steps meet the guard. -/
theorem safe_along_iff_meets (safe : State → Prop) {guard : State → Event → Prop}
    (decides : ∀ state event, safe state →
      (safe (machine.next state event) ↔ guard state event))
    {state : State} (holds : safe state) (events : List Event) :
    (∀ past, past <+: events → safe (machine.run state past)) ↔
      machine.Meets guard state events := by
  induction events generalizing state with
  | nil =>
      refine ⟨fun _ => trivial, fun _ past nothing => ?_⟩
      rw [List.prefix_nil.mp nothing]
      exact holds
  | cons event events ih =>
      constructor
      · intro everywhere
        have next := everywhere [event] ((List.prefix_cons_inj event).mpr List.nil_prefix)
        refine ⟨(decides state event holds).mp next, (ih next).mp fun past nested => ?_⟩
        exact everywhere (event :: past) ((List.prefix_cons_inj event).mpr nested)
      · rintro ⟨guarded, meets⟩ past nested
        rcases List.prefix_cons_iff.mp nested with rfl | ⟨earlier, rfl, shorter⟩
        · exact holds
        · exact (ih ((decides state event holds).mpr guarded)).mpr meets earlier shorter

/-- Two runs, the second without the events that `keeps` drops: a relation that
the kept events carry over and the dropped ones do not disturb holds at the end. -/
theorem related_run_filter (related : State → State → Prop) {admitted : Event → Prop}
    (keeps : Event → Bool)
    (kept : ∀ first second event, admitted event → keeps event = true → related first second →
      related (machine.next first event) (machine.next second event))
    (dropped : ∀ first second event, admitted event → keeps event = false →
      related first second → related (machine.next first event) second)
    {first second : State} (holds : related first second) {events : List Event}
    (admission : ∀ event ∈ events, admitted event) :
    related (machine.run first events) (machine.run second (events.filter keeps)) := by
  induction events generalizing first second with
  | nil => exact holds
  | cons event events ih =>
      obtain ⟨now, later⟩ := List.forall_mem_cons.mp admission
      cases decision : keeps event with
      | true =>
          rw [List.filter_cons_of_pos decision]
          exact ih (kept first second event now decision holds) later
      | false =>
          rw [List.filter_cons_of_neg (by simp [decision])]
          exact ih (dropped first second event now decision holds) later

/-- The machine is a family of independent machines, one per key: an event
moves only the slot of its own key, and what it emits depends on that slot. -/
structure Splits {Key Slot : Type} (view : State → Key → Slot) (key : Event → Key)
    (slot : Machine Slot Event Output) : Prop where
  own : ∀ state event,
    view (machine.next state event) (key event) = slot.next (view state (key event)) event
  other : ∀ state event another, another ≠ key event →
    view (machine.next state event) another = view state another
  emits : ∀ state event, machine.output state event = slot.output (view state (key event)) event

/-- In a split machine the history of one key is a run of its slot. -/
theorem Splits.view_run {Key Slot : Type} [DecidableEq Key] {view : State → Key → Slot}
    {key : Event → Key} {slot : Machine Slot Event Output}
    (splits : machine.Splits view key slot) (state : State) (events : List Event) (selected : Key) :
    view (machine.run state events) selected =
      slot.run (view state selected) (events.filter fun event => key event = selected) := by
  induction events generalizing state with
  | nil => rfl
  | cons event events ih =>
      rw [run_cons, ih]
      by_cases same : key event = selected
      · subst same
        simp only [List.filter_cons, decide_true, ↓reduceIte, run_cons, splits.own]
      · simp only [List.filter_cons, same, decide_false, Bool.false_eq_true, ↓reduceIte,
          splits.other state event selected (Ne.symm same)]

end Machine

end Rtunnel.Data
