import Rtunnel.Data.Bytes

namespace Rtunnel.Data

/-! Readers that can be suspended.

A reader asks for a number of bytes, goes on with them, and ends with a value or
gives up; it says what to report if the input ends before them.  How far it gets
depends on the bytes alone: a reader that waits for more and is resumed later does
what it would have done with all of them at once.  A stream of records is read by
starting the same reader again and again.
-/

inductive Demand (Reason Value : Type) where
  | done (value : Value)
  | fail (reason : Reason)
  | need (width : Nat) (ended : Reason) (next : Octets width → Demand Reason Value)

namespace Demand

variable {Reason Value Next : Type}

def bind : Demand Reason Value → (Value → Demand Reason Next) → Demand Reason Next
  | .done value, rest => rest value
  | .fail reason, _ => .fail reason
  | .need width ended next, rest => .need width ended fun field => (next field).bind rest

instance : Monad (Demand Reason) where
  pure := .done
  bind := bind

/-- Ask for a field and stop there. -/
def field (width : Nat) (ended : Reason) : Demand Reason (Octets width) :=
  .need width ended .done

/-- Go on as far as the input reaches. -/
def advance : Demand Reason Value → List UInt8 → Demand Reason Value × List UInt8
  | .done value, input => (.done value, input)
  | .fail reason, input => (.fail reason, input)
  | .need width ended next, input =>
      match readExact width input with
      | some (field, rest) => (next field).advance rest
      | none => (.need width ended next, input)

/-- The reader asks for bytes that are not there. -/
def waits : Demand Reason Value → Bool
  | .need _ _ _ => true
  | _ => false

/-- The reader makes this value of these bytes, whatever follows them. -/
def Reads (reader : Demand Reason Value) (used : List UInt8) (value : Value) : Prop :=
  ∀ later, reader.advance (used ++ later) = (.done value, later)

/-- Started again and again, the reader makes these values of these bytes. -/
inductive Spans (reader : Demand Reason Value) : List UInt8 → List Value → Prop where
  | nil : Spans reader [] []
  | cons {used more : List UInt8} {value : Value} {values : List Value}
      (first : reader.Reads used value) (rest : Spans reader more values) :
      Spans reader (used ++ more) (value :: values)

/-- A reader that is resumed does what it would have done without the pause. -/
theorem advance_resume (reader : Demand Reason Value) (input more : List UInt8) :
    (reader.advance input).1.advance ((reader.advance input).2 ++ more) =
      reader.advance (input ++ more) := by
  induction reader generalizing input with
  | done value => rfl
  | fail reason => rfl
  | need width ended next ih =>
      cases found : readExact width input with
      | none => simp only [advance, found]
      | some split =>
          obtain ⟨field, rest⟩ := split
          have longer := readExact_append_of_some found more
          simp only [advance, found, longer, ih]

/-- Readers that agree on what there is agree on whatever comes next. -/
theorem advance_append_congr {first second : Demand Reason Value} {input other : List UInt8}
    (same : first.advance input = second.advance other) (more : List UInt8) :
    first.advance (input ++ more) = second.advance (other ++ more) := by
  rw [← advance_resume first, ← advance_resume second, same]

variable {reader : Demand Reason Value} {value : Value} {values : List Value}

/-- A reader that has given up stays so. -/
theorem advance_append_of_fail {input left : List UInt8} {reason : Reason}
    (gaveUp : reader.advance input = (.fail reason, left)) (more : List UInt8) :
    reader.advance (input ++ more) = (.fail reason, left ++ more) := by
  rw [← advance_resume, gaveUp]
  rfl

/-- A reader that waits for a field goes on with the field that it found. -/
theorem advance_need_eq_done {width : Nat} {ended : Reason}
    {next : Octets width → Demand Reason Value} {input rest : List UInt8}
    (read : (Demand.need width ended next).advance input = (.done value, rest)) :
    ∃ field left, readExact width input = some (field, left) ∧
      (next field).advance left = (.done value, rest) := by
  cases found : readExact width input with
  | none =>
      simp only [advance, found] at read
      cases read
  | some split =>
      simp only [advance, found] at read
      exact ⟨split.1, split.2, rfl, read⟩

theorem Reads.of_advance {input rest : List UInt8}
    (read : reader.advance input = (.done value, rest)) :
    ∃ used, input = used ++ rest ∧ reader.Reads used value := by
  induction reader generalizing input with
  | done other =>
      cases read
      exact ⟨[], rfl, fun _ => rfl⟩
  | fail reason => cases read
  | need width ended next ih =>
      obtain ⟨field, left, found, read⟩ := advance_need_eq_done read
      obtain ⟨used, rfl, reads⟩ := ih field read
      refine ⟨field.bytes ++ used, ?_, fun later => ?_⟩
      · rw [List.append_assoc]
        exact readExact_eq_some found
      · rw [List.append_assoc]
        simp only [advance, readExact_append]
        exact reads later

theorem Reads.field {width : Nat} {ended : Reason} (field : Octets width) :
    Reads (Demand.field width ended) field.bytes field := by
  intro later
  simp only [Demand.field, advance, readExact_append]

theorem advance_bind_of_done {input left : List UInt8}
    (read : reader.advance input = (.done value, left)) (rest : Value → Demand Reason Next) :
    (reader.bind rest).advance input = (rest value).advance left := by
  induction reader generalizing input with
  | done other =>
      cases read
      rfl
  | fail reason => cases read
  | need width ended next ih =>
      obtain ⟨field, left, found, read⟩ := advance_need_eq_done read
      simp only [bind, advance, found]
      exact ih field read

/-- Readers one after the other read what was written one after the other. -/
theorem Reads.bind {rest : Value → Demand Reason Next} {used more : List UInt8} {result : Next}
    (first : reader.Reads used value) (second : (rest value).Reads more result) :
    (reader >>= rest).Reads (used ++ more) result := by
  intro later
  rw [List.append_assoc]
  exact (advance_bind_of_done (first _) rest).trans (second later)

theorem advance_field {width : Nat} {ended : Reason} {input rest : List UInt8}
    {field : Octets width} (read : (Demand.field width ended).advance input = (.done field, rest)) :
    input = field.bytes ++ rest := by
  obtain ⟨found, left, split, read⟩ := advance_need_eq_done read
  cases read
  exact readExact_eq_some split

/-- What two readers make of an input, the second makes of what the first left. -/
theorem advance_bind {rest : Value → Demand Reason Next} {input left : List UInt8} {result : Next}
    (read : (reader >>= rest).advance input = (.done result, left)) :
    ∃ value middle, reader.advance input = (.done value, middle) ∧
      (rest value).advance middle = (.done result, left) := by
  induction reader generalizing input with
  | done value => exact ⟨value, input, rfl, read⟩
  | fail reason => cases read
  | need width ended next ih =>
      obtain ⟨field, left, found, read⟩ := advance_need_eq_done read
      obtain ⟨value, middle, first, second⟩ := ih field read
      refine ⟨value, middle, ?_, second⟩
      simp only [advance, found]
      exact first

/-- What is read may be turned into another value. -/
theorem Reads.map {used : List UInt8} (reads : reader.Reads used value) (convert : Value → Next) :
    (reader >>= fun value => .done (convert value)).Reads used (convert value) := by
  intro later
  exact advance_bind_of_done (reads later) _

theorem Spans.snoc {used more : List UInt8} (spans : reader.Spans used values)
    (last : reader.Reads more value) :
    reader.Spans (used ++ more) (values ++ [value]) := by
  induction spans with
  | nil =>
      have single := Spans.cons last .nil
      rw [List.append_nil] at single
      exact single
  | cons first _ ih =>
      rw [List.append_assoc]
      exact .cons first ih

/-- What can be read at the front of a stream is what the stream holds first. -/
theorem Spans.split (hungry : (reader.advance []).1.waits = true) {used rest : List UInt8}
    {all : List Value} (front : reader.Spans used values)
    (whole : reader.Spans (used ++ rest) all) :
    ∃ later, all = values ++ later ∧ reader.Spans rest later := by
  induction front generalizing all with
  | nil => exact ⟨all, rfl, whole⟩
  | @cons used more value values first _ ih =>
      rw [List.append_assoc] at whole
      generalize stream : used ++ (more ++ rest) = input at whole
      cases whole with
      | nil =>
          have empty := (List.append_eq_nil_iff.mp stream).1
          have read := first []
          rw [empty, List.append_nil] at read
          rw [read] at hungry
          cases hungry
      | @cons start after other others head tail =>
          have same := (first (more ++ rest)).symm.trans ((congrArg reader.advance stream).trans
            (head after))
          simp only [Prod.mk.injEq, done.injEq] at same
          obtain ⟨rfl, rfl⟩ := same
          obtain ⟨later, rfl, spans⟩ := ih tail
          exact ⟨later, rfl, spans⟩

/-- A stream whose next record is not whole holds none. -/
theorem Spans.eq_nil {rest : List UInt8} (spans : reader.Spans rest values)
    (short : (reader.advance rest).1.waits = true) : values = [] := by
  cases spans with
  | nil => rfl
  | cons first _ =>
      rw [first] at short
      cases short

/-- A stream whose next record is whole holds one. -/
theorem Spans.ne_nil (hungry : (reader.advance []).1.waits = true) {stream left : List UInt8}
    (spans : reader.Spans stream values) (read : reader.advance stream = (.done value, left)) :
    values ≠ [] := by
  cases spans with
  | nil =>
      rw [read] at hungry
      cases hungry
  | cons _ _ => exact List.cons_ne_nil _ _

/-- Every record takes at least one byte. -/
theorem Spans.length_le (hungry : (reader.advance []).1.waits = true) {stream : List UInt8}
    (spans : reader.Spans stream values) :
    values.length ≤ stream.length := by
  induction spans with
  | nil => exact Nat.le_refl 0
  | @cons used more value values first _ ih =>
      have filled : used ≠ [] := by
        rintro rfl
        have read := first []
        rw [List.append_nil] at read
        rw [read] at hungry
        cases hungry
      have positive := List.length_pos_iff.mpr filled
      rw [List.length_cons, List.length_append]
      omega

/-- No stream of records makes its reader give up. -/
theorem Spans.not_fail (hungry : (reader.advance []).1.waits = true) {stream left : List UInt8}
    (spans : reader.Spans stream values) (reason : Reason) :
    reader.advance stream ≠ (.fail reason, left) := by
  intro gaveUp
  cases spans with
  | nil =>
      rw [gaveUp] at hungry
      cases hungry
  | cons first _ =>
      rw [first] at gaveUp
      cases gaveUp

end Demand

end Rtunnel.Data
