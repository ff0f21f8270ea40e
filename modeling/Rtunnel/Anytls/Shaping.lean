import Mathlib.Data.List.Basic
import Rtunnel.Anytls.Padding

namespace Rtunnel.Anytls

open Rtunnel.Data

/-! What each step of a shaping makes.

Every size that is reached makes one record, in the order of the steps, and what
is left of the payload behind the last step makes one more.  A record that is
made while payload is left has the size asked for, unless there is no room for
padding behind the end of the payload; later ones are WASTE frames.
-/

/-- The sum of the sizes among the steps. -/
def totalSize : List GeneratedPaddingStep → Nat
  | [] => 0
  | .check :: steps => totalSize steps
  | .size size :: steps => size + totalSize steps

/-- The number of sizes among the steps. -/
def sizeCount : List GeneratedPaddingStep → Nat
  | [] => 0
  | .check :: steps => sizeCount steps
  | .size _ :: steps => sizeCount steps + 1

/-- Every checkpoint among the steps finds some of the payload left. -/
def Passes (steps : List GeneratedPaddingStep) (payload : List UInt8) : Prop :=
  ∀ before after, steps = before ++ .check :: after → totalSize before < payload.length

/-- What a step of this size makes when `left` is what is left of the payload. -/
structure RecordOf (size : Nat) (left record : List UInt8) : Prop where
  bounded : left ≠ [] → record.length ≤ size
  filled : left ≠ [] →
    record.length = size ∨ (left.length ≤ size ∧ size - left.length ≤ frameHeaderLen)
  waste : left = [] → ∃ fits, record = (wasteFrame size fits).toBytes
  nonempty : 1 ≤ size → record ≠ []

/-- The records that the steps make of a payload. -/
structure FollowsSteps (steps : List GeneratedPaddingStep) (payload : List UInt8)
    (records : List (List UInt8)) : Prop where
  carries : Shapes payload records
  made : ∀ before size after, steps = before ++ .size size :: after → Passes before payload →
    ∃ record, records[sizeCount before]? = some record ∧
      RecordOf size (payload.drop (totalSize before)) record
  stopped : ∀ before after, steps = before ++ .check :: after → payload.length ≤ totalSize before →
    records.length ≤ sizeCount before
  accounted : ∀ position record, records[position]? = some record →
    (∃ before size after, steps = before ++ .size size :: after ∧ sizeCount before = position ∧
      Passes before payload) ∨
    (position = sizeCount steps ∧ record = payload.drop (totalSize steps))

theorem wasteFrame_length {size : Nat} (fits : size ≤ u16Max) :
    (wasteFrame size fits).toBytes.length = frameHeaderLen + size := by
  simp [Frame.toBytes, wasteFrame, frameHeaderLen]
  omega

theorem lastRecord_recordOf {left : List UInt8} (some : left ≠ []) {size : Nat}
    (within : left.length ≤ size) (fits : size ≤ u16Max) :
    ∃ record, lastRecord left size = .ok record ∧ RecordOf size left record := by
  unfold lastRecord
  dsimp only
  split
  · rename_i room
    have small : size - (left.length + frameHeaderLen) ≤ u16Max := by omega
    refine ⟨left ++ (wasteFrame _ small).toBytes, by rw [encodeWasteFrame_eq small], ?_⟩
    have whole : (left ++ (wasteFrame _ small).toBytes).length = size := by
      rw [List.length_append, wasteFrame_length]
      omega
    refine ⟨fun _ => Nat.le_of_eq whole, fun _ => .inl whole, fun empty => absurd empty some,
      fun _ empty => ?_⟩
    exact some (List.append_eq_nil_iff.mp empty).1
  · rename_i full
    refine ⟨left, rfl, fun _ => within, fun _ => .inr ⟨within, ?_⟩, fun empty => absurd empty some,
      fun _ => some⟩
    omega

theorem cut_recordOf {left : List UInt8} {size : Nat} (more : size < left.length) :
    RecordOf size left (left.take size) := by
  have whole : (left.take size).length = size := List.length_take_of_le (Nat.le_of_lt more)
  refine ⟨fun _ => Nat.le_of_eq whole, fun _ => .inl whole, fun empty => ?_,
    fun positive empty => ?_⟩
  · rw [empty] at more
    exact absurd more (Nat.not_lt_zero _)
  · rw [empty, List.length_nil] at whole
    omega

/-- The record that ends the payload, or one behind its end. -/
theorem end_recordOf {left : List UInt8} {size : Nat} (within : left.length ≤ size)
    (fits : size ≤ u16Max) :
    ∃ record, (if left = [] then encodeWasteFrame size else lastRecord left size) = .ok record ∧
      RecordOf size left record := by
  by_cases empty : left = []
  · rw [if_pos empty, encodeWasteFrame_eq fits]
    refine ⟨_, rfl, fun some => absurd empty some, fun some => absurd empty some,
      fun _ => ⟨fits, rfl⟩, fun _ => ?_⟩
    simp [Frame.toBytes]
  · rw [if_neg empty]
    exact lastRecord_recordOf empty within fits

theorem passes_nil (payload : List UInt8) : Passes [] payload := by
  intro before after same
  simp at same

variable {steps : List GeneratedPaddingStep} {payload : List UInt8}

theorem passes_size_iff {size : Nat} :
    Passes (.size size :: steps) payload ↔ Passes steps (payload.drop size) := by
  unfold Passes
  rw [List.length_drop]
  constructor
  · intro passes before after same
    have below := passes (.size size :: before) after (by rw [same, List.cons_append])
    rw [totalSize] at below
    omega
  · intro passes before after same
    cases before with
    | nil => cases same
    | cons step before =>
        cases same
        have below := passes before after rfl
        rw [totalSize]
        omega

theorem passes_check_iff :
    Passes (.check :: steps) payload ↔ payload ≠ [] ∧ Passes steps payload := by
  unfold Passes
  constructor
  · intro passes
    refine ⟨?_, fun before after same => ?_⟩
    · exact List.length_pos_iff.mp (passes [] steps rfl)
    · exact passes (.check :: before) after (by rw [same, List.cons_append])
  · intro passes before after same
    cases before with
    | nil => exact List.length_pos_iff.mpr passes.1
    | cons step before =>
        cases same
        exact passes.2 before after rfl

namespace FollowsSteps

variable {records : List (List UInt8)}

theorem nil (carries : Shapes payload records) (only : ∀ record ∈ records, record = payload)
    (single : records.length ≤ 1) : FollowsSteps [] payload records where
  carries := carries
  made before size after same := by simp at same
  stopped before after same := by simp at same
  accounted position record found := by
    obtain ⟨within, same⟩ := List.getElem?_eq_some_iff.mp found
    refine .inr ⟨?_, only record (List.mem_of_getElem? found)⟩
    rw [sizeCount]
    omega

/-- A checkpoint that ends the shaping. -/
theorem checkEnds (steps : List GeneratedPaddingStep) : FollowsSteps (.check :: steps) [] [] where
  carries := .plain rfl
  made before size after same passes := by
    cases before with
    | nil => cases same
    | cons step before =>
        cases same
        exact absurd rfl (passes_check_iff.mp passes).1
  stopped _ _ _ _ := Nat.zero_le _
  accounted position record found := by simp at found

theorem check (some : payload ≠ []) (rest : FollowsSteps steps payload records) :
    FollowsSteps (.check :: steps) payload records where
  carries := rest.carries
  made before size after same passes := by
    cases before with
    | nil => cases same
    | cons step before =>
        cases same
        exact rest.made before size after rfl (passes_check_iff.mp passes).2
  stopped before after same exhausted := by
    cases before with
    | nil => exact absurd (List.length_eq_zero_iff.mp (Nat.le_zero.mp exhausted)) some
    | cons step before =>
        cases same
        exact rest.stopped before after rfl exhausted
  accounted position record found := by
    refine (rest.accounted position record found).imp (fun origin => ?_) id
    obtain ⟨before, size, after, rfl, counted, passes⟩ := origin
    exact ⟨.check :: before, size, after, rfl, counted, passes_check_iff.mpr ⟨some, passes⟩⟩

theorem size {size : Nat} {record : List UInt8} (first : RecordOf size payload record)
    (carries : Shapes payload (record :: records))
    (rest : FollowsSteps steps (payload.drop size) records) :
    FollowsSteps (.size size :: steps) payload (record :: records) where
  carries := carries
  made before other after same passes := by
    cases before with
    | nil =>
        cases same
        exact ⟨record, rfl, first⟩
    | cons step before =>
        cases same
        obtain ⟨later, found, described⟩ :=
          rest.made before other after rfl (passes_size_iff.mp passes)
        rw [List.drop_drop] at described
        exact ⟨later, found, described⟩
  stopped before after same exhausted := by
    cases before with
    | nil => cases same
    | cons step before =>
        cases same
        rw [totalSize] at exhausted
        have bound := rest.stopped before after rfl (by rw [List.length_drop]; omega)
        exact Nat.succ_le_succ bound
  accounted position later found := by
    cases position with
    | zero => exact .inl ⟨[], size, steps, rfl, rfl, passes_nil payload⟩
    | succ position =>
        rcases rest.accounted position later found with origin | behind
        · obtain ⟨before, other, after, rfl, counted, passes⟩ := origin
          refine .inl ⟨.size size :: before, other, after, rfl, ?_, passes_size_iff.mpr passes⟩
          rw [sizeCount, counted]
        · refine .inr ⟨by rw [sizeCount, behind.1], ?_⟩
          rw [behind.2, List.drop_drop, totalSize]

end FollowsSteps

theorem shapes_of_shapeSteps (bounded : ∀ size, .size size ∈ steps → size ≤ u16Max)
    {records : List (List UInt8)} (shaped : shapeSteps steps payload = .ok records) :
    Shapes payload records := by
  obtain ⟨others, same, carries⟩ := shapeSteps_shapes bounded payload
  rw [shaped] at same
  rwa [Except.ok.inj same]

/-- A size makes a record of what is left, and the other steps go on behind it. -/
theorem shapeSteps_size {size : Nat} (fits : size ≤ u16Max) {records : List (List UInt8)}
    (shaped : shapeSteps (.size size :: steps) payload = .ok records) :
    ∃ record later, records = record :: later ∧ RecordOf size payload record ∧
      shapeSteps steps (payload.drop size) = .ok later := by
  rw [shapeSteps] at shaped
  by_cases more : size < payload.length
  · rw [if_pos more] at shaped
    cases rest : shapeSteps steps (payload.drop size) with
    | error reason =>
        rw [rest] at shaped
        cases shaped
    | ok later =>
        rw [rest] at shaped
        exact ⟨_, later, (Except.ok.inj shaped).symm, cut_recordOf more, rfl⟩
  · have within := Nat.le_of_not_lt more
    obtain ⟨record, made, described⟩ := end_recordOf within fits
    rw [if_neg more, made] at shaped
    rw [List.drop_eq_nil_of_le within]
    cases rest : shapeSteps steps [] with
    | error reason =>
        rw [rest] at shaped
        cases shaped
    | ok later =>
        rw [rest] at shaped
        exact ⟨record, later, (Except.ok.inj shaped).symm, described, rfl⟩

theorem shapeSteps_follows (bounded : ∀ size, .size size ∈ steps → size ≤ u16Max)
    {records : List (List UInt8)} (shaped : shapeSteps steps payload = .ok records) :
    FollowsSteps steps payload records := by
  induction steps generalizing payload records with
  | nil =>
      have carries := shapes_of_shapeSteps bounded shaped
      rw [shapeSteps] at shaped
      obtain rfl := Except.ok.inj shaped
      refine .nil carries (fun record member => ?_) ?_
      · split at member
        · cases member
        · exact List.mem_singleton.mp member
      · split <;> simp
  | cons step steps ih =>
      have later : ∀ size, .size size ∈ steps → size ≤ u16Max :=
        fun size member => bounded size (List.mem_cons_of_mem _ member)
      cases step with
      | check =>
          rw [shapeSteps] at shaped
          by_cases empty : payload = []
          · rw [if_pos empty] at shaped
            obtain rfl := Except.ok.inj shaped
            rw [empty]
            exact .checkEnds steps
          · rw [if_neg empty] at shaped
            exact .check empty (ih later shaped)
      | size size =>
          have carries := shapes_of_shapeSteps bounded shaped
          obtain ⟨record, others, rfl, first, rest⟩ :=
            shapeSteps_size (bounded size List.mem_cons_self) shaped
          exact .size first carries (ih later rest)

theorem shapeSteps_nonempty (sized : ∀ size, .size size ∈ steps → 1 ≤ size ∧ size ≤ u16Max)
    {records : List (List UInt8)} (shaped : shapeSteps steps payload = .ok records) :
    ∀ record ∈ records, record ≠ [] := by
  induction steps generalizing payload records with
  | nil =>
      rw [shapeSteps] at shaped
      obtain rfl := Except.ok.inj shaped
      split
      · simp
      · rename_i some
        simpa using some
  | cons step steps ih =>
      have later : ∀ size, .size size ∈ steps → 1 ≤ size ∧ size ≤ u16Max :=
        fun size member => sized size (List.mem_cons_of_mem _ member)
      cases step with
      | check =>
          rw [shapeSteps] at shaped
          split at shaped
          · obtain rfl := Except.ok.inj shaped
            simp
          · exact ih later shaped
      | size size =>
          obtain ⟨positive, fits⟩ := sized size List.mem_cons_self
          obtain ⟨record, others, rfl, first, rest⟩ := shapeSteps_size fits shaped
          exact List.forall_mem_cons.mpr ⟨first.nonempty positive, ih later rest⟩

/-- Whatever the steps of a packet are, as long as a frame can hold their sizes,
the packet is shaped as they say. -/
theorem records_follow_steps {plan : PaddingPlan} {packet : UInt32}
    (sized : ∀ size, .size size ∈ plan.generateRecordPayloadSteps packet →
      1 ≤ size ∧ size ≤ u16Max) (payload : List UInt8) :
    ∃ records, shapePacketPayload payload packet plan = .ok records ∧
      FollowsSteps (plan.generateRecordPayloadSteps packet) payload records ∧
      (payload ≠ [] → ∀ record ∈ records, record ≠ []) := by
  unfold shapePacketPayload
  dsimp only
  by_cases free : plan.generateRecordPayloadSteps packet = []
  · rw [if_pos free, free]
    refine ⟨[payload], rfl, ?_, by simp⟩
    exact .nil (.plain List.flatten_singleton) (by simp) (Nat.le_refl 1)
  · rw [if_neg free]
    have bounded : ∀ size, .size size ∈ plan.generateRecordPayloadSteps packet → size ≤ u16Max :=
      fun size member => (sized size member).2
    obtain ⟨records, shaped, _⟩ := shapeSteps_shapes bounded payload
    exact ⟨records, shaped, shapeSteps_follows bounded shaped,
      fun _ => shapeSteps_nonempty sized shaped⟩

def GeneratedPaddingStep.drawn : GeneratedPaddingStep → Int
  | .size value => value
  | .check => -1

/-- A plan that draws these steps for every packet. -/
def drawingPlan (steps : List GeneratedPaddingStep) : PaddingPlan where
  stop := 8
  checkMark := -1
  recordPayloadSizes _ := steps.map GeneratedPaddingStep.drawn

/-- Every list of steps is drawn by some plan. -/
theorem generate_drawingPlan {steps : List GeneratedPaddingStep}
    (positive : ∀ size, .size size ∈ steps → 1 ≤ size) (packet : UInt32) :
    (drawingPlan steps).generateRecordPayloadSteps packet = steps := by
  unfold PaddingPlan.generateRecordPayloadSteps drawingPlan
  dsimp only
  rw [List.filterMap_map]
  refine Eq.trans (List.filterMap_congr fun step member => ?_) List.filterMap_some
  cases step with
  | check => simp [GeneratedPaddingStep.drawn]
  | size size =>
      have drawn := positive size member
      have other : ¬ (size : Int) = -1 := by omega
      have counted : ¬ size = 0 := by omega
      simp [GeneratedPaddingStep.drawn, other, counted]

/-- A frame of five bytes, cut, filled up, and followed by padding up to a
checkpoint. -/
def shapedSteps : List GeneratedPaddingStep := [.size 3, .check, .size 20, .size 4, .check, .size 9]

theorem shapedSteps_sized : ∀ size, .size size ∈ shapedSteps → 1 ≤ size ∧ size ≤ u16Max := by
  intro size member
  simp only [shapedSteps, List.mem_cons, GeneratedPaddingStep.size.injEq, reduceCtorEq,
    List.not_mem_nil, or_false, false_or] at member
  rw [u16Max]
  omega

theorem sample_records_follow_steps :
    ∃ records, shapePacketPayload [1, 2, 3, 4, 5] 1 (drawingPlan shapedSteps) = .ok records ∧
      FollowsSteps shapedSteps [1, 2, 3, 4, 5] records ∧ (∀ record ∈ records, record ≠ []) := by
  have drawn : (drawingPlan shapedSteps).generateRecordPayloadSteps 1 = shapedSteps :=
    generate_drawingPlan (fun size member => (shapedSteps_sized size member).1) 1
  have sized : ∀ size, .size size ∈ (drawingPlan shapedSteps).generateRecordPayloadSteps 1 →
      1 ≤ size ∧ size ≤ u16Max := by
    rw [drawn]
    exact shapedSteps_sized
  obtain ⟨records, shaped, follows, nonempty⟩ := records_follow_steps sized [1, 2, 3, 4, 5]
  rw [drawn] at follows
  exact ⟨records, shaped, follows, nonempty (by simp)⟩

end Rtunnel.Anytls
