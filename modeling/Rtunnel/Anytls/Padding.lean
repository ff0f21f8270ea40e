import Rtunnel.Anytls.Codec

namespace Rtunnel.Anytls

open Rtunnel.Data

/-! Shaping: how the first packets of a session are cut and padded.

The sizes come from the upstream crate, which draws them at random; any list may
come out.  Padding is made of WASTE frames, and they stand behind the payload.
-/

/-- The upstream scheme: where padding stops, and the sizes for each packet,
among which one number marks a checkpoint. -/
structure PaddingPlan where
  stop : UInt32
  checkMark : Int
  recordPayloadSizes : UInt32 → List Int

inductive GeneratedPaddingStep where
  | size (value : Nat)
  | check
deriving DecidableEq

def PaddingPlan.generateRecordPayloadSteps (plan : PaddingPlan) (packet : UInt32) :
    List GeneratedPaddingStep :=
  (plan.recordPayloadSizes packet).filterMap fun size =>
    if size = plan.checkMark then some .check
    else if 0 < size then some (.size size.toNat)
    else none

/-- No generated size exceeds what a frame can hold. -/
def PaddingPlan.Bounded (plan : PaddingPlan) : Prop :=
  ∀ packet, ∀ size ∈ plan.recordPayloadSizes packet, size ≤ u16Max

def encodeWasteFrame (dataLen : Nat) : Except Failure (List UInt8) :=
  if dataLen ≤ u16Max then encodeFrame .waste 0 (List.replicate dataLen 0)
  else .error "anytls waste frame is too large"

/-- The record that ends the payload, filled up to `size` if a WASTE frame with
at least one byte fits behind it. -/
def lastRecord (payload : List UInt8) (size : Nat) : Except Failure (List UInt8) :=
  let paddingLen := size - (payload.length + frameHeaderLen)
  if 0 < paddingLen then
    match encodeWasteFrame paddingLen with
    | .ok waste => .ok (payload ++ waste)
    | .error reason => .error reason
  else .ok payload

def shapeSteps : List GeneratedPaddingStep → List UInt8 → Except Failure (List (List UInt8))
  | [], payload => .ok (if payload = [] then [] else [payload])
  | .check :: steps, payload => if payload = [] then .ok [] else shapeSteps steps payload
  | .size size :: steps, payload =>
      if size < payload.length then
        (shapeSteps steps (payload.drop size)).map fun records => payload.take size :: records
      else
        let record := if payload = [] then encodeWasteFrame size else lastRecord payload size
        match record with
        | .error reason => .error reason
        | .ok record => (shapeSteps steps []).map fun records => record :: records

def shapePacketPayload (payload : List UInt8) (packet : UInt32) (plan : PaddingPlan) :
    Except Failure (List (List UInt8)) :=
  let steps := plan.generateRecordPayloadSteps packet
  if steps = [] then .ok [payload] else shapeSteps steps payload

def wasteFrame (dataLen : Nat) (fits : dataLen ≤ u16Max) : Frame where
  command := .waste
  streamId := 0
  data := List.replicate dataLen 0
  fits := by rw [List.length_replicate]; exact fits

theorem encodeWasteFrame_eq {dataLen : Nat} (fits : dataLen ≤ u16Max) :
    encodeWasteFrame dataLen = .ok (wasteFrame dataLen fits).toBytes := by
  unfold encodeWasteFrame
  rw [if_pos fits]
  exact encodeFrame_frame (wasteFrame dataLen fits)

/-- A list of records is the payload followed by padding. -/
def Shapes (payload : List UInt8) (records : List (List UInt8)) : Prop :=
  ∃ wastes : List Frame, (∀ waste ∈ wastes, waste.command = .waste ∧ waste.streamId = 0) ∧
    records.flatten = payload ++ frames.encodeAll wastes

theorem Shapes.plain {payload : List UInt8} {records : List (List UInt8)}
    (same : records.flatten = payload) : Shapes payload records :=
  ⟨[], (fun _ member => nomatch member), by rw [same, Framing.encodeAll_nil, List.append_nil]⟩

theorem Shapes.cons (taken : List UInt8) {payload : List UInt8} {records : List (List UInt8)}
    (shapes : Shapes payload records) : Shapes (taken ++ payload) (taken :: records) := by
  obtain ⟨wastes, padding, same⟩ := shapes
  exact ⟨wastes, padding, by rw [List.flatten_cons, same, List.append_assoc]⟩

theorem Shapes.pad {payload : List UInt8} {waste : Frame} {records : List (List UInt8)}
    (padding : waste.command = .waste ∧ waste.streamId = 0) (shapes : Shapes [] records) :
    Shapes payload ((payload ++ waste.toBytes) :: records) := by
  obtain ⟨wastes, more, same⟩ := shapes
  refine ⟨waste :: wastes, List.forall_mem_cons.mpr ⟨padding, more⟩, ?_⟩
  rw [List.flatten_cons, same, List.nil_append, Framing.encodeAll_cons, List.append_assoc]
  rfl

theorem lastRecord_shapes (payload : List UInt8) {size : Nat} (fits : size ≤ u16Max)
    {records : List (List UInt8)} (rest : Shapes [] records) :
    ∃ record, lastRecord payload size = .ok record ∧ Shapes payload (record :: records) := by
  unfold lastRecord
  dsimp only
  split
  · have small : size - (payload.length + frameHeaderLen) ≤ u16Max := by omega
    refine ⟨_, by rw [encodeWasteFrame_eq small], ?_⟩
    exact .pad ⟨rfl, rfl⟩ rest
  · refine ⟨payload, rfl, ?_⟩
    have unpadded := rest.cons payload
    rwa [List.append_nil] at unpadded

theorem shapeSteps_shapes {steps : List GeneratedPaddingStep}
    (bounded : ∀ size, .size size ∈ steps → size ≤ u16Max) (payload : List UInt8) :
    ∃ records, shapeSteps steps payload = .ok records ∧ Shapes payload records := by
  have nothing : Shapes [] [] := .plain rfl
  induction steps generalizing payload with
  | nil =>
      refine ⟨_, rfl, ?_⟩
      split
      · next empty =>
          rw [empty]
          exact nothing
      · exact .plain (List.flatten_singleton)
  | cons step steps ih =>
      have later := ih fun size member => bounded size (List.mem_cons_of_mem _ member)
      cases step with
      | check =>
          unfold shapeSteps
          split
          · next empty =>
              rw [empty]
              exact ⟨[], rfl, nothing⟩
          · exact later payload
      | size size =>
          have fits := bounded size List.mem_cons_self
          unfold shapeSteps
          split
          · obtain ⟨records, shaped, carries⟩ := later (payload.drop size)
            refine ⟨payload.take size :: records, by rw [shaped]; rfl, ?_⟩
            have whole := carries.cons (payload.take size)
            rwa [List.take_append_drop] at whole
          · obtain ⟨records, shaped, padding⟩ := later []
            split
            · next empty =>
                refine ⟨(wasteFrame size fits).toBytes :: records, ?_, ?_⟩
                · rw [encodeWasteFrame_eq fits, shaped]
                  rfl
                · rw [empty]
                  exact .pad ⟨rfl, rfl⟩ padding
            · obtain ⟨record, written, carries⟩ := lastRecord_shapes payload fits padding
              exact ⟨record :: records, by rw [written, shaped]; rfl, carries⟩

/-- With bounded sizes shaping succeeds, and the records carry the payload with
nothing but WASTE frames behind it. -/
theorem shapePacketPayload_shapes {plan : PaddingPlan} (bounded : plan.Bounded)
    (payload : List UInt8) (packet : UInt32) :
    ∃ records, shapePacketPayload payload packet plan = .ok records ∧ Shapes payload records := by
  unfold shapePacketPayload
  dsimp only
  split
  · exact ⟨[payload], rfl, .plain List.flatten_singleton⟩
  · refine shapeSteps_shapes (fun size member => ?_) payload
    obtain ⟨drawn, known, same⟩ := List.mem_filterMap.mp member
    split at same
    · cases same
    · split at same
      · cases same
        have small := bounded packet drawn known
        omega
      · cases same

end Rtunnel.Anytls
