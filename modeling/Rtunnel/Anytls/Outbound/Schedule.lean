import Mathlib.Data.ENat.Lattice
import Mathlib.Data.List.Induction
import Rtunnel.Anytls.Outbound.Writer

namespace Rtunnel.Anytls.Outbound

open Rtunnel.Data

/-! Which packets of a session are padded.

Packets are counted from one.  The first packet whose number reaches the stop of
the plan in force ends padding for the session; a plan that comes later does not
start it again.  A stop fits into 32 bits, so the counter ends before it wraps.
-/

/-- Something is put into the buffer, or written together with what is in it. -/
inductive ConnStep where
  | buffer (data : List UInt8)
  | conn (data : List UInt8) (padding : PaddingPlan)

def ClientWriter.connStep (writer : ClientWriter) : ConnStep → Attempt ClientWriter Failure
  | .buffer data => ({ writer with buffer := writer.buffer ++ data }, .ok ())
  | .conn data padding => writer.writeConn data padding

def connMachine : Machine ClientWriter ConnStep (Except Failure Unit) := ⟨ClientWriter.connStep⟩

def ConnStep.plan? : ConnStep → Option PaddingPlan
  | .buffer _ => none
  | .conn _ padding => some padding

/-- The plans that the packets of a run were written with. -/
def plans (steps : List ConnStep) : List PaddingPlan := steps.filterMap ConnStep.plan?

def WriterStep.toConn : WriterStep → ConnStep
  | .buffer frame => .buffer frame.toBytes
  | .write frame padding => .conn frame.toBytes padding

/-- The steps that issue frames are such steps. -/
theorem step_eq_connStep (writer : ClientWriter) (step : WriterStep) :
    writer.step step = writer.connStep step.toConn := by
  cases step with
  | buffer frame => simp only [ClientWriter.step, ClientWriter.bufferFrame, encodeFrame_frame,
      WriterStep.toConn, ClientWriter.connStep]
  | write frame padding => simp only [ClientWriter.step, ClientWriter.writeFrame,
      encodeFrame_frame, WriterStep.toConn, ClientWriter.connStep]

/-- The packet with this number reaches the stop of its plan. -/
def Reaches (plans : List PaddingPlan) (number : Nat) : Prop :=
  ∃ index plan, number = index + 1 ∧ plans[index]? = some plan ∧ plan.stop.toNat ≤ number

/-- The number of the first packet that reaches the stop of its plan; infinite
if none does. -/
structure Threshold (plans : List PaddingPlan) (limit : ℕ∞) : Prop where
  reached : ∀ number : ℕ, limit = number → Reaches plans number
  first : ∀ number : ℕ, Reaches plans number → limit ≤ number

theorem threshold_exists (plans : List PaddingPlan) : ∃ limit, Threshold plans limit := by
  classical
  by_cases reaches : ∃ number, Reaches plans number
  · refine ⟨(Nat.find reaches : ℕ), fun number same => ?_, fun number reached => ?_⟩
    · rw [← Nat.cast_inj.mp same]
      exact Nat.find_spec reaches
    · exact Nat.cast_le.mpr (Nat.find_min' reaches reached)
  · refine ⟨⊤, fun number same => ?_, fun number reached => ?_⟩
    · exact absurd same.symm (ENat.natCast_ne_top number)
    · exact absurd ⟨number, reached⟩ reaches

theorem Reaches.le_length {plans : List PaddingPlan} {number : Nat}
    (reaches : Reaches plans number) : number ≤ plans.length := by
  obtain ⟨index, plan, rfl, found, _⟩ := reaches
  exact (List.getElem?_eq_some_iff.mp found).1

theorem Threshold.le_iff {plans : List PaddingPlan} {limit : ℕ∞} (threshold : Threshold plans limit)
    {number : ℕ} : limit ≤ number ↔ ∃ earlier ≤ number, Reaches plans earlier := by
  constructor
  · intro within
    obtain ⟨earlier, same⟩ := ENat.ne_top_iff_exists.mp
      (ne_top_of_le_ne_top (ENat.natCast_ne_top number) within)
    rw [← same, Nat.cast_le] at within
    exact ⟨earlier, within, threshold.reached earlier same.symm⟩
  · intro found
    obtain ⟨earlier, within, reached⟩ := found
    exact (threshold.first earlier reached).trans (Nat.cast_le.mpr within)

theorem reaches_append_iff {plans : List PaddingPlan} (later : List PaddingPlan) {number : Nat}
    (within : number ≤ plans.length) : Reaches (plans ++ later) number ↔ Reaches plans number := by
  unfold Reaches
  refine exists_congr fun index => exists_congr fun plan => and_congr_right fun same => ?_
  rw [List.getElem?_append_left (by omega)]

theorem reaches_last_iff {plans : List PaddingPlan} {plan : PaddingPlan} :
    Reaches (plans ++ [plan]) (plans.length + 1) ↔ plan.stop.toNat ≤ plans.length + 1 := by
  unfold Reaches
  constructor
  · intro reaches
    obtain ⟨index, other, same, found, stopped⟩ := reaches
    obtain rfl := Nat.succ.inj same
    rw [List.getElem?_concat_length] at found
    rwa [Option.some.inj found]
  · intro stopped
    exact ⟨plans.length, plan, rfl, List.getElem?_concat_length, stopped⟩

/-- Only the last packet can reach a stop if none before it has. -/
theorem eq_last_of_reaches {plans : List PaddingPlan} {plan : PaddingPlan} {number : Nat}
    (unreached : ∀ number, ¬ Reaches plans number) (reached : Reaches (plans ++ [plan]) number) :
    number = plans.length + 1 := by
  have within := reached.le_length
  rw [List.length_append, List.length_singleton] at within
  by_contra other
  exact unreached number ((reaches_append_iff _ (by omega)).mp reached)

/-- What the writer remembers of the packets so far: their number, as long as
none has reached its stop, and otherwise the number of the first that has. -/
inductive Scheduled (plans : List PaddingPlan) (writer : ClientWriter) : Prop where
  | padded (sends : writer.sendPadding = true) (counts : writer.packetCounter.toNat = plans.length)
      (unreached : ∀ number, ¬ Reaches plans number)
  | plain (stopped : writer.sendPadding = false)
      (reached : Reaches plans writer.packetCounter.toNat)
      (unreached : ∀ number, Reaches plans number → writer.packetCounter.toNat ≤ number)

/-- A packet before the threshold has a number below a stop, which the counter
can count up to. -/
theorem counter_succ {plans : List PaddingPlan} {counter : UInt32}
    (counts : counter.toNat = plans.length) (unreached : ∀ number, ¬ Reaches plans number) :
    (counter + 1).toNat = plans.length + 1 := by
  have small : plans.length + 1 < 2 ^ 32 := by
    rcases List.eq_nil_or_concat' plans with rfl | ⟨earlier, last, rfl⟩
    · decide
    · have short := mt reaches_last_iff.mpr (unreached _)
      have bound := last.stop.toNat_lt
      rw [List.length_append, List.length_singleton]
      omega
  rw [UInt32.toNat_add, counts]
  exact Nat.mod_eq_of_lt small

/-- The packet left in records that were shaped for this number. -/
def ShapedAt (number : Nat) (before after : ClientWriter) (data : List UInt8)
    (padding : PaddingPlan) : Prop :=
  ∃ index : UInt32, index.toNat = number ∧ ∃ records,
    shapePacketPayload (before.buffer ++ data) index padding = .ok records ∧
      after = { before with
        inner := before.inner ++ records.flatten
        buffer := []
        packetCounter := index }

/-- The packet left as it is. -/
def Unshaped (before after : ClientWriter) (data : List UInt8) : Prop :=
  after.inner = before.inner ++ (before.buffer ++ data) ∧ after.buffer = [] ∧
    after.sendPadding = false

theorem writeConn_unshaped {writer : ClientWriter} (stopped : writer.sendPadding = false)
    (data : List UInt8) (padding : PaddingPlan) :
    Unshaped writer (writer.writeConn data padding).1 data ∧
      (writer.writeConn data padding).1.packetCounter = writer.packetCounter := by
  simp [ClientWriter.writeConn, stopped, ClientWriter.writeAll, Unshaped]

theorem writeConn_stops {writer : ClientWriter} (sends : writer.sendPadding = true)
    (data : List UInt8) {padding : PaddingPlan}
    (reached : padding.stop ≤ writer.packetCounter + 1) :
    Unshaped writer (writer.writeConn data padding).1 data ∧
      (writer.writeConn data padding).1.packetCounter = writer.packetCounter + 1 := by
  have stop : ¬ writer.packetCounter + 1 < padding.stop := UInt32.not_lt.mpr reached
  simp [ClientWriter.writeConn, sends, stop, ClientWriter.writeAll, Unshaped]

theorem writeConn_shaped {writer : ClientWriter} (sends : writer.sendPadding = true)
    (data : List UInt8) {padding : PaddingPlan}
    (below : writer.packetCounter + 1 < padding.stop) :
    (writer.writeConn data padding).1.sendPadding = true ∧
      (writer.writeConn data padding).1.packetCounter = writer.packetCounter + 1 ∧
      ((writer.writeConn data padding).2 = .ok () →
        ShapedAt (writer.packetCounter + 1).toNat writer (writer.writeConn data padding).1 data
          padding) := by
  simp only [ClientWriter.writeConn, sends, if_true, if_pos below, ClientWriter.writeShaped]
  cases shaped : shapePacketPayload (writer.buffer ++ data) (writer.packetCounter + 1) padding with
  | error reason => exact ⟨rfl, rfl, by simp⟩
  | ok records => exact ⟨rfl, rfl, fun _ => ⟨_, rfl, records, shaped, by rw [sends]; rfl⟩⟩

/-- One more packet. -/
theorem Scheduled.writeConn {plans : List PaddingPlan} {writer : ClientWriter}
    (scheduled : Scheduled plans writer) (data : List UInt8) (padding : PaddingPlan) :
    Scheduled (plans ++ [padding]) (writer.writeConn data padding).1 := by
  cases scheduled with
  | padded sends counts unreached =>
      have next := counter_succ counts unreached
      by_cases below : writer.packetCounter + 1 < padding.stop
      · obtain ⟨still, counter, _⟩ := writeConn_shaped sends data below
        rw [UInt32.lt_iff_toNat_lt, next] at below
        refine .padded still (by rw [counter, next, List.length_append]; rfl)
          fun number reached => ?_
        rw [eq_last_of_reaches unreached reached] at reached
        exact absurd (reaches_last_iff.mp reached) (Nat.not_le_of_lt below)
      · have stop := UInt32.not_lt.mp below
        obtain ⟨unshaped, counter⟩ := writeConn_stops sends data stop
        rw [UInt32.le_iff_toNat_le, next] at stop
        rw [← counter] at next
        refine .plain unshaped.2.2 ?_ fun number reached => ?_
        · rw [next]
          exact reaches_last_iff.mpr stop
        · rw [next, eq_last_of_reaches unreached reached]
  | plain stopped reached unreached =>
      obtain ⟨unshaped, counter⟩ := writeConn_unshaped stopped data padding
      refine .plain unshaped.2.2 ?_ fun number later => ?_
      · rw [counter]
        exact (reaches_append_iff _ reached.le_length).mpr reached
      · rw [counter]
        by_cases within : number ≤ plans.length
        · exact unreached number ((reaches_append_iff _ within).mp later)
        · have bound := reached.le_length
          omega

theorem plans_append (first second : List ConnStep) :
    plans (first ++ second) = plans first ++ plans second := List.filterMap_append

theorem scheduled_run (initialBuffer : List UInt8) (steps : List ConnStep) :
    Scheduled (plans steps) (connMachine.run (.new initialBuffer) steps) := by
  induction steps using List.reverseRecOn with
  | nil =>
      refine .padded rfl rfl fun number reached => ?_
      obtain ⟨index, plan, _, found, _⟩ := reached
      simp [plans] at found
  | append_singleton steps step ih =>
      rw [Machine.run_append, plans_append]
      cases step with
      | buffer data =>
          change Scheduled (plans steps ++ []) _
          rw [List.append_nil]
          cases ih with
          | padded sends counts unreached => exact .padded sends counts unreached
          | plain stopped reached unreached => exact .plain stopped reached unreached
      | conn data padding => exact ih.writeConn data padding

/-- Packets before the limit are shaped for their own numbers, the others leave as
they are, and the counter stands at the number of packets or at the limit. -/
structure Follows (initialBuffer : List UInt8) (steps : List ConnStep) (limit : ℕ∞) : Prop where
  shaped : ∀ past data padding, past ++ [.conn data padding] <+: steps →
    ((plans past).length + 1 : ℕ) < limit →
    ShapedAt ((plans past).length + 1) (connMachine.run (.new initialBuffer) past)
      (connMachine.run (.new initialBuffer) (past ++ [.conn data padding])) data padding
  unshaped : ∀ past data padding, past ++ [.conn data padding] <+: steps →
    limit ≤ ((plans past).length + 1 : ℕ) →
    Unshaped (connMachine.run (.new initialBuffer) past)
      (connMachine.run (.new initialBuffer) (past ++ [.conn data padding])) data
  counted : ∀ past, past <+: steps →
    ((connMachine.run (.new initialBuffer) past).packetCounter.toNat : ℕ∞) =
      min ((plans past).length : ℕ∞) limit

theorem plans_of_earlier {past steps : List ConnStep} (earlier : past <+: steps) :
    ∃ later, plans steps = plans past ++ later := by
  obtain ⟨rest, rfl⟩ := earlier
  exact ⟨plans rest, plans_append past rest⟩

section Limit

variable {steps past : List ConnStep} {limit : ℕ∞} (threshold : Threshold (plans steps) limit)
include threshold

/-- For packets of a part of the run, the limit is decided by that part. -/
theorem limit_le_iff (earlier : past <+: steps) {number : ℕ}
    (within : number ≤ (plans past).length) :
    limit ≤ number ↔ ∃ first ≤ number, Reaches (plans past) first := by
  obtain ⟨later, same⟩ := plans_of_earlier earlier
  rw [threshold.le_iff, same]
  refine exists_congr fun first => and_congr_right fun small => ?_
  exact reaches_append_iff later (small.trans within)

theorem counter_eq {writer : ClientWriter} (scheduled : Scheduled (plans past) writer)
    (earlier : past <+: steps) :
    (writer.packetCounter.toNat : ℕ∞) = min ((plans past).length : ℕ∞) limit := by
  cases scheduled with
  | padded sends counts unreached =>
      have beyond : ¬ limit ≤ (plans past).length := by
        rw [limit_le_iff threshold earlier (Nat.le_refl _)]
        intro found
        obtain ⟨first, _, reached⟩ := found
        exact unreached first reached
      rw [counts, min_eq_left (le_of_not_ge beyond)]
  | plain stopped reached unreached =>
      have within := reached.le_length
      have upper : limit ≤ writer.packetCounter.toNat :=
        (limit_le_iff threshold earlier within).mpr ⟨_, Nat.le_refl _, reached⟩
      obtain ⟨first, same⟩ := ENat.ne_top_iff_exists.mp
        (ne_top_of_le_ne_top (ENat.natCast_ne_top _) upper)
      rw [← same, Nat.cast_le] at upper
      obtain ⟨found, small, met⟩ :=
        (limit_le_iff threshold earlier (upper.trans within)).mp (le_of_eq same.symm)
      have lower := unreached found met
      have equal : writer.packetCounter.toNat = first := by omega
      rw [← same, equal, min_eq_right (Nat.cast_le.mpr (upper.trans within))]

theorem call_shaped {writer : ClientWriter} {data : List UInt8} {padding : PaddingPlan}
    (scheduled : Scheduled (plans past) writer) (earlier : past ++ [.conn data padding] <+: steps)
    (succeeded : (writer.writeConn data padding).2 = .ok ())
    (below : ((plans past).length + 1 : ℕ) < limit) :
    ShapedAt ((plans past).length + 1) writer (writer.writeConn data padding).1 data padding := by
  have known : plans (past ++ [.conn data padding]) = plans past ++ [padding] := plans_append _ _
  have within : (plans past).length + 1 ≤ (plans (past ++ [.conn data padding])).length := by
    simp [known]
  have decided := limit_le_iff threshold earlier within
  rw [known] at decided
  have unreached := mt decided.mpr (not_le_of_gt below)
  cases scheduled with
  | padded sends counts none =>
      have next := counter_succ counts none
      rw [← next]
      refine (writeConn_shaped sends data ?_).2.2 succeeded
      rw [UInt32.lt_iff_toNat_lt, next]
      by_contra stop
      exact unreached ⟨_, Nat.le_refl _, reaches_last_iff.mpr (Nat.le_of_not_lt stop)⟩
  | plain stopped reached first =>
      have within := reached.le_length
      exact absurd ⟨_, within.trans (Nat.le_succ _), (reaches_append_iff _ within).mpr reached⟩
        unreached

theorem call_unshaped {writer : ClientWriter} {data : List UInt8} {padding : PaddingPlan}
    (scheduled : Scheduled (plans past) writer) (earlier : past ++ [.conn data padding] <+: steps)
    (beyond : limit ≤ ((plans past).length + 1 : ℕ)) :
    Unshaped writer (writer.writeConn data padding).1 data := by
  have known : plans (past ++ [.conn data padding]) = plans past ++ [padding] := plans_append _ _
  rw [limit_le_iff threshold earlier (by simp [known]), known] at beyond
  cases scheduled with
  | padded sends counts none =>
      obtain ⟨number, _, reached⟩ := beyond
      rw [eq_last_of_reaches none reached, reaches_last_iff] at reached
      refine (writeConn_stops sends data ?_).1
      rw [UInt32.le_iff_toNat_le, counter_succ counts none]
      exact reached
  | plain stopped reached first => exact (writeConn_unshaped stopped data padding).1

end Limit

theorem padding_follows_schedule (initialBuffer : List UInt8) (steps : List ConnStep)
    (succeeded : ∀ result ∈ connMachine.outputs (.new initialBuffer) steps, result = .ok ()) :
    ∃ limit, Threshold (plans steps) limit ∧ Follows initialBuffer steps limit := by
  obtain ⟨limit, threshold⟩ := threshold_exists (plans steps)
  refine ⟨limit, threshold, ?_, ?_, ?_⟩
  · intro past data padding earlier below
    rw [Machine.run_append]
    exact call_shaped threshold (scheduled_run initialBuffer past) earlier
      (succeeded _ (connMachine.output_mem_outputs _ earlier)) below
  · intro past data padding earlier beyond
    rw [Machine.run_append]
    exact call_unshaped threshold (scheduled_run initialBuffer past) earlier beyond
  · intro past earlier
    exact counter_eq threshold (scheduled_run initialBuffer past) earlier

/-- A plan that leaves packets in one record. -/
def openPlan (stop : UInt32) : PaddingPlan := ⟨stop, -1, fun _ => []⟩

/-- The second packet ends padding, and the later plan does not start it again. -/
theorem sample_padding_follows_schedule :
    ∃ limit, Threshold (plans [.buffer [1], .conn [2] (openPlan 8), .conn [3] (openPlan 2),
        .conn [4] (openPlan 8)]) limit ∧
      Follows [] [.buffer [1], .conn [2] (openPlan 8), .conn [3] (openPlan 2),
        .conn [4] (openPlan 8)] limit := by
  refine padding_follows_schedule [] _ fun result member => ?_
  have emitted : connMachine.outputs (.new []) [.buffer [1], .conn [2] (openPlan 8),
      .conn [3] (openPlan 2), .conn [4] (openPlan 8)] = List.replicate 4 (.ok ()) := rfl
  rw [emitted] at member
  exact List.eq_of_mem_replicate member

end Rtunnel.Anytls.Outbound
