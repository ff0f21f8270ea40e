import Rtunnel.Anytls.Outbound.Writer
import Rtunnel.Anytls.StartupCheck

namespace Rtunnel.Anytls.Outbound

open Rtunnel.Data

/-! Which schemes a client can use.

The crate draws any size between the bounds that are written in a scheme.  What
the client does with a size has a limit of 16 bits: the length of the greeting's
padding and the length of a WASTE frame.  Nothing compares the bounds with that
limit, so a scheme can be accepted and fail later.
-/

/-- The largest size that never fails.  Behind a checkpoint some of the payload
is left, so a header and at least one byte of the size are not padding. -/
def sizeLimit (behindCheck : Bool) : Nat :=
  if behindCheck then u16Max + frameHeaderLen + 1 else u16Max

def StepsFit : Bool → List GeneratedPaddingStep → Prop
  | _, [] => True
  | _, .check :: steps => StepsFit true steps
  | behindCheck, .size size :: steps => size ≤ sizeLimit behindCheck ∧ StepsFit false steps

/-- Payloads that can be left at a step. -/
def CanBeLeft (behindCheck : Bool) (payload : List UInt8) : Prop :=
  behindCheck = true → payload ≠ []

theorem encodeWasteFrame_isOk_iff {dataLen : Nat} :
    (∃ waste, encodeWasteFrame dataLen = .ok waste) ↔ dataLen ≤ u16Max := by
  constructor
  · intro encoded
    obtain ⟨waste, same⟩ := encoded
    unfold encodeWasteFrame at same
    split at same
    · assumption
    · cases same
  · intro fits
    exact ⟨_, encodeWasteFrame_eq fits⟩

theorem lastRecord_isOk_iff {payload : List UInt8} {size : Nat} :
    (∃ record, lastRecord payload size = .ok record) ↔
      size - (payload.length + frameHeaderLen) ≤ u16Max := by
  rw [← encodeWasteFrame_isOk_iff]
  unfold lastRecord
  dsimp only
  split
  · cases encodeWasteFrame (size - (payload.length + frameHeaderLen)) with
    | error reason => simp
    | ok waste => simp
  · rename_i nothing
    have zero : size - (payload.length + frameHeaderLen) = 0 := by omega
    rw [zero, encodeWasteFrame_isOk_iff]
    simp

theorem map_isOk_iff {Value Result : Type} {outcome : Except Failure Value}
    (change : Value → Result) :
    (∃ result, outcome.map change = .ok result) ↔ ∃ value, outcome = .ok value := by
  cases outcome <;> simp [Except.map]

/-- A size goes through if its own record can be made and the other steps do. -/
theorem shapeSteps_size_isOk_iff {size : Nat} {steps : List GeneratedPaddingStep}
    {payload : List UInt8} :
    (∃ records, shapeSteps (.size size :: steps) payload = .ok records) ↔
      (payload = [] → size ≤ u16Max) ∧ size - (payload.length + frameHeaderLen) ≤ u16Max ∧
        ∃ records, shapeSteps steps (payload.drop size) = .ok records := by
  rw [shapeSteps]
  by_cases more : size < payload.length
  · have some : payload ≠ [] := List.length_pos_iff.mp (Nat.zero_lt_of_lt more)
    have unpadded : size - (payload.length + frameHeaderLen) ≤ u16Max := by omega
    rw [if_pos more, map_isOk_iff]
    simp only [some, unpadded, false_implies, true_and]
  · have within := Nat.le_of_not_lt more
    rw [if_neg more, List.drop_eq_nil_of_le within]
    have own : (∃ record,
        (if payload = [] then encodeWasteFrame size else lastRecord payload size) = .ok record) ↔
          (payload = [] → size ≤ u16Max) ∧
            size - (payload.length + frameHeaderLen) ≤ u16Max := by
      by_cases empty : payload = []
      · rw [if_pos empty, encodeWasteFrame_isOk_iff]
        constructor
        · exact fun fits => ⟨fun _ => fits, by omega⟩
        · exact fun fits => fits.1 empty
      · rw [if_neg empty, lastRecord_isOk_iff]
        simp [empty]
    rw [← and_assoc, ← own]
    cases (if payload = [] then encodeWasteFrame size else lastRecord payload size) with
    | error reason => simp
    | ok record =>
        dsimp only
        rw [map_isOk_iff]
        simp

/-- The limit is what the payloads that can be left demand of a size. -/
theorem le_sizeLimit_iff {size : Nat} {behindCheck : Bool} :
    size ≤ sizeLimit behindCheck ↔ ∀ payload, CanBeLeft behindCheck payload →
      (payload = [] → size ≤ u16Max) ∧ size - (payload.length + frameHeaderLen) ≤ u16Max := by
  cases behindCheck with
  | false =>
      constructor
      · intro fits payload _
        exact ⟨fun _ => fits, (Nat.sub_le _ _).trans fits⟩
      · intro demands
        exact (demands [] (by simp [CanBeLeft])).1 rfl
  | true =>
      change size ≤ u16Max + frameHeaderLen + 1 ↔ _
      constructor
      · intro fits payload left
        have some := List.length_pos_iff.mpr (left rfl)
        exact ⟨fun empty => absurd empty (left rfl), by omega⟩
      · intro demands
        have last := (demands [0] fun _ => by simp).2
        rw [List.length_singleton] at last
        omega

/-- Any payload can be left behind a step that takes something. -/
theorem exists_drop_eq {size : Nat} (counted : 1 ≤ size) (behindCheck : Bool)
    (payload : List UInt8) :
    ∃ whole, CanBeLeft behindCheck whole ∧ whole.drop size = payload := by
  refine ⟨List.replicate size 0 ++ payload, fun _ empty => ?_,
    List.drop_left' List.length_replicate⟩
  have short := congrArg List.length empty
  rw [List.length_append, List.length_replicate, List.length_nil] at short
  omega

/-- Steps that fit are exactly those that shape whatever can be left. -/
theorem stepsFit_iff {steps : List GeneratedPaddingStep}
    (positive : ∀ size, .size size ∈ steps → 1 ≤ size) (behindCheck : Bool) :
    StepsFit behindCheck steps ↔ ∀ payload, CanBeLeft behindCheck payload →
      ∃ records, shapeSteps steps payload = .ok records := by
  induction steps generalizing behindCheck with
  | nil => exact iff_of_true trivial fun payload _ => ⟨_, rfl⟩
  | cons step steps ih =>
      have later : ∀ size, .size size ∈ steps → 1 ≤ size :=
        fun size member => positive size (List.mem_cons_of_mem _ member)
      cases step with
      | check =>
          rw [StepsFit, ih later]
          constructor
          · intro succeeds payload _
            rw [shapeSteps]
            by_cases empty : payload = []
            · exact ⟨[], if_pos empty⟩
            · rw [if_neg empty]
              exact succeeds payload fun _ => empty
          · intro succeeds payload left
            have some := left rfl
            obtain ⟨records, shaped⟩ := succeeds payload fun _ => some
            rw [shapeSteps, if_neg some] at shaped
            exact ⟨records, shaped⟩
      | size size =>
          rw [StepsFit, le_sizeLimit_iff, ih later]
          constructor
          · intro fits payload left
            obtain ⟨waste, padding⟩ := fits.1 payload left
            exact shapeSteps_size_isOk_iff.mpr ⟨waste, padding, fits.2 _ (by simp [CanBeLeft])⟩
          · intro succeeds
            refine ⟨fun payload left => ?_, fun payload _ => ?_⟩
            · obtain ⟨waste, padding, _⟩ := shapeSteps_size_isOk_iff.mp (succeeds payload left)
              exact ⟨waste, padding⟩
            · obtain ⟨whole, left, dropped⟩ :=
                exists_drop_eq (positive size List.mem_cons_self) behindCheck payload
              obtain ⟨_, _, shaped⟩ := shapeSteps_size_isOk_iff.mp (succeeds whole left)
              rwa [dropped] at shaped

theorem positive_of_mem_generate {plan : PaddingPlan} {packet : UInt32} {size : Nat}
    (member : .size size ∈ plan.generateRecordPayloadSteps packet) : 1 ≤ size := by
  obtain ⟨drawn, _, same⟩ := List.mem_filterMap.mp member
  split at same
  · cases same
  · split at same
    · cases same
      omega
    · cases same

/-- A packet is shaped whatever its payload is. -/
theorem shapePacketPayload_isOk_iff {plan : PaddingPlan} {packet : UInt32} :
    (∀ payload, ∃ records, shapePacketPayload payload packet plan = .ok records) ↔
      StepsFit false (plan.generateRecordPayloadSteps packet) := by
  have same : ∀ payload, (∃ records, shapePacketPayload payload packet plan = .ok records) ↔
      ∃ records, shapeSteps (plan.generateRecordPayloadSteps packet) payload = .ok records := by
    intro payload
    unfold shapePacketPayload
    dsimp only
    by_cases free : plan.generateRecordPayloadSteps packet = []
    · rw [if_pos free, free]
      exact iff_of_true ⟨_, rfl⟩ ⟨_, rfl⟩
    · rw [if_neg free]
  rw [stepsFit_iff (fun size member => positive_of_mem_generate member) false]
  refine forall_congr' fun payload => (same payload).trans ?_
  exact ⟨fun shaped _ => shaped, fun shaped => shaped fun wrong => by cases wrong⟩

/-- A range with positive bounds that fit into an `i32`, the smaller one first. -/
structure SizeRange where
  low : Nat
  high : Nat
  positive : 1 ≤ low
  ordered : low ≤ high
  fits : high < 2 ^ 31
deriving DecidableEq

inductive SchemePart where
  | range (sizes : SizeRange)
  | check
deriving DecidableEq

/-- The crate, and what it reads for the packets of a scheme. -/
structure DrawingUpstream extends PaddingUpstream where
  parts : Factory → UInt32 → List SchemePart
  unmarked : checkMark ≤ 0

namespace DrawingUpstream

/-- A possible outcome for one part: any size between the bounds. -/
def Draws (upstream : DrawingUpstream) : SchemePart → Int → Prop
  | .range sizes, drawn => (sizes.low : Int) ≤ drawn ∧ drawn ≤ (sizes.high : Int)
  | .check, drawn => drawn = upstream.checkMark

/-- A possible outcome for all packets of all schemes. -/
def Outcome (upstream : DrawingUpstream)
    (sizes : upstream.Factory → UInt32 → List Int) : Prop :=
  ∀ factory packet, List.Forall₂ upstream.Draws (upstream.parts factory packet)
    (sizes factory packet)

/-- The crate with one outcome of its drawing. -/
def drawing (upstream : DrawingUpstream) (sizes : upstream.Factory → UInt32 → List Int) :
    PaddingUpstream :=
  { upstream.toPaddingUpstream with recordPayloadSizes := sizes }

end DrawingUpstream

/-- No range reaches beyond the largest size that never fails. -/
def PartsFit : Bool → List SchemePart → Prop
  | _, [] => True
  | _, .check :: parts => PartsFit true parts
  | behindCheck, .range sizes :: parts => sizes.high ≤ sizeLimit behindCheck ∧ PartsFit false parts

/-- The first range for a packet. -/
def firstRange : List SchemePart → Option SizeRange
  | [] => none
  | .check :: parts => firstRange parts
  | .range sizes :: _ => some sizes

structure WithinLimits (parts : UInt32 → List SchemePart) : Prop where
  packets : ∀ packet, PartsFit false (parts packet)
  greeting : ∀ sizes, firstRange (parts 0) = some sizes → sizes.high ≤ u16Max

section Drawing

variable {upstream : DrawingUpstream}

def SchemePart.top (upstream : DrawingUpstream) : SchemePart → Int
  | .range sizes => sizes.high
  | .check => upstream.checkMark

/-- The outcome with the largest sizes. -/
def topSizes (upstream : DrawingUpstream) (factory : upstream.Factory) (packet : UInt32) :
    List Int :=
  (upstream.parts factory packet).map (SchemePart.top upstream)

theorem outcome_topSizes : upstream.Outcome (topSizes upstream) := by
  intro factory packet
  unfold topSizes
  rw [List.forall₂_map_right_iff, List.forall₂_same]
  intro part _
  cases part with
  | range sizes => exact ⟨Int.ofNat_le.mpr sizes.ordered, Int.le_refl _⟩
  | check => rfl

/-- The steps that are made of drawn sizes. -/
def stepsOf (upstream : DrawingUpstream) (drawn : List Int) : List GeneratedPaddingStep :=
  drawn.filterMap fun size =>
    if size = upstream.checkMark then some .check
    else if 0 < size then some (.size size.toNat)
    else none

theorem stepsOf_check (drawn : List Int) :
    stepsOf upstream (upstream.checkMark :: drawn) = .check :: stepsOf upstream drawn := by
  simp [stepsOf]

theorem stepsOf_size {size : Int} (positive : 0 < size) (drawn : List Int) :
    stepsOf upstream (size :: drawn) = .size size.toNat :: stepsOf upstream drawn := by
  have unmarked := upstream.unmarked
  have other : ¬ size = upstream.checkMark := by omega
  simp [stepsOf, other, positive]

theorem stepsFit_of_partsFit {parts : List SchemePart} {drawn : List Int} {behindCheck : Bool}
    (outcome : List.Forall₂ upstream.Draws parts drawn) (fit : PartsFit behindCheck parts) :
    StepsFit behindCheck (stepsOf upstream drawn) := by
  induction outcome generalizing behindCheck with
  | nil => trivial
  | @cons part size parts drawn draws rest ih =>
      cases part with
      | check =>
          cases draws
          rw [stepsOf_check]
          exact ih fit
      | range sizes =>
          have positive := sizes.positive
          have bounds : (sizes.low : Int) ≤ size ∧ size ≤ (sizes.high : Int) := draws
          rw [stepsOf_size (by omega)]
          refine ⟨?_, ih fit.2⟩
          have limit := fit.1
          omega

theorem partsFit_of_top {parts : List SchemePart} {behindCheck : Bool}
    (fit : StepsFit behindCheck (stepsOf upstream (parts.map (SchemePart.top upstream)))) :
    PartsFit behindCheck parts := by
  induction parts generalizing behindCheck with
  | nil => trivial
  | cons part parts ih =>
      cases part with
      | check =>
          rw [List.map_cons, SchemePart.top, stepsOf_check] at fit
          exact ih fit
      | range sizes =>
          have positive := sizes.positive
          have ordered := sizes.ordered
          rw [List.map_cons, SchemePart.top, stepsOf_size (by omega)] at fit
          exact ⟨fit.1, ih fit.2⟩

end Drawing

def firstSize : List GeneratedPaddingStep → Option Nat
  | [] => none
  | .check :: steps => firstSize steps
  | .size size :: _ => some size

theorem padding0Len_eq (plan : PaddingPlan) : plan.padding0Len =
    UInt16.ofNat ((firstSize (plan.generateRecordPayloadSteps 0)).getD 30) := by
  unfold PaddingPlan.padding0Len
  generalize plan.generateRecordPayloadSteps 0 = steps
  induction steps with
  | nil => rfl
  | cons step steps ih =>
      cases step with
      | check => exact ih
      | size size => rfl

/-- What a client does with an accepted scheme, whatever sizes are drawn: the
greeting is padded with the first size, and no packet fails to be shaped or
written. -/
structure Usable (upstream : DrawingUpstream) (lines : List String) : Prop where
  greeting : ∀ sizes state, upstream.Outcome sizes →
    ClientState.fromPaddingScheme (upstream.drawing sizes) lines = .ok state →
    state.padding0Len.toNat =
      (firstSize (state.paddingPlan.generateRecordPayloadSteps 0)).getD 30
  shapes : ∀ sizes state, upstream.Outcome sizes →
    ClientState.fromPaddingScheme (upstream.drawing sizes) lines = .ok state →
    ∀ packet payload, ∃ records, shapePacketPayload payload packet state.paddingPlan = .ok records
  writes : ∀ sizes state, upstream.Outcome sizes →
    ClientState.fromPaddingScheme (upstream.drawing sizes) lines = .ok state →
    ∀ (writer : ClientWriter) data, (writer.writeConn data state.paddingPlan).2 = .ok ()

section Accepted

variable {upstream : DrawingUpstream} {lines : List String} {factory : upstream.Factory}
  (accepted : parsePaddingPlan upstream.toPaddingUpstream lines = .ok factory)
include accepted

theorem fromPaddingScheme_drawing (sizes : upstream.Factory → UInt32 → List Int) :
    ClientState.fromPaddingScheme (upstream.drawing sizes) lines = .ok {
      paddingMd5 := upstream.md5 factory
      padding0Len := ((upstream.drawing sizes).plan factory).padding0Len
      paddingPlan := (upstream.drawing sizes).plan factory } := by
  have parsed : parsePaddingPlan (upstream.drawing sizes) lines = .ok factory := by
    unfold parsePaddingPlan DrawingUpstream.drawing at *
    dsimp only at accepted ⊢
    generalize upstream.new (utf8Bytes (paddingSchemeText lines)) = made at accepted ⊢
    cases made with
    | none => cases accepted
    | some found => exact accepted
  unfold ClientState.fromPaddingScheme
  rw [parsed]
  rfl

omit accepted in
theorem generate_drawing (sizes : upstream.Factory → UInt32 → List Int) (packet : UInt32) :
    ((upstream.drawing sizes).plan factory).generateRecordPayloadSteps packet =
      stepsOf upstream (sizes factory packet) := rfl

end Accepted

theorem writeConn_isOk {plan : PaddingPlan}
    (shapes : ∀ packet payload, ∃ records, shapePacketPayload payload packet plan = .ok records)
    (writer : ClientWriter) (data : List UInt8) : (writer.writeConn data plan).2 = .ok () := by
  unfold ClientWriter.writeConn
  dsimp only
  split
  · split
    · obtain ⟨records, shaped⟩ := shapes (writer.packetCounter + 1) (writer.buffer ++ data)
      simp only [ClientWriter.writeShaped, shaped]
    · rfl
  · rfl

section Greeting

variable {upstream : DrawingUpstream}

theorem firstSize_le {parts : List SchemePart} {drawn : List Int}
    (outcome : List.Forall₂ upstream.Draws parts drawn)
    (fits : ∀ sizes, firstRange parts = some sizes → sizes.high ≤ u16Max) :
    (firstSize (stepsOf upstream drawn)).getD 30 ≤ u16Max := by
  induction outcome with
  | nil => exact (by decide : 30 ≤ u16Max)
  | @cons part size parts drawn draws rest ih =>
      cases part with
      | check =>
          cases draws
          rw [stepsOf_check]
          exact ih fits
      | range sizes =>
          have positive := sizes.positive
          have bounds : (sizes.low : Int) ≤ size ∧ size ≤ (sizes.high : Int) := draws
          have limit := fits sizes rfl
          rw [stepsOf_size (by omega), firstSize, Option.getD_some]
          omega

theorem firstSize_top {parts : List SchemePart} {sizes : SizeRange}
    (first : firstRange parts = some sizes) :
    firstSize (stepsOf upstream (parts.map (SchemePart.top upstream))) = some sizes.high := by
  induction parts with
  | nil => cases first
  | cons part parts ih =>
      cases part with
      | check =>
          rw [List.map_cons, SchemePart.top, stepsOf_check]
          exact ih first
      | range other =>
          obtain rfl := Option.some.inj first
          have positive := other.positive
          have ordered := other.ordered
          rw [List.map_cons, SchemePart.top, stepsOf_size (by omega)]
          rfl

end Greeting

theorem toNat_ofNat_iff {size : Nat} : (UInt16.ofNat size).toNat = size ↔ size ≤ u16Max := by
  rw [UInt16.toNat_ofNat', u16Max]
  omega

/-- An accepted scheme is usable exactly if its ranges stay within the limits. -/
theorem scheme_is_usable_iff {upstream : DrawingUpstream} {lines : List String}
    {factory : upstream.Factory}
    (accepted : parsePaddingPlan upstream.toPaddingUpstream lines = .ok factory) :
    Usable upstream lines ↔ WithinLimits (upstream.parts factory) := by
  constructor
  · intro usable
    have state := fromPaddingScheme_drawing accepted (topSizes upstream)
    have exact := usable.greeting _ _ outcome_topSizes state
    have shapes := usable.shapes _ _ outcome_topSizes state
    refine ⟨fun packet => ?_, fun sizes first => ?_⟩
    · have fit := shapePacketPayload_isOk_iff.mp (shapes packet)
      exact partsFit_of_top fit
    · have top : firstSize (stepsOf upstream (topSizes upstream factory 0)) = some sizes.high :=
        firstSize_top first
      rw [padding0Len_eq, generate_drawing, top, Option.getD_some, toNat_ofNat_iff] at exact
      exact exact
  · intro limits
    have shapes : ∀ sizes state, upstream.Outcome sizes →
        ClientState.fromPaddingScheme (upstream.drawing sizes) lines = .ok state →
        ∀ packet payload, ∃ records,
          shapePacketPayload payload packet state.paddingPlan = .ok records := by
      intro sizes state outcome made packet
      rw [fromPaddingScheme_drawing accepted] at made
      obtain rfl := Except.ok.inj made
      refine shapePacketPayload_isOk_iff.mpr ?_
      exact stepsFit_of_partsFit (outcome factory packet) (limits.packets packet)
    refine ⟨fun sizes state outcome made => ?_, shapes, fun sizes state outcome made => ?_⟩
    · rw [fromPaddingScheme_drawing accepted] at made
      obtain rfl := Except.ok.inj made
      rw [padding0Len_eq, generate_drawing, toNat_ofNat_iff]
      exact firstSize_le (outcome factory 0) limits.greeting
    · exact writeConn_isOk (shapes sizes state outcome made)

def readRange (part : List Char) : Option SizeRange :=
  (splitAtFirst '-' part).bind fun bounds =>
    ((parseUnsigned (2 ^ 31) bounds.1).toOption).bind fun first =>
      ((parseUnsigned (2 ^ 31) bounds.2).toOption).bind fun second =>
        if valid : 1 ≤ min first second ∧ max first second < 2 ^ 31 then
          some ⟨min first second, max first second, valid.1, min_le_max, valid.2⟩
        else none

def readPart (part : List Char) : Option SchemePart :=
  if part = ['c'] then some .check else (readRange part).map .range

def readParts (spec : List Char) : List SchemePart := (spec.splitOn ',').filterMap readPart

/-- The parts that a line writes for a packet. -/
def readLine (packet : UInt32) (line : String) : Option (List SchemePart) :=
  (splitAtFirst '=' line.toList).bind fun entry =>
    if entry.1 = Nat.toDigits 10 packet.toNat then some (readParts entry.2) else none

/-- What a text writes for a packet; a later line replaces an earlier one. -/
def writtenParts (text : String) (packet : UInt32) : List SchemePart :=
  ((textLines text).reverse.findSome? (readLine packet)).getD []

/-- Texts are accepted for a last stop that is a number. -/
def readingUpstream : DrawingUpstream where
  Factory := String
  new bytes := (ofUtf8 bytes).filter fun text => (lastStop text).isSome
  md5 _ := ""
  stop text := (lastStop text).getD 0
  recordPayloadSizes _ _ := []
  checkMark := -1
  compute _ := ""
  parts := writtenParts
  unmarked := by decide

theorem readingUpstream_accepts {lines : List String} {stop : UInt32}
    (last : lastStop (paddingSchemeText lines) = some stop)
    (read : readStop none (textLines (paddingSchemeText lines)) = .ok (some stop)) :
    parsePaddingPlan readingUpstream.toPaddingUpstream lines = .ok (paddingSchemeText lines) := by
  have found : readingUpstream.new (utf8Bytes (paddingSchemeText lines)) =
      .some (paddingSchemeText lines) := by
    simp [readingUpstream, last]
  have same : stop = readingUpstream.stop (paddingSchemeText lines) := by
    simp [readingUpstream, last]
  simp only [parsePaddingPlan, found, read, if_pos same]

instance decidablePartsFit : (behindCheck : Bool) → (parts : List SchemePart) →
    Decidable (PartsFit behindCheck parts)
  | _, [] => .isTrue trivial
  | _, .check :: parts => decidablePartsFit true parts
  | _, .range _ :: parts =>
      have := decidablePartsFit false parts
      inferInstanceAs (Decidable (_ ∧ _))

/-- A packet's parts are those of a line, or there are none. -/
theorem partsFit_of_lines (text : String)
    (fit : ∀ entry ∈ (textLines text).filterMap fun line => splitAtFirst '=' line.toList,
      PartsFit false (readParts entry.2)) (packet : UInt32) :
    PartsFit false (writtenParts text packet) := by
  unfold writtenParts
  cases found : (textLines text).reverse.findSome? (readLine packet) with
  | none => trivial
  | some parts =>
      obtain ⟨line, listed, read⟩ := List.exists_of_findSome?_eq_some found
      unfold readLine at read
      obtain ⟨entry, split, chosen⟩ := Option.bind_eq_some_iff.mp read
      split at chosen
      · obtain rfl := Option.some.inj chosen
        exact fit entry (List.mem_filterMap.mpr ⟨line, List.mem_reverse.mp listed, split⟩)
      · cases chosen

def smallScheme : List String := ["stop=3", "0=30-30", "1=100-400,c,65543-500"]

theorem smallScheme_within : WithinLimits (writtenParts (paddingSchemeText smallScheme)) := by
  have fit : ∀ entry ∈ (textLines (paddingSchemeText smallScheme)).filterMap
      (fun line => splitAtFirst '=' line.toList), PartsFit false (readParts entry.2) := by
    decide +kernel
  refine ⟨partsFit_of_lines (paddingSchemeText smallScheme) fit, fun sizes first => ?_⟩
  have greeting : (firstRange (writtenParts (paddingSchemeText smallScheme) 0)).map
      SizeRange.high = some 30 := by decide +kernel
  rw [first] at greeting
  rw [Option.some.inj greeting]
  decide

theorem sample_scheme_is_usable :
    parsePaddingPlan readingUpstream.toPaddingUpstream smallScheme =
        .ok (paddingSchemeText smallScheme) ∧
      Usable readingUpstream smallScheme := by
  have read : readStop none (textLines (paddingSchemeText smallScheme)) = .ok (some 3) := by
    decide +kernel
  have accepted := readingUpstream_accepts (by decide +kernel) read
  exact ⟨accepted, (scheme_is_usable_iff accepted).mpr smallScheme_within⟩

def hugeRange : SizeRange := ⟨70000, 70000, by decide, by decide, by decide⟩

theorem topSteps_of_huge {upstream : DrawingUpstream} {factory : upstream.Factory}
    {packet : UInt32} (written : upstream.parts factory packet = [.range hugeRange]) :
    ((upstream.drawing (topSizes upstream)).plan factory).generateRecordPayloadSteps packet =
      [.size 70000] := by
  rw [generate_drawing, topSizes, written, List.map_singleton, SchemePart.top,
    stepsOf_size (by decide)]
  rfl

/-- The greeting is padded with the remainder, and a packet fails and takes the
buffered frames with it. -/
theorem write_fails_of_huge {upstream : DrawingUpstream} {lines : List String}
    {factory : upstream.Factory}
    (accepted : parsePaddingPlan upstream.toPaddingUpstream lines = .ok factory)
    (greeting : upstream.parts factory 0 = [.range hugeRange])
    (packet : upstream.parts factory 1 = [.range hugeRange]) (more : 1 < upstream.stop factory) :
    ∃ state, ClientState.fromPaddingScheme (upstream.drawing (topSizes upstream)) lines =
        .ok state ∧ state.padding0Len = 4464 ∧
      ClientWriter.writeConn ⟨[], [1, 2, 3], 0, true⟩ [4] state.paddingPlan =
        (⟨[], [], 1, true⟩, .error "anytls waste frame is too large") := by
  refine ⟨_, fromPaddingScheme_drawing accepted _, ?_, ?_⟩
  · dsimp only
    rw [padding0Len_eq, topSteps_of_huge greeting]
    rfl
  · have refused : shapePacketPayload [1, 2, 3, 4] 1
        ((upstream.drawing (topSizes upstream)).plan factory) =
          .error "anytls waste frame is too large" := by
      unfold shapePacketPayload
      rw [topSteps_of_huge packet]
      rfl
    have below : (0 : UInt32) + 1 < ((upstream.drawing (topSizes upstream)).plan factory).stop :=
      more
    have lost : ClientWriter.writeShaped ⟨[], [], 1, true⟩ [1, 2, 3, 4]
        ((upstream.drawing (topSizes upstream)).plan factory) =
          (⟨[], [], 1, true⟩, .error "anytls waste frame is too large") := by
      unfold ClientWriter.writeShaped
      rw [refused]
    simp only [ClientWriter.writeConn, if_true, if_pos below]
    exact lost

def hugeScheme : List String := ["stop=3", "0=70000-70000", "1=70000-70000"]

/-- The inbound's own check refuses the scheme, and a client accepts it. -/
theorem huge_range_loses_buffered_frames :
    parsePaddingScheme hugeScheme = .error "number too large to fit in target type" ∧
      parsePaddingPlan readingUpstream.toPaddingUpstream hugeScheme =
        .ok (paddingSchemeText hugeScheme) ∧
      readingUpstream.Outcome (topSizes readingUpstream) ∧
      (∃ state, ClientState.fromPaddingScheme (readingUpstream.drawing (topSizes readingUpstream))
          hugeScheme = .ok state ∧ state.padding0Len = 4464 ∧
        ClientWriter.writeConn ⟨[], [1, 2, 3], 0, true⟩ [4] state.paddingPlan =
          (⟨[], [], 1, true⟩, .error "anytls waste frame is too large")) ∧
      ¬ Usable readingUpstream hugeScheme := by
  have read : readStop none (textLines (paddingSchemeText hugeScheme)) = .ok (some 3) := by
    decide +kernel
  have accepted := readingUpstream_accepts (by decide +kernel) read
  have written : readingUpstream.parts (paddingSchemeText hugeScheme) 0 = [.range hugeRange] ∧
      readingUpstream.parts (paddingSchemeText hugeScheme) 1 = [.range hugeRange] := by
    decide +kernel
  have more : 1 < readingUpstream.stop (paddingSchemeText hugeScheme) := by decide +kernel
  have failed := write_fails_of_huge accepted written.1 written.2 more
  refine ⟨by decide +kernel, accepted, outcome_topSizes, failed, fun usable => ?_⟩
  obtain ⟨state, made, _, refused⟩ := failed
  have wrote := usable.writes _ _ outcome_topSizes made ⟨[], [1, 2, 3], 0, true⟩ [4]
  rw [refused] at wrote
  cases wrote

end Rtunnel.Anytls.Outbound
