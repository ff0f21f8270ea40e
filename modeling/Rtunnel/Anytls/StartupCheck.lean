import Rtunnel.Anytls.Negotiation

namespace Rtunnel.Anytls

open Rtunnel.Data

/-! The two parsers of padding schemes.

An inbound reads its scheme line by line when it starts, and only for the sizes
it names.  A client reads the text that is pushed to it for the stop as well,
and refuses a text whose stop is missing or no number.
-/

structure PaddingRule where
  stage : UInt8
  min : UInt16
  max : UInt16
deriving DecidableEq

/-- Digits that are read behind a number, which has to stay below a bound. -/
def parseDigitsBelow (bound : Nat) : List Char → Nat → Except Failure Nat
  | [], value => .ok value
  | digit :: rest, value =>
      if digit.isDigit then
        let next := value * 10 + (digit.toNat - 48)
        if next < bound then parseDigitsBelow bound rest next
        else .error "number too large to fit in target type"
      else .error "invalid digit found in string"

def parseUnsigned (bound : Nat) (text : List Char) : Except Failure Nat :=
  match text with
  | [] => .error "cannot parse integer from empty string"
  | ['+'] => .error "invalid digit found in string"
  | '+' :: digits => parseDigitsBelow bound digits 0
  | digits => parseDigitsBelow bound digits 0

def parseStageNumber (text : List Char) : Except Failure UInt8 :=
  (parseUnsigned (2 ^ 8) text).map UInt8.ofNat

def parseSizeNumber (text : List Char) : Except Failure UInt16 :=
  (parseUnsigned (2 ^ 16) text).map UInt16.ofNat

/-- One part of a line; a check mark or a part without a range names no size. -/
def parsePaddingPart (stage : UInt8) (part : List Char) : Except Failure (List PaddingRule) :=
  if part = ['c'] then .ok []
  else
    match splitAtFirst '-' part with
    | none => .ok []
    | some (min, max) => do
        let min ← parseSizeNumber min
        let max ← parseSizeNumber max
        return [⟨stage, min, max⟩]

/-- One configured line.  It is not trimmed, and what `stop` is set to is not read. -/
def parsePaddingLine (line : String) : Except Failure (List PaddingRule) :=
  match splitAtFirst '=' line.toList with
  | none => .ok []
  | some (stage, spec) =>
      if stage = "stop".toList then .ok []
      else do
        let stage ← parseStageNumber stage
        let rules ← (spec.splitOn ',').mapM (parsePaddingPart stage)
        return rules.flatten

def parsePaddingScheme (lines : List String) : Except Failure (List PaddingRule) := do
  let rules ← lines.mapM parsePaddingLine
  return rules.flatten

def stopIn (line : List Char) : Option (List Char) :=
  match splitAtFirst '=' line with
  | some (key, spec) => if key = "stop".toList then some spec else none
  | none => none

/-- What a line sets `stop` to, whatever blanks are around it. -/
def stopSpec (line : String) : Option (List Char) := stopIn (trim line.toList)

def stopSpecs (lines : List String) : List (List Char) := lines.filterMap stopSpec

/-- A text that is empty, or that sets `stop` and only ever to a number of four
bytes.  For the empty text a client falls back to the default scheme. -/
def SchemeStops (configured : List String) : Prop :=
  paddingSchemeText configured = "" ∨
    stopSpecs (textLines (paddingSchemeText configured)) ≠ [] ∧
      ∀ spec ∈ stopSpecs (textLines (paddingSchemeText configured)),
        ∃ stop, parseU32 spec = .ok stop

/-- A line that sets `stop` is `stop=` and its value, with no blanks around it. -/
def StopsUnblanked (lines : List String) : Prop :=
  ∀ line ∈ lines, ∀ spec ∈ stopSpec line, line.toList = "stop=".toList ++ spec

instance (lines : List String) : Decidable (StopsUnblanked lines) :=
  inferInstanceAs (Decidable (∀ _ ∈ _, ∀ _ ∈ _, _))

/-- What the program relies on: a text whose lines that set `stop` are `stop=<n>`,
without blanks, is accepted, and the last of its numbers is its stop. -/
def PaddingUpstream.ReadsStop (upstream : PaddingUpstream) : Prop :=
  ∀ {lines : List String} {stop : UInt32}, (∀ line ∈ lines, '\n' ∉ line.toList) →
    StopsUnblanked lines → readStop none lines = .ok (some stop) →
    ∃ factory, upstream.new (paddingSchemePayload lines) = some factory ∧
      upstream.stop factory = stop

theorem readStop_of_none {line : String} (other : stopSpec line = none) (rest : List String)
    (stop : Option UInt32) : readStop stop (line :: rest) = readStop stop rest := by
  unfold stopSpec stopIn at other
  rw [readStop]
  split at other
  · rename_i key spec cut
    split at other
    · cases other
    · rename_i different
      simp only [cut, if_neg different]
  · rename_i cut
    simp only [cut]

theorem splitAtFirst_of_stopSpec {line : String} {spec : List Char}
    (set : stopSpec line = some spec) :
    splitAtFirst '=' (trim line.toList) = some ("stop".toList, spec) := by
  unfold stopSpec stopIn at set
  split at set
  · rename_i key found cut
    split at set
    · rename_i same
      cases set
      rw [cut, same]
    · cases set
  · cases set

theorem readStop_of_number {line : String} {spec : List Char} {value : UInt32}
    (set : stopSpec line = some spec) (parsed : parseU32 spec = .ok value) (rest : List String)
    (stop : Option UInt32) : readStop stop (line :: rest) = readStop (some value) rest := by
  simp only [readStop, splitAtFirst_of_stopSpec set, if_true, parsed]

theorem readStop_of_error {line : String} {spec : List Char} {reason : Failure}
    (set : stopSpec line = some spec) (parsed : parseU32 spec = .error reason)
    (rest : List String) (stop : Option UInt32) :
    readStop stop (line :: rest) = .error reason := by
  simp only [readStop, splitAtFirst_of_stopSpec set, if_true, parsed]

/-- A stop is found if there is one to start with or in the lines, and no line
sets it to something else. -/
theorem readStop_isSome_iff (lines : List String) (start : Option UInt32) :
    (∃ stop, readStop start lines = .ok (some stop)) ↔
      (start.isSome ∨ stopSpecs lines ≠ []) ∧
        ∀ spec ∈ stopSpecs lines, ∃ stop, parseU32 spec = .ok stop := by
  induction lines generalizing start with
  | nil =>
      rw [readStop]
      cases start <;> simp [stopSpecs]
  | cons line rest ih =>
      cases set : stopSpec line with
      | none =>
          have same : stopSpecs (line :: rest) = stopSpecs rest := List.filterMap_cons_none set
          rw [readStop_of_none set, same, ih]
      | some spec =>
          have more : stopSpecs (line :: rest) = spec :: stopSpecs rest :=
            List.filterMap_cons_some set
          rw [more, List.forall_mem_cons]
          cases parsed : parseU32 spec with
          | error reason => simp [readStop_of_error set parsed]
          | ok value =>
              rw [readStop_of_number set parsed, ih]
              simp only [Option.isSome_some, true_or, true_and, ne_eq, reduceCtorEq,
                not_false_eq_true, or_true, Except.ok.injEq, exists_eq']

theorem schemeStops_iff {configured : List String} :
    SchemeStops configured ↔ paddingSchemeText configured = "" ∨
      ∃ stop, readStop none (textLines (paddingSchemeText configured)) = .ok (some stop) := by
  rw [SchemeStops, readStop_isSome_iff]
  simp only [Option.isSome_none, Bool.false_eq_true, false_or]

/-- A client finds the stop of the text it is sent in the one it puts together. -/
theorem readStop_received {text : String} (filled : text ≠ "") :
    readStop none (textLines (paddingSchemeText (textLines text))) =
      readStop none (textLines text) := by
  rw [paddingSchemeText_textLines filled, readStop_rebuilt, String.ofList_toList]

theorem parsePaddingPlan_of_unblanked {upstream : PaddingUpstream} (reads : upstream.ReadsStop)
    {text : String} {stop : UInt32} (unblanked : StopsUnblanked (textLines text))
    (found : readStop none (textLines text) = .ok (some stop)) :
    ∃ factory, parsePaddingPlan upstream (textLines text) = .ok factory := by
  have unbroken : ∀ line ∈ textLines text, '\n' ∉ line.toList := by
    intro line member
    obtain ⟨cut, listed, rfl⟩ := List.mem_map.mp member
    rw [String.toList_ofList]
    exact textBreaks.lines_unbroken _ cut listed
  have filled : text ≠ "" := by
    rintro rfl
    cases found
  obtain ⟨factory, accepted, agreed⟩ := reads unbroken unblanked found
  rw [paddingSchemePayload] at accepted
  refine ⟨factory, ?_⟩
  simp only [parsePaddingPlan, accepted, readStop_received filled, found, agreed, if_true]

/-- What passes the check at startup is accepted by the clients it is pushed to
only if the configured text, should it pass, is empty or sets its stop, and sets
it to nothing but numbers.  If there are no blanks around the lines that do so,
this is enough. -/
theorem startup_check_agrees_iff {upstream : PaddingUpstream} (reads : upstream.ReadsStop)
    (configured : List String) :
    let agrees := (∃ rules, parsePaddingScheme configured = .ok rules) →
      ∃ scheme factory, ofUtf8 (paddingSchemePayload configured) = some scheme ∧
        parsePaddingPlan upstream (textLines scheme) = .ok factory
    let stops := (∃ rules, parsePaddingScheme configured = .ok rules) → SchemeStops configured
    (agrees → stops) ∧
      (StopsUnblanked (textLines (paddingSchemeText configured)) → (agrees ↔ stops)) := by
  intro agrees stops
  have pushed : ofUtf8 (paddingSchemePayload configured) =
      some (paddingSchemeText configured) := ofUtf8_utf8Bytes _
  have necessary : agrees → stops := by
    intro agreed passed
    obtain ⟨scheme, factory, sent, parsed⟩ := agreed passed
    cases pushed.symm.trans sent
    refine schemeStops_iff.mpr (or_iff_not_imp_left.mpr fun filled => ?_)
    exact ⟨_, (readStop_received filled).symm.trans (readStop_of_parsePaddingPlan parsed)⟩
  refine ⟨necessary, fun unblanked => ⟨necessary, fun stopped passed => ?_⟩⟩
  rcases schemeStops_iff.mp (stopped passed) with empty | ⟨stop, found⟩
  · have eight : readStop none (textLines defaultPaddingScheme) = .ok (some 8) := by
      decide +kernel
    obtain ⟨factory, parsed⟩ := parsePaddingPlan_of_unblanked reads (by decide +kernel) eight
    have same : paddingSchemeText (textLines "") =
        paddingSchemeText (textLines defaultPaddingScheme) := by decide +kernel
    refine ⟨_, factory, pushed, ?_⟩
    rw [empty, parsePaddingPlan, same]
    exact parsed
  · obtain ⟨factory, parsed⟩ := parsePaddingPlan_of_unblanked reads unblanked found
    exact ⟨_, factory, pushed, parsed⟩

/-- The last entry for `stop`, if it is a number; lines are taken as they are. -/
def lastStop (text : String) : Option UInt32 :=
  ((text.toList.splitOn '\n').filterMap stopIn).getLast?.bind fun spec => (parseU32 spec).toOption

/-- Texts are accepted for a last stop that is a number. -/
def stopUpstream : PaddingUpstream where
  Factory := UInt32
  new text := (ofUtf8 text).bind lastStop
  md5 _ := ""
  stop factory := factory
  recordPayloadSizes _ _ := []
  checkMark := -1
  compute _ := ""

theorem stopIn_stop (spec : List Char) : stopIn ("stop=".toList ++ spec) = some spec := rfl

theorem eq_of_stopIn {line spec : List Char} (set : stopIn line = some spec) :
    line = "stop=".toList ++ spec := by
  have joined : ∀ {line key spec : List Char}, splitAtFirst '=' line = some (key, spec) →
      line = key ++ '=' :: spec := by
    intro line
    induction line with
    | nil =>
        intro key spec cut
        cases cut
    | cons character rest ih =>
        intro key spec cut
        rw [splitAtFirst] at cut
        split at cut
        · rename_i separator
          cases cut
          rw [separator, List.nil_append]
        · obtain ⟨⟨start, found⟩, later, same⟩ := Option.map_eq_some_iff.mp cut
          cases same
          rw [List.cons_append, ← ih later]
  unfold stopIn at set
  split at set
  · rename_i key found cut
    split at set
    · rename_i same
      cases set
      rw [joined cut, same]
      rfl
    · cases set
  · cases set

/-- Blanks are cut off behind `stop=`. -/
theorem trim_stop (spec : List Char) : ∃ kept, trim ("stop=".toList ++ spec) =
    "stop=".toList ++ kept := by
  refine ⟨(spec.reverse.dropWhile isWhitespace).reverse, ?_⟩
  have front : ("stop=".toList ++ spec).dropWhile isWhitespace = "stop=".toList ++ spec := rfl
  rw [trim, front, List.reverse_append, List.dropWhile_append]
  split
  · rename_i blank
    rw [List.isEmpty_iff.mp blank]
    rfl
  · rw [List.reverse_append, List.reverse_reverse]

theorem filterMap_stopIn_eq {lines : List String} (unblanked : StopsUnblanked lines) :
    (lines.map String.toList).filterMap stopIn = stopSpecs lines := by
  rw [List.filterMap_map]
  refine List.filterMap_congr fun line member => ?_
  rw [Function.comp_apply]
  cases set : stopSpec line with
  | some spec => rw [unblanked line member spec set, stopIn_stop]
  | none =>
      cases direct : stopIn line.toList with
      | none => rfl
      | some spec =>
          obtain ⟨kept, trimmed⟩ := trim_stop spec
          rw [stopSpec, eq_of_stopIn direct, trimmed, stopIn_stop] at set
          cases set

theorem readStop_eq_getLast {lines : List String} {start stop : Option UInt32}
    (found : readStop start lines = .ok stop) :
    stop = (stopSpecs lines).getLast?.elim start fun spec => (parseU32 spec).toOption := by
  induction lines generalizing start with
  | nil =>
      cases found
      rfl
  | cons line rest ih =>
      cases set : stopSpec line with
      | none =>
          rw [readStop_of_none set] at found
          rw [stopSpecs, List.filterMap_cons_none set]
          exact ih found
      | some spec =>
          cases parsed : parseU32 spec with
          | error reason =>
              rw [readStop_of_error set parsed] at found
              cases found
          | ok value =>
              rw [readStop_of_number set parsed] at found
              rw [ih found, stopSpecs, stopSpecs, List.filterMap_cons_some set, List.getLast?_cons]
              cases (rest.filterMap stopSpec).getLast? with
              | none => rw [Option.getD_none, Option.elim_none, Option.elim_some, parsed]; rfl
              | some last => rfl

theorem lastStop_eq_some {lines : List String} {stop : UInt32}
    (unbroken : ∀ line ∈ lines, '\n' ∉ line.toList) (unblanked : StopsUnblanked lines)
    (found : readStop none lines = .ok (some stop)) :
    lastStop (paddingSchemeText lines) = some stop := by
  have filled : lines ≠ [] := by
    rintro rfl
    cases found
  have cut : (paddingSchemeText lines).toList.splitOn '\n' = lines.map String.toList := by
    rw [paddingSchemeText, if_neg filled, String.toList_ofList]
    exact List.splitOn_intercalate '\n' (List.forall_mem_map.mpr unbroken)
      (List.map_eq_nil_iff.not.mpr filled)
  have last := readStop_eq_getLast found
  rw [lastStop, cut, filterMap_stopIn_eq unblanked]
  cases ends : (stopSpecs lines).getLast? with
  | none =>
      rw [ends] at last
      cases last
  | some spec =>
      rw [ends, Option.elim_some] at last
      exact last.symm

theorem stopUpstream_new (text : String) : stopUpstream.new (utf8Bytes text) = lastStop text := by
  simp only [stopUpstream, ofUtf8_utf8Bytes, Option.bind_some]

theorem stopUpstream_readsStop : stopUpstream.ReadsStop := by
  intro lines stop unbroken unblanked found
  exact ⟨stop, (stopUpstream_new _).trans (lastStop_eq_some unbroken unblanked found), rfl⟩

theorem sample_startup_check_agrees :
    parsePaddingScheme ["stop=8", "0=30-30"] = .ok [⟨0, 30, 30⟩] ∧
      ∃ scheme factory, ofUtf8 (paddingSchemePayload ["stop=8", "0=30-30"]) = some scheme ∧
        parsePaddingPlan stopUpstream (textLines scheme) = .ok factory := by
  have accepted : parsePaddingScheme ["stop=8", "0=30-30"] = .ok [⟨0, 30, 30⟩] := by
    decide +kernel
  have stops : SchemeStops ["stop=8", "0=30-30"] :=
    schemeStops_iff.mpr (.inr ⟨8, by decide +kernel⟩)
  have unblanked : StopsUnblanked (textLines (paddingSchemeText ["stop=8", "0=30-30"])) := by
    decide +kernel
  exact ⟨accepted, ((startup_check_agrees_iff stopUpstream_readsStop _).2 unblanked).mpr
    (fun _ => stops) ⟨_, accepted⟩⟩

theorem refused_of_lastStop {lines : List String} {text : String}
    (rebuilt : paddingSchemeText lines = text) (last : lastStop text = none) :
    parsePaddingPlan stopUpstream lines = .error "invalid anytls padding scheme" := by
  have missing := (stopUpstream_new text).trans last
  simp only [parsePaddingPlan, rebuilt, missing]

/-- A scheme without stop, one whose last stop is no number, and one with a blank
behind its stop: they pass the check at startup, and a client that is sent them
refuses them and keeps its own. -/
theorem unusable_scheme_passes_startup :
    stopUpstream.ReadsStop ∧
      parsePaddingScheme ["0=30-30"] = .ok [⟨0, 30, 30⟩] ∧
      parsePaddingPlan stopUpstream (textLines (paddingSchemeText ["0=30-30"])) =
        .error "invalid anytls padding scheme" ∧
      parsePaddingScheme ["stop=8", "stop=soon"] = .ok [] ∧
      parsePaddingPlan stopUpstream (textLines (paddingSchemeText ["stop=8", "stop=soon"])) =
        .error "invalid anytls padding scheme" ∧
      sampleClient.updatePaddingScheme stopUpstream
        (paddingSchemePayload ["stop=8", "stop=soon"]) = sampleClient ∧
      parsePaddingScheme ["stop=8 ", "0=30-30"] = .ok [⟨0, 30, 30⟩] ∧
      parsePaddingPlan stopUpstream (textLines (paddingSchemeText ["stop=8 ", "0=30-30"])) =
        .error "invalid anytls padding scheme" := by
  have refused : parsePaddingPlan stopUpstream
      (textLines (paddingSchemeText ["stop=8", "stop=soon"])) =
        .error "invalid anytls padding scheme" :=
    refused_of_lastStop (show _ = "stop=8\nstop=soon" by decide +kernel) (by decide +kernel)
  refine ⟨stopUpstream_readsStop, by decide +kernel, ?_, by decide +kernel, refused, ?_,
    by decide +kernel, ?_⟩
  · exact refused_of_lastStop (show _ = "0=30-30" by decide +kernel) (by decide +kernel)
  · simp only [ClientState.updatePaddingScheme, paddingSchemePayload, ofUtf8_utf8Bytes,
      ClientState.fromPaddingScheme, refused]
  · exact refused_of_lastStop (show _ = "stop=8 \n0=30-30" by decide +kernel) (by decide +kernel)

end Rtunnel.Anytls
