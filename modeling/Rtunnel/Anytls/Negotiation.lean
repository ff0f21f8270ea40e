import Rtunnel.Anytls.Inbound.Serve
import Rtunnel.Anytls.PaddingScheme

namespace Rtunnel.Anytls

open Rtunnel.Data

/-! Agreeing on a padding scheme.

An inbound sends its scheme to a client that names another digest.  The client
takes the scheme over, line by line, and names the digest of the lines joined in
the settings of its next session.  The inbound is content if that is the text it
sent, and for that the text must be its own lines joined.
-/

theorem paddingSchemeText_textLines {text : String} (filled : text ≠ "") :
    paddingSchemeText (textLines text) =
      String.ofList (textBreaks.join (textBreaks.lines text.toList)) := by
  have some : text.toList ≠ [] := String.toList_eq_nil_iff.not.mpr filled
  have cut : textLines text ≠ [] := by
    unfold textLines
    rw [ne_eq, List.map_eq_nil_iff]
    exact textBreaks.splitFrom_ne_nil (.inr some)
  have same : (textLines text).map String.toList = textBreaks.lines text.toList := by
    unfold textLines
    rw [List.map_map]
    exact (List.map_congr_left fun line _ => String.toList_ofList).trans (List.map_id _)
  rw [paddingSchemeText, if_neg cut, same]

/-- The client ends up with the text it was sent exactly if that is plain. -/
theorem paddingSchemeText_textLines_eq_iff {text : String} (filled : text ≠ "") :
    paddingSchemeText (textLines text) = text ↔ textBreaks.Plain text.toList := by
  rw [paddingSchemeText_textLines filled, ← textBreaks.join_lines_eq_iff]
  constructor
  · intro same
    have lists := congrArg String.toList same
    rw [String.toList_ofList] at lists
    exact lists
  · intro same
    rw [same, String.ofList_toList]

theorem trim_append_whitespace {character : Char} (blank : isWhitespace character = true)
    (text : List Char) : trim (text ++ [character]) = trim text := by
  unfold trim
  rw [List.dropWhile_append]
  by_cases gone : text.dropWhile isWhitespace = []
  · simp [gone, blank]
  · simp [gone, blank]

theorem trim_ended (line : List Char) : trim (textBreaks.ended line) = trim line := by
  unfold Breaks.ended
  split
  · rename_i returned
    obtain ⟨start, rfl⟩ := List.getLast?_eq_some_iff.mp returned
    rw [List.dropLast_concat]
    exact (trim_append_whitespace (by decide) start).symm
  · rfl

/-- A line counts only by what is left of it after trimming. -/
theorem readStop_cons_congr {first second : List Char} (same : trim first = trim second)
    {texts others : List String}
    (rest : ∀ stop, readStop stop texts = readStop stop others) (stop : Option UInt32) :
    readStop stop (String.ofList first :: texts) =
      readStop stop (String.ofList second :: others) := by
  simp only [readStop, String.toList_ofList, same, rest]

theorem readStop_lines_join (texts : List (List Char))
    (unbroken : ∀ line ∈ texts, textBreaks.newline ∉ line) (stop : Option UInt32) :
    readStop stop ((textBreaks.lines (textBreaks.join texts)).map String.ofList) =
      readStop stop (texts.map String.ofList) := by
  induction texts generalizing stop with
  | nil => rfl
  | cons line texts ih =>
      obtain ⟨first, others⟩ := List.forall_mem_cons.mp unbroken
      have rest := ih others
      by_cases more : texts = []
      · subst more
        rw [textBreaks.lines_join_single first]
        by_cases empty : line = []
        · subst empty
          rfl
        · rw [if_neg empty]
      · rw [textBreaks.lines_join_cons first more, List.map_cons, List.map_cons]
        exact readStop_cons_congr (trim_ended line) rest stop

theorem readStop_rebuilt (text : List Char) (stop : Option UInt32) :
    readStop stop (textLines (String.ofList (textBreaks.join (textBreaks.lines text)))) =
      readStop stop (textLines (String.ofList text)) := by
  unfold textLines
  rw [String.toList_ofList, String.toList_ofList]
  exact readStop_lines_join _ (textBreaks.lines_unbroken text) stop

section Schemes

variable {upstream : PaddingUpstream} {factory : upstream.Factory} {lines : List String}

theorem new_of_parsePaddingPlan (parsed : parsePaddingPlan upstream lines = .ok factory) :
    upstream.new (paddingSchemePayload lines) = some factory := by
  unfold parsePaddingPlan at parsed
  dsimp only at parsed
  split at parsed
  · cases parsed
  · rename_i found accepted
    split at parsed
    · cases parsed
    · cases parsed
    · split at parsed
      · cases parsed
        exact accepted
      · cases parsed

theorem readStop_of_parsePaddingPlan (parsed : parsePaddingPlan upstream lines = .ok factory) :
    readStop none (textLines (paddingSchemeText lines)) = .ok (some (upstream.stop factory)) := by
  unfold parsePaddingPlan at parsed
  dsimp only at parsed
  split at parsed
  · cases parsed
  · split at parsed
    · cases parsed
    · cases parsed
    · rename_i stop read
      split at parsed
      · rename_i same
        cases parsed
        rw [read, same]
      · cases parsed

/-- A scheme that parses names a stop, so it is not empty. -/
theorem text_ne_empty_of_parsePaddingPlan (parsed : parsePaddingPlan upstream lines = .ok factory) :
    paddingSchemeText lines ≠ "" := by
  intro empty
  have read := readStop_of_parsePaddingPlan parsed
  rw [empty] at read
  cases read

theorem paddingSchemeMd5_of_parsePaddingPlan (lawful : upstream.Lawful)
    (default : lines = [] → upstream.compute (utf8Bytes defaultPaddingScheme) = defaultPaddingMd5)
    (parsed : parsePaddingPlan upstream lines = .ok factory) :
    paddingSchemeMd5 upstream lines = upstream.compute (paddingSchemePayload lines) := by
  unfold paddingSchemeMd5
  split
  · rename_i empty
    rw [paddingSchemePayload, paddingSchemeText, if_pos empty, default empty]
  · rw [new_of_parsePaddingPlan parsed]
    exact lawful.md5_new (new_of_parsePaddingPlan parsed)

namespace ClientState

theorem md5_of_fromPaddingScheme (lawful : upstream.Lawful) {state : ClientState}
    (made : fromPaddingScheme upstream lines = .ok state) :
    state.paddingMd5 = upstream.compute (paddingSchemePayload lines) := by
  unfold fromPaddingScheme at made
  split at made
  · cases made
  · rename_i factory parsed
    cases made
    exact lawful.md5_new (new_of_parsePaddingPlan parsed)

/-- The client takes over a scheme that the inbound could parse. -/
theorem fromPaddingScheme_textLines (lawful : upstream.Lawful) {configured : List String}
    (parsed : parsePaddingPlan upstream configured = .ok factory) :
    ∃ updated,
      fromPaddingScheme upstream (textLines (paddingSchemeText configured)) = .ok updated := by
  have rebuilt := paddingSchemeText_textLines (text_ne_empty_of_parsePaddingPlan parsed)
  have configuredNew := new_of_parsePaddingPlan parsed
  rw [paddingSchemePayload, ← String.ofList_toList (s := paddingSchemeText configured)]
    at configuredNew
  obtain ⟨other, accepted, sameStop⟩ := lawful.new_lines configuredNew
  have read : readStop none (textLines (paddingSchemeText
      (textLines (paddingSchemeText configured)))) = .ok (some (upstream.stop other)) := by
    rw [rebuilt, readStop_rebuilt, String.ofList_toList, sameStop]
    exact readStop_of_parsePaddingPlan parsed
  rw [← rebuilt] at accepted
  simp only [fromPaddingScheme, parsePaddingPlan, accepted, read, if_true, Except.ok.injEq,
    exists_eq']

/-- The client names the digest of the text it put together. -/
theorem updatePaddingScheme_md5 (lawful : upstream.Lawful) {configured : List String}
    (parsed : parsePaddingPlan upstream configured = .ok factory) (client : ClientState) :
    (client.updatePaddingScheme upstream (paddingSchemePayload configured)).paddingMd5 =
      upstream.compute (paddingSchemePayload (textLines (paddingSchemeText configured))) := by
  have decoded : ofUtf8 (paddingSchemePayload configured) =
      some (paddingSchemeText configured) := ofUtf8_utf8Bytes _
  obtain ⟨updated, made⟩ := fromPaddingScheme_textLines lawful parsed
  simp only [updatePaddingScheme, decoded, made]
  exact md5_of_fromPaddingScheme lawful made

end ClientState

end Schemes

theorem splitLines_unbroken {line text : List UInt8} (unbroken : newline ∉ text)
    (pending : line ≠ []) : splitLines line text = [line ++ text] := by
  induction text generalizing line with
  | nil => simp [splitLines, pending]
  | cons byte rest ih =>
      rw [List.mem_cons, not_or] at unbroken
      have later := ih unbroken.2 (show line ++ [byte] ≠ [] by simp)
      rw [List.append_assoc, List.singleton_append] at later
      simpa only [splitLines, Ne.symm unbroken.1, if_false] using later

theorem utf8Bytes_append (first second : String) :
    utf8Bytes (first ++ second) = utf8Bytes first ++ utf8Bytes second := by
  simp [utf8Bytes, String.toByteArray_append]

theorem splitOnce_append {name : List UInt8} (absent : equalsSign ∉ name) (value : List UInt8) :
    splitOnce equalsSign (name ++ equalsSign :: value) = some (name, value) := by
  induction name with
  | nil => simp [splitOnce]
  | cons byte name ih =>
      rw [List.mem_cons, not_or] at absent
      simp [splitOnce, Ne.symm absent.1, ih absent.2]

/-- The inbound reads the digest that the client names. -/
theorem settingsValue_clientSettings {paddingMd5 : String}
    (unbroken : newline ∉ utf8Bytes paddingMd5) :
    settingsValue (clientSettingsWithPaddingMd5 paddingMd5) "padding-md5" =
      some (utf8Bytes paddingMd5) := by
  have text : clientSettingsWithPaddingMd5 paddingMd5 =
      utf8Bytes "v=2\nclient=rtunnel\npadding-md5=" ++ utf8Bytes paddingMd5 :=
    utf8Bytes_append _ _
  have valid : (ofUtf8 (clientSettingsWithPaddingMd5 paddingMd5)).isSome = true := by
    rw [clientSettingsWithPaddingMd5, ofUtf8_utf8Bytes]
    rfl
  have cut : lines (clientSettingsWithPaddingMd5 paddingMd5) =
      utf8Bytes "v=2" :: utf8Bytes "client=rtunnel" ::
        splitLines (utf8Bytes "padding-md5=") (utf8Bytes paddingMd5) := by
    rw [text]
    rfl
  have last : utf8Bytes "padding-md5=" ++ utf8Bytes paddingMd5 =
      utf8Bytes "padding-md5" ++ equalsSign :: utf8Bytes paddingMd5 := rfl
  have version : splitOnce equalsSign (utf8Bytes "v=2") = some (utf8Bytes "v", utf8Bytes "2") := by
    decide +kernel
  have client : splitOnce equalsSign (utf8Bytes "client=rtunnel") =
      some (utf8Bytes "client", utf8Bytes "rtunnel") := by
    decide +kernel
  have digest := splitOnce_append (show equalsSign ∉ utf8Bytes "padding-md5" by decide +kernel)
    (utf8Bytes paddingMd5)
  have others : utf8Bytes "v" ≠ utf8Bytes "padding-md5" ∧
      utf8Bytes "client" ≠ utf8Bytes "padding-md5" := by
    decide +kernel
  rw [settingsValue, if_pos valid, cut, splitLines_unbroken unbroken (by decide +kernel), last]
  simp only [List.findSome?_cons, version, client, digest, others.1, others.2, if_false, if_true]

namespace Inbound

theorem SessionLoop.writeFrame_ok (loop : SessionLoop) (command : FrameCommand)
    (streamId : UInt32) {data : List UInt8} (fits : data.length ≤ u16Max) :
    loop.writeFrame (.ok ()) command streamId data =
      (loop.emit (.reply ⟨command, streamId, data, fits⟩), .ok ()) := by
  rw [writeFrame, dif_pos fits]

/-- Before it compares digests, the inbound has at most greeted the client. -/
theorem handleSettings_greeting (config : Config) (read : Frame) :
    ∃ loop : SessionLoop, (∀ effect ∈ loop.trace, ∀ reply : Frame, effect = .reply reply →
        reply.command = .serverSettings) ∧
      (SessionLoop.new.emit (.received read)).handleSettings config .fine read =
        if settingsValue read.data "padding-md5" ≠ some (utf8Bytes config.serverPaddingMd5) then
          loop.writeFrame (.ok ()) .updatePaddingScheme 0 config.serverPaddingScheme
        else (loop, .ok ()) := by
  have greeting : serverSettings.length ≤ u16Max := by decide +kernel
  by_cases version : ((SessionLoop.new.emit (.received read)).noteSettings read.data).clientV2
  · refine ⟨((SessionLoop.new.emit (.received read)).noteSettings read.data).emit
      (.reply ⟨.serverSettings, 0, serverSettings, greeting⟩), ?_, ?_⟩
    · intro effect member reply same
      subst same
      simp only [SessionLoop.emit, SessionLoop.noteSettings, SessionLoop.new, List.nil_append,
        List.cons_append, List.mem_cons, reduceCtorEq, Effect.reply.injEq, List.not_mem_nil,
        or_false, false_or] at member
      rw [member]
    · simp only [SessionLoop.handleSettings, version, if_true, Answers.fine,
        SessionLoop.writeFrame_ok _ _ _ greeting, Attempt.andThen_ok]
  · refine ⟨(SessionLoop.new.emit (.received read)).noteSettings read.data, ?_, ?_⟩
    · intro effect member reply same
      subst same
      simp [SessionLoop.emit, SessionLoop.noteSettings, SessionLoop.new] at member
    · simp only [SessionLoop.handleSettings, version, Answers.fine]
      rfl

/-- An inbound that answers the settings sends its scheme exactly if they name
another digest. -/
theorem scheme_sent_iff {config : Config} (fits : config.serverPaddingScheme.length ≤ u16Max)
    {read : Frame} (command : read.command = .settings) :
    Effect.reply ⟨.updatePaddingScheme, 0, config.serverPaddingScheme, fits⟩ ∈
        ((sessionMachine config).next .new (.frame read .fine)).trace ↔
      settingsValue read.data "padding-md5" ≠ some (utf8Bytes config.serverPaddingMd5) := by
  obtain ⟨loop, greeted, handled⟩ := handleSettings_greeting config read
  rw [SessionLoop.next_frame config rfl, SessionLoop.handleFrame_settings config command, handled]
  by_cases differs : settingsValue read.data "padding-md5" ≠
      some (utf8Bytes config.serverPaddingMd5)
  · rw [if_pos differs, loop.writeFrame_ok .updatePaddingScheme 0 fits]
    refine iff_of_true ?_ differs
    exact List.mem_append_right _ List.mem_cons_self
  · rw [if_neg differs]
    refine iff_of_false (fun sent => ?_) differs
    have command := greeted _ sent _ rfl
    cases command

end Inbound

/-- A client that was sent the configured scheme names its digest in the next
session, and is not sent it again, exactly if the configured text is plain.  Only
where no scheme is configured does this rest on the known default digest. -/
theorem padding_scheme_is_settled_iff {upstream : PaddingUpstream} (lawful : upstream.Lawful)
    {configured : List String} {factory : upstream.Factory}
    (default : configured = [] →
      upstream.compute (utf8Bytes defaultPaddingScheme) = defaultPaddingMd5)
    (parsed : parsePaddingPlan upstream configured = .ok factory)
    (fits : (paddingSchemePayload configured).length ≤ u16Max)
    (collisionFree :
      upstream.compute (paddingSchemePayload (textLines (paddingSchemeText configured))) =
        upstream.compute (paddingSchemePayload configured) →
      paddingSchemeText (textLines (paddingSchemeText configured)) =
        paddingSchemeText configured)
    (client : ClientState) (tag : String) (read : Frame) (command : read.command = .settings)
    (next : read.data =
      (client.updatePaddingScheme upstream (paddingSchemePayload configured)).settings) :
    let config : Inbound.Config :=
      ⟨tag, paddingSchemeMd5 upstream configured, paddingSchemePayload configured⟩
    (settingsValue read.data "padding-md5" =
        some (utf8Bytes (paddingSchemeMd5 upstream configured)) ↔
      textBreaks.Plain (paddingSchemeText configured).toList) ∧
    (Inbound.Effect.reply ⟨.updatePaddingScheme, 0, paddingSchemePayload configured, fits⟩ ∉
        ((Inbound.sessionMachine config).next .new (.frame read .fine)).trace ↔
      textBreaks.Plain (paddingSchemeText configured).toList) := by
  intro config
  have named : settingsValue read.data "padding-md5" = some (utf8Bytes (upstream.compute
      (paddingSchemePayload (textLines (paddingSchemeText configured))))) := by
    rw [next, ClientState.settings, ClientState.updatePaddingScheme_md5 lawful parsed]
    exact settingsValue_clientSettings (lawful.compute_unbroken _)
  have agreed : settingsValue read.data "padding-md5" =
        some (utf8Bytes (paddingSchemeMd5 upstream configured)) ↔
      textBreaks.Plain (paddingSchemeText configured).toList := by
    rw [named, ← paddingSchemeText_textLines_eq_iff (text_ne_empty_of_parsePaddingPlan parsed),
      paddingSchemeMd5_of_parsePaddingPlan lawful default parsed, Option.some.injEq]
    constructor
    · intro same
      have digests := congrArg ofUtf8 same
      rw [ofUtf8_utf8Bytes, ofUtf8_utf8Bytes, Option.some.injEq] at digests
      exact collisionFree digests
    · intro same
      rw [paddingSchemePayload, same, paddingSchemePayload]
  refine ⟨agreed, ?_⟩
  have sent : Inbound.Effect.reply
        ⟨.updatePaddingScheme, 0, paddingSchemePayload configured, fits⟩ ∈
        ((Inbound.sessionMachine config).next .new (.frame read .fine)).trace ↔
      settingsValue read.data "padding-md5" ≠
        some (utf8Bytes (paddingSchemeMd5 upstream configured)) :=
    Inbound.scheme_sent_iff fits command
  rw [sent, not_not]
  exact agreed

/-- The scheme as a file with carriage returns would give it. -/
def returnedScheme : List String := ["stop=8\r", "0=30-30"]

/-- The MD5 of the texts that samples use. -/
def sampleMd5 (text : List UInt8) : String :=
  if text = paddingSchemePayload returnedScheme then "4c406477e9651db499dd6ee1c5b1ff16"
  else if text = paddingSchemePayload ["stop=8", "0=30-30"] then
    "4832d8ecb6b1c8c2949de7c8ec6a373d"
  else if text = paddingSchemePayload ["stop=8"] then "7e525c516aa9fd5e4219edf63adff720"
  else ""

/-- Every text is accepted and stops at eight. -/
def sampleUpstream : PaddingUpstream where
  Factory := List UInt8
  new := some
  md5 := sampleMd5
  stop := fun _ => 8
  recordPayloadSizes := fun _ _ => [30]
  checkMark := -1
  compute := sampleMd5

theorem sampleUpstream_lawful : sampleUpstream.Lawful where
  md5_new accepted := by
    cases accepted
    rfl
  compute_unbroken text := by
    simp only [sampleUpstream, sampleMd5]
    split
    · decide +kernel
    · split
      · decide +kernel
      · split <;> decide +kernel
  new_lines _ := ⟨_, rfl, rfl⟩

theorem sampleUpstream_parsePaddingPlan {lines : List String}
    (stop : readStop none (textLines (paddingSchemeText lines)) = .ok (some 8)) :
    parsePaddingPlan sampleUpstream lines = .ok (paddingSchemePayload lines) := by
  simp only [parsePaddingPlan, stop]
  rfl

def sampleClient : ClientState := ⟨defaultPaddingMd5, 30, ⟨8, -1, fun _ => [30]⟩⟩

/-- The greeting of the session after the scheme was sent. -/
def greetingAfter (configured : List String) (fits : (sampleClient.updatePaddingScheme
    sampleUpstream (paddingSchemePayload configured)).settings.length ≤ u16Max) : Frame :=
  ⟨.settings, 0, _, fits⟩

theorem single_line_is_settled :
    parsePaddingPlan sampleUpstream ["stop=8"] = .ok (paddingSchemePayload ["stop=8"]) ∧
    settingsValue (greetingAfter ["stop=8"] (by decide +kernel)).data "padding-md5" =
      some (utf8Bytes (paddingSchemeMd5 sampleUpstream ["stop=8"])) ∧
    Inbound.Effect.reply ⟨.updatePaddingScheme, 0, paddingSchemePayload ["stop=8"],
        by decide +kernel⟩ ∉
      ((Inbound.sessionMachine ⟨"in", paddingSchemeMd5 sampleUpstream ["stop=8"],
        paddingSchemePayload ["stop=8"]⟩).next .new
          (.frame (greetingAfter ["stop=8"] (by decide +kernel)) .fine)).trace := by
  have parsed : parsePaddingPlan sampleUpstream ["stop=8"] =
      .ok (paddingSchemePayload ["stop=8"]) :=
    sampleUpstream_parsePaddingPlan (by decide +kernel)
  have plain : textBreaks.Plain (paddingSchemeText ["stop=8"]).toList := by decide +kernel
  have settled := padding_scheme_is_settled_iff sampleUpstream_lawful (by decide) parsed
    (by decide +kernel) (fun _ => (paddingSchemeText_textLines_eq_iff
      (text_ne_empty_of_parsePaddingPlan parsed)).2 plain)
    sampleClient "in" (greetingAfter ["stop=8"] (by decide +kernel)) rfl rfl
  exact ⟨parsed, settled.1.2 plain, settled.2.2 plain⟩

theorem carriage_return_is_never_settled :
    sampleUpstream.Lawful ∧
    parsePaddingPlan sampleUpstream returnedScheme = .ok (paddingSchemePayload returnedScheme) ∧
    settingsValue (greetingAfter returnedScheme (by decide +kernel)).data "padding-md5" ≠
      some (utf8Bytes (paddingSchemeMd5 sampleUpstream returnedScheme)) ∧
    Inbound.Effect.reply ⟨.updatePaddingScheme, 0, paddingSchemePayload returnedScheme,
        by decide +kernel⟩ ∈
      ((Inbound.sessionMachine ⟨"in", paddingSchemeMd5 sampleUpstream returnedScheme,
        paddingSchemePayload returnedScheme⟩).next .new
          (.frame (greetingAfter returnedScheme (by decide +kernel)) .fine)).trace := by
  have differs : settingsValue (greetingAfter returnedScheme (by decide +kernel)).data
      "padding-md5" ≠ some (utf8Bytes (paddingSchemeMd5 sampleUpstream returnedScheme)) := by
    decide +kernel
  exact ⟨sampleUpstream_lawful, sampleUpstream_parsePaddingPlan (by decide +kernel), differs,
    (Inbound.scheme_sent_iff (by decide +kernel) rfl).2 differs⟩

end Rtunnel.Anytls
