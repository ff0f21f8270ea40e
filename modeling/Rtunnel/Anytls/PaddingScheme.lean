import Rtunnel.Anytls.Padding
import Rtunnel.Data.Lines

namespace Rtunnel.Anytls

open Rtunnel.Data

/-! Padding schemes as texts.

A scheme is a list of lines.  Both ends parse it, and both identify it by the
MD5 of its text: the server joins the lines it is configured with, the client
cuts the text it is sent into lines and joins them again.
-/

/-- The upstream crate that reads a scheme, and MD5 in hexadecimal. -/
structure PaddingUpstream where
  Factory : Type
  new : List UInt8 → Option Factory
  md5 : Factory → String
  stop : Factory → UInt32
  recordPayloadSizes : Factory → UInt32 → List Int
  checkMark : Int
  compute : List UInt8 → String

def defaultPaddingMd5 : String := "e872e281aa5e28149c0f6b8d36e79199"

def defaultPaddingScheme : String :=
  "stop=8\n0=30-30\n1=100-400\n2=400-500,c,500-1000,c,500-1000,c,500-1000,c,500-1000\n" ++
    "3=9-9,500-1000\n4=500-1000\n5=500-1000\n6=500-1000\n7=500-1000"

def textBreaks : Breaks Char := ⟨'\n', '\r', by decide⟩

/-- What the program relies on: a factory's digest is the MD5 of the bytes it was
made of, digests are one line, and a text is read alike without the break at its
end and the returns before its breaks. -/
structure PaddingUpstream.Lawful (upstream : PaddingUpstream) : Prop where
  md5_new : ∀ {text : List UInt8} {factory : upstream.Factory},
    upstream.new text = some factory → upstream.md5 factory = upstream.compute text
  compute_unbroken : ∀ text : List UInt8, newline ∉ utf8Bytes (upstream.compute text)
  new_lines : ∀ {text : List Char} {factory : upstream.Factory},
    upstream.new (utf8Bytes (String.ofList text)) = some factory →
    ∃ other, upstream.new (utf8Bytes (String.ofList (textBreaks.join (textBreaks.lines text)))) =
      some other ∧ upstream.stop other = upstream.stop factory

/-- The lines of a text, as `str::lines` gives them. -/
def textLines (text : String) : List String := (textBreaks.lines text.toList).map String.ofList

def paddingSchemeText (lines : List String) : String :=
  if lines = [] then defaultPaddingScheme
  else String.ofList (textBreaks.join (lines.map String.toList))

def paddingSchemePayload (lines : List String) : List UInt8 := utf8Bytes (paddingSchemeText lines)

def paddingSchemeMd5 (upstream : PaddingUpstream) (lines : List String) : String :=
  if lines = [] then defaultPaddingMd5
  else
    match upstream.new (paddingSchemePayload lines) with
    | some factory => upstream.md5 factory
    | none => upstream.compute (paddingSchemePayload lines)

/-- The characters with the Unicode property `White_Space`. -/
def isWhitespace (character : Char) : Bool :=
  let code := character.toNat
  (9 ≤ code && code ≤ 13) || code = 32 || code = 0x85 || code = 0xA0 || code = 0x1680 ||
    (0x2000 ≤ code && code ≤ 0x200A) || code = 0x2028 || code = 0x2029 || code = 0x202F ||
    code = 0x205F || code = 0x3000

def trim (text : List Char) : List Char :=
  ((text.dropWhile isWhitespace).reverse.dropWhile isWhitespace).reverse

def splitAtFirst (separator : Char) : List Char → Option (List Char × List Char)
  | [] => none
  | character :: rest =>
      if character = separator then some ([], rest)
      else (splitAtFirst separator rest).map fun (key, spec) => (character :: key, spec)

def parseDecimal : List Char → Nat → Except Failure Nat
  | [], value => .ok value
  | digit :: rest, value =>
      if digit.isDigit then
        let next := value * 10 + (digit.toNat - 48)
        if next < 2 ^ 32 then parseDecimal rest next
        else .error "number too large to fit in target type"
      else .error "invalid digit found in string"

/-- A decimal number of four bytes; a plus sign may stand before the digits. -/
def parseU32 (text : List Char) : Except Failure UInt32 :=
  match text with
  | [] => .error "cannot parse integer from empty string"
  | ['+'] => .error "invalid digit found in string"
  | '+' :: digits => (parseDecimal digits 0).map UInt32.ofNat
  | digits => (parseDecimal digits 0).map UInt32.ofNat

/-- The last `stop` of a scheme; one that is no number fails. -/
def readStop : Option UInt32 → List String → Except Failure (Option UInt32)
  | stop, [] => .ok stop
  | stop, line :: rest =>
      match splitAtFirst '=' (trim line.toList) with
      | none => readStop stop rest
      | some (key, spec) =>
          if key = "stop".toList then
            match parseU32 spec with
            | .ok value => readStop (some value) rest
            | .error reason => .error reason
          else readStop stop rest

/-- The plan of a scheme is held by its factory; that is what shapes packets. -/
def parsePaddingPlan (upstream : PaddingUpstream) (lines : List String) :
    Except Failure upstream.Factory :=
  let text := paddingSchemeText lines
  match upstream.new (utf8Bytes text) with
  | none => .error "invalid anytls padding scheme"
  | some factory =>
      match readStop none (textLines text) with
      | .error reason => .error reason
      | .ok none => .error "padding scheme missing stop"
      | .ok (some stop) =>
          if stop = upstream.stop factory then .ok factory
          else .error "padding scheme stop does not match upstream parser"

def PaddingUpstream.plan (upstream : PaddingUpstream) (factory : upstream.Factory) :
    PaddingPlan where
  stop := upstream.stop factory
  checkMark := upstream.checkMark
  recordPayloadSizes := upstream.recordPayloadSizes factory

/-- The first size drawn for the client's greeting. -/
def PaddingPlan.padding0Len (plan : PaddingPlan) : UInt16 :=
  match (plan.generateRecordPayloadSteps 0).findSome? fun
    | .size value => some value
    | .check => none with
  | some value => UInt16.ofNat value
  | none => 30

structure ClientState where
  paddingMd5 : String
  padding0Len : UInt16
  paddingPlan : PaddingPlan

namespace ClientState

def fromPaddingScheme (upstream : PaddingUpstream) (lines : List String) :
    Except Failure ClientState :=
  match parsePaddingPlan upstream lines with
  | .error reason => .error reason
  | .ok factory => .ok {
      paddingMd5 := upstream.md5 factory
      padding0Len := (upstream.plan factory).padding0Len
      paddingPlan := upstream.plan factory }

/-- The frame reader's answer to CMD_UPDATE_PADDING_SCHEME: a scheme that is no
text or does not parse is ignored. -/
def updatePaddingScheme (upstream : PaddingUpstream) (state : ClientState)
    (data : List UInt8) : ClientState :=
  match ofUtf8 data with
  | none => state
  | some scheme =>
      match fromPaddingScheme upstream (textLines scheme) with
      | .ok updated => updated
      | .error _ => state

/-- What the next session of the client sends first. -/
def settings (state : ClientState) : List UInt8 := clientSettingsWithPaddingMd5 state.paddingMd5

end ClientState

end Rtunnel.Anytls
