import LineSieve.Dialect
import LineSieve.Pattern.Parser

/- Classification rules. A specification is what a user writes; compiling it checks the markers and
   reads the patterns, so that classification itself cannot fail. Nothing keeps a marker from being
   bytes that are no text. Such rules look at the bytes of a line, all others at its characters. -/
namespace LineSieve

/-- How a marker is written: as a string, or as any sequence of bytes. -/
class Spelling (μ : Type) (α : outParam Type) where
  letters : μ → List α

instance : Spelling String Char := ⟨String.toList⟩

instance : Spelling (List UInt8) UInt8 := ⟨id⟩

/-- Rules as written. Patterns and names are strings, since no other sequence of bytes makes a
pattern. No list of forbidden calls at all is different from an empty one. -/
structure RuleSpec (μ : Type := String) where
  lineComment : μ
  blockOpen : μ
  blockClose : μ
  sigil : μ
  licensePattern : String
  urlPattern : String
  forbiddenCalls : Option (List String)
  deriving DecidableEq, Repr

/-- Rules ready for use. Without a forbidden pattern nothing is forbidden. -/
structure Rules (α : Type := Char) where
  lineComment : List α
  blockOpen : List α
  blockClose : List α
  sigil : List α
  license : Pattern.Regex
  url : Pattern.Regex
  forbidden : Option Pattern.Regex
  deriving Repr

inductive RuleError where
  | emptyMarker (field : String)
  | blockOpenMismatch
  | badPattern (field : String) (cause : Pattern.Error)
  deriving DecidableEq, Repr

def RuleError.message : RuleError → String
  | .emptyMarker field => "rule " ++ field ++ " is empty"
  | .blockOpenMismatch => "block_open must start with line_comment"
  | .badPattern field cause => "compile " ++ field ++ ": " ++ cause.message

namespace RuleSpec

def defaultLicensePattern : String := "(?i)^--.*(copyright|license)"

def defaultUrlPattern : String := "(?i)https?://"

def defaultForbiddenCalls : List String := ["debug_log", "warn_log", "print"]

def ofDialect (dialect : Dialect) : RuleSpec where
  lineComment := dialect.lineComment
  blockOpen := dialect.blockOpen
  blockClose := dialect.blockClose
  sigil := dialect.sigil
  licensePattern := defaultLicensePattern
  urlPattern := defaultUrlPattern
  forbiddenCalls := some defaultForbiddenCalls

section

variable {μ α : Type} [Spelling μ α] [Text.Alphabet α]

def pick (below above : μ) : μ :=
  if Text.allBlank (Spelling.letters above) then below else above

/-- Lay `above` over `spec`: each field of it that says something wins. -/
def merge (spec above : RuleSpec μ) : RuleSpec μ where
  lineComment := pick spec.lineComment above.lineComment
  blockOpen := pick spec.blockOpen above.blockOpen
  blockClose := pick spec.blockClose above.blockClose
  sigil := pick spec.sigil above.sigil
  licensePattern := pick spec.licensePattern above.licensePattern
  urlPattern := pick spec.urlPattern above.urlPattern
  forbiddenCalls := above.forbiddenCalls.or spec.forbiddenCalls

/-- The names of the forbidden calls, trimmed, blank ones left out. -/
def callNames (spec : RuleSpec μ) : List (List Char) :=
  ((spec.forbiddenCalls.getD []).map fun name => Text.trim name.toList).filter (!·.isEmpty)

def callPattern (names : List (List Char)) : List Char :=
  "(?i)^\\s*(?:".toList ++ Text.join ['|'] (names.map Pattern.quote) ++ ")\\s*\\(".toList

def emptyMarker? (spec : RuleSpec μ) : Option String :=
  if (Spelling.letters spec.lineComment).isEmpty then some "line_comment"
  else if (Spelling.letters spec.blockOpen).isEmpty then some "block_open"
  else if (Spelling.letters spec.blockClose).isEmpty then some "block_close"
  else if (Spelling.letters spec.sigil).isEmpty then some "annotation_sigil"
  else none

def readPattern (field : String) (text : List Char) : Except RuleError Pattern.Regex :=
  (Pattern.Regex.parse text).mapError (RuleError.badPattern field)

/-- Check and compile: markers first, then the licence, URL and call patterns. -/
def compile [DecidableEq α] (spec : RuleSpec μ) : Except RuleError (Rules α) := do
  if let some field := spec.emptyMarker? then
    throw (.emptyMarker field)
  if !(Spelling.letters spec.lineComment).isPrefixOf (Spelling.letters spec.blockOpen) then
    throw .blockOpenMismatch
  let license ← readPattern "license_pattern" spec.licensePattern.toList
  let url ← readPattern "url_pattern" spec.urlPattern.toList
  let forbidden ←
    if spec.callNames.isEmpty then pure none
    else (readPattern "forbidden_calls" (callPattern spec.callNames)).map some
  return {
    lineComment := Spelling.letters spec.lineComment
    blockOpen := Spelling.letters spec.blockOpen
    blockClose := Spelling.letters spec.blockClose
    sigil := Spelling.letters spec.sigil
    license := license
    url := url
    forbidden := forbidden }

end

def mapMarkers {μ ν : Type} (change : μ → ν) (spec : RuleSpec μ) : RuleSpec ν :=
  { spec with
    lineComment := change spec.lineComment
    blockOpen := change spec.blockOpen
    blockClose := change spec.blockClose
    sigil := change spec.sigil }

def inBytes {μ α : Type} [Spelling μ α] [Text.Alphabet α] (spec : RuleSpec μ) :
    RuleSpec (List UInt8) :=
  spec.mapMarkers fun marker => Text.bytes (Spelling.letters marker)

/-- The specification with strings for markers, if they are all text. -/
def inText? (spec : RuleSpec (List UInt8)) : Option RuleSpec := do
  let text (marker : List UInt8) : Option String := String.fromUTF8? marker.toByteArray
  return { spec with
    lineComment := ← text spec.lineComment
    blockOpen := ← text spec.blockOpen
    blockClose := ← text spec.blockClose
    sigil := ← text spec.sigil }

end RuleSpec

/-- Rules over characters, or over bytes if a marker is no text. -/
inductive AnyRules where
  | ofText (rules : Rules)
  | ofBytes (rules : Rules UInt8)

instance : Coe Rules AnyRules := ⟨.ofText⟩

def RuleSpec.compileAny (spec : RuleSpec (List UInt8)) : Except RuleError AnyRules :=
  match spec.inText? with
  | some text => text.compile.map .ofText
  | none => spec.compile.map .ofBytes

end LineSieve
