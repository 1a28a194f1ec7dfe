import LineSieve.Fault
import LineSieve.Selection.Walk
import LineSieve.Verify
import LineSieve.Yaml.Printer

/- The configuration: its default, what makes it valid, and its written form. -/
namespace LineSieve

/-- Which files are selected. A list that nothing sets is missing, which counts as empty. -/
structure ScanOptions where
  excludes : Option (List String)
  includes : Option (List String)
  excludeTests : Bool
  useIgnoreFile : Bool
  deriving DecidableEq, Repr

structure VerifyOptions where
  patterns : Option (List String)
  extensions : Option (List String)
  deriving DecidableEq, Repr

structure Config (μ : Type := String) where
  workers : Int
  encodings : Option (List String)
  dialect : String
  rules : RuleSpec μ
  scan : ScanOptions
  verify : VerifyOptions
  logging : Log.Options
  deriving DecidableEq, Repr

namespace Config

def default : Config where
  workers := 0
  encodings := some Decoder.defaultNames
  dialect := Dialect.lua.name
  rules := .ofDialect .lua
  scan := ⟨some [], some [], true, true⟩
  verify := ⟨some Verify.defaultPatterns, some Verify.defaultExtensions⟩
  logging := .default

def shown (config : Config (List UInt8)) : Config :=
  { config with
    rules := config.rules.mapMarkers fun marker => String.ofList (Text.chars marker) }

instance : Coe (Config (List UInt8)) Config := ⟨shown⟩

section

variable {μ α : Type} [Spelling μ α] [Text.Alphabet α] (config : Config μ)

/-- The rules of the dialect with those of the configuration laid over them. -/
def compileRules : Except Fault AnyRules :=
  match Dialect.lookup? config.dialect with
  | none => .error (.cause (.config (.unknownDialect config.dialect)))
  | some dialect =>
    (((RuleSpec.ofDialect dialect).inBytes.merge config.rules.inBytes).compileAny).mapError fun e =>
      .within "compile rules" (.cause (.rules e))

def decoder (library : Encoding.Library := .standard) : Except Fault Decoder :=
  (Decoder.ofNames (config.encodings.getD []) library).mapError fun e => .cause (.encoding e)

def log : Except Fault (Log.Level × Log.Format) :=
  (config.logging.resolve true).mapError fun e => .cause (.logging e)

def validate (library : Encoding.Library := .standard) : Except Fault Unit := do
  if config.workers < 0 then throw (.cause (.config (.negativeWorkers config.workers)))
  if (config.encodings.getD []).isEmpty then throw (.cause (.config .noEncodings))
  let _ ← config.decoder library
  let _ ← config.compileRules
  let _ ← config.log

def selection : Selection where
  dialect := config.dialect
  excludes := config.scan.excludes.getD []
  includes := config.scan.includes.getD []
  excludeTests := config.scan.excludeTests
  useIgnoreFile := config.scan.useIgnoreFile

def listItem (items : Option (List String)) : Yaml.Item := .list (items.getD [])

def boolItem (value : Bool) : Yaml.Item := .word (if value then "true" else "false")

def markerItem (marker : μ) : Yaml.Item :=
  .ofBytes (Text.bytes (Spelling.letters marker))

def fields : List (String × Yaml.Item) :=
  [("workers", .word (toString config.workers)),
    ("encodings", listItem config.encodings),
    ("dialect", .text config.dialect),
    ("rules", .group [
      ("line_comment", markerItem config.rules.lineComment),
      ("block_open", markerItem config.rules.blockOpen),
      ("block_close", markerItem config.rules.blockClose),
      ("annotation_sigil", markerItem config.rules.sigil),
      ("license_pattern", .text config.rules.licensePattern),
      ("url_pattern", .text config.rules.urlPattern),
      ("forbidden_calls", listItem config.rules.forbiddenCalls)]),
    ("scan", .group [
      ("exclude", listItem config.scan.excludes),
      ("include", listItem config.scan.includes),
      ("exclude_tests", boolItem config.scan.excludeTests),
      ("use_gitignore", boolItem config.scan.useIgnoreFile)]),
    ("verify", .group [
      ("patterns", listItem config.verify.patterns),
      ("extensions", listItem config.verify.extensions)]),
    ("logging", .group [
      ("level", .text config.logging.level),
      ("format", .text config.logging.format)])]

def render : List Char := Yaml.render config.fields

end

end Config

end LineSieve
