import LineSieve.Config.Basic
import LineSieve.Config.Conversion
import LineSieve.FileTree.Basic
import LineSieve.Yaml.Document

/- Where a configuration comes from. A variable of the environment wins over the configuration file,
   and what neither of them sets has its default. -/
namespace LineSieve

/-- The settings of a file, with keys in lower case, and the variables of the environment. -/
structure Settings where
  entries : List (List Char × Yaml.Value)
  environment : List (String × String)

namespace Settings

mutual

def lowerKeys : Yaml.Value → Yaml.Value
  | .map entries => .map (lowerEntries entries)
  | value => value

def lowerEntries : List (List Char × Yaml.Value) → List (List Char × Yaml.Value)
  | [] => []
  | (key, value) :: rest => (Text.lower key, lowerKeys value) :: lowerEntries rest

end

/-- The value of a key; the last one counts. -/
def lookup? (entries : List (List Char × Yaml.Value)) (key : String) : Option Yaml.Value :=
  (entries.reverse.lookup key.toList).bind fun
    | .null => none
    | value => some value

/-- The value of a key in a group. It may stand under one key that joins both with a point. -/
def nested? (entries : List (List Char × Yaml.Value)) (group key : String) : Option Yaml.Value :=
  match lookup? entries (group ++ "." ++ key) with
  | some value => some value
  | none =>
    match lookup? entries group with
    | some (.map inner) => lookup? inner key
    | _ => none

def variableLead : String := "LUASTRIP_"

/-- The value of a variable; an empty one counts as missing. -/
def fromEnvironment? (settings : Settings) (name : String) : Option String :=
  match settings.environment.lookup (variableLead ++ name) with
  | some "" => none
  | value => value

def variableName (key : String) : String := String.ofList (key.toList.map Char.toUpper)

def keys : List (String × List String) :=
  [("", ["workers", "encodings", "dialect"]),
    ("rules", ["line_comment", "block_open", "block_close", "annotation_sigil",
      "license_pattern", "url_pattern", "forbidden_calls"]),
    ("scan", ["exclude", "include", "exclude_tests", "use_gitignore"]),
    ("verify", ["patterns", "extensions"]),
    ("logging", ["level", "format"])]

def variableNames : List String :=
  keys.flatMap fun (group, names) =>
    let own := names.map variableName
    (if group = "" then own
      else variableName group :: own.map fun name => variableName group ++ "_" ++ name).map
      (variableLead ++ ·)

/-- What is set for a key: a value, nothing, or nothing that can be seen because a variable stands
for its whole group. -/
inductive Found where
  | given (value : Yaml.Value)
  | missing
  | hidden

def ofFile : Option Yaml.Value → Found
  | some value => .given value
  | none => .missing

def find (settings : Settings) (key : String) : Found :=
  match settings.fromEnvironment? (variableName key) with
  | some text => .given (.string text.toList)
  | none => ofFile (lookup? settings.entries key)

def findIn (settings : Settings) (group key : String) : Found :=
  match settings.fromEnvironment? (variableName group ++ "_" ++ variableName key) with
  | some text => .given (.string text.toList)
  | none =>
    if (settings.fromEnvironment? (variableName group)).isSome then .hidden
    else ofFile (nested? settings.entries group key)

inductive GroupForm where
  | keys
  | absent
  | noGroup

def groupForm (settings : Settings) (group : String) : GroupForm :=
  match settings.entries.reverse.lookup group.toList with
  | none => .keys
  | some (.map _) => .keys
  | some .null =>
    if (settings.fromEnvironment? (variableName group)).isSome then .noGroup else .absent
  | some _ => .noGroup

def Found.read {α : Type} (found : Found) (convert : Yaml.Value → Option α) (usual blank : α) :
    Option α :=
  match found with
  | .given value => convert value
  | .missing => some usual
  | .hidden => some blank

def readGroup {α : Type} (settings : Settings) (group : String) (usual : α)
    (read : (String → Found) → Option α) : Option α :=
  match settings.groupForm group with
  | .keys => read (settings.findIn group)
  | .absent => some usual
  | .noGroup => none

def text (found : Found) (usual : String) : Option String :=
  found.read Conversion.string? usual ""

def marker (found : Found) (usual : List UInt8) : Option (List UInt8) :=
  found.read Conversion.bytes? usual []

def flag (found : Found) (usual : Bool) : Option Bool := found.read Conversion.bool? usual false

def texts (found : Found) (usual : Option (List String)) : Option (Option (List String)) :=
  found.read (fun value => (Conversion.strings? value).map some) usual none

def rules (settings : Settings) (usual : RuleSpec (List UInt8)) :
    Option (RuleSpec (List UInt8)) :=
  settings.readGroup "rules" usual fun find => do
    let lineComment ← marker (find "line_comment") usual.lineComment
    let blockOpen ← marker (find "block_open") usual.blockOpen
    let blockClose ← marker (find "block_close") usual.blockClose
    let sigil ← marker (find "annotation_sigil") usual.sigil
    let licensePattern ← text (find "license_pattern") usual.licensePattern
    let urlPattern ← text (find "url_pattern") usual.urlPattern
    let forbiddenCalls ← texts (find "forbidden_calls") usual.forbiddenCalls
    return { lineComment, blockOpen, blockClose, sigil, licensePattern, urlPattern, forbiddenCalls }

def scan (settings : Settings) (usual : ScanOptions) : Option ScanOptions :=
  settings.readGroup "scan" usual fun find => do
    let excludes ← texts (find "exclude") usual.excludes
    let includes ← texts (find "include") usual.includes
    let excludeTests ← flag (find "exclude_tests") usual.excludeTests
    let useIgnoreFile ← flag (find "use_gitignore") usual.useIgnoreFile
    return { excludes, includes, excludeTests, useIgnoreFile }

def verify (settings : Settings) (usual : VerifyOptions) : Option VerifyOptions :=
  settings.readGroup "verify" usual fun find => do
    let patterns ← texts (find "patterns") usual.patterns
    let extensions ← texts (find "extensions") usual.extensions
    return { patterns, extensions }

def logging (settings : Settings) (usual : Log.Options) : Option Log.Options :=
  settings.readGroup "logging" usual fun find => do
    let level ← text (find "level") usual.level
    let format ← text (find "format") usual.format
    return { level, format }

def config? (settings : Settings) (usual : Config (List UInt8)) :
    Option (Config (List UInt8)) := do
  let workers ← (settings.find "workers").read Conversion.int? usual.workers 0
  let encodings ← texts (settings.find "encodings") usual.encodings
  let dialect ← text (settings.find "dialect") usual.dialect
  let rules ← settings.rules usual.rules
  let scan ← settings.scan usual.scan
  let verify ← settings.verify usual.verify
  let logging ← settings.logging usual.logging
  return { workers, encodings, dialect, rules, scan, verify, logging }

end Settings

structure LoadedConfig where
  config : Config (List UInt8)
  source : String
  deriving DecidableEq, Repr

namespace Config

def fileName : String := ".luastrip.yaml"

def findFile (tree : FileTree) (path : String) : Except Fault (Option String) :=
  let named := Text.trimString path
  let candidate := if named = "" then fileName else named
  match tree.stat candidate with
  | .ok _ => .ok (some candidate)
  | .error e =>
    if named = "" && e.fault = .notFound then .ok none
    else .error (.within "config file" (.ofFile e))

def readEntries (tree : FileTree) (path : String) :
    Except Fault (List (List Char × Yaml.Value)) :=
  let unreadable : Fault := .within ("read config " ++ path) (.cause .configUnreadable)
  match tree.readFile path with
  | .error _ => .error unreadable
  | .ok bytes =>
    match Yaml.read bytes with
    | .error _ => .error unreadable
    | .ok entries => .ok (Settings.lowerEntries entries)

def load (tree : FileTree) (environment : List (String × String)) (path : String)
    (library : Encoding.Library := .standard) : Except Fault LoadedConfig := do
  let source ← findFile tree path
  let entries ←
    match source with
    | some file => readEntries tree file
    | none => pure []
  let usual := { default with rules := default.rules.inBytes }
  match Settings.config? { entries, environment } usual with
  | none => throw (.within "decode config" (.cause .configMistyped))
  | some config =>
    config.validate library
    return { config, source := source.getD "" }

/-- Write a configuration to a file. A file that is there stays unless it is `forced` away. -/
def write (config : Config) (tree : FileTree) (path : String) (forced : Bool) :
    FileTree × Option Fault :=
  if !forced && (tree.stat path).toOption.isSome then
    (tree, some (.detailed (.cause .configExists) path))
  else
    let directory := String.ofList (Path.directory path.toList)
    let (tree, failure) := if directory = "." then (tree, none) else tree.makeDirectories directory
    match failure with
    | some e => (tree, some (.within "create config dir" (.ofFile e)))
    | none =>
      match tree.writeFile path (Text.encode config.render) with
      | .ok tree => (tree, none)
      | .error e => (tree, some (.within "write config file" (.ofFile e)))

end Config

end LineSieve
