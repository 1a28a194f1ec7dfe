import LineSieve.Selection.Walk
import LineSieve.Text.LineReader

/- Checking a tree for texts that must not be left in it. -/
namespace LineSieve

structure Finding where
  path : String
  line : Int
  column : Int
  pattern : String
  deriving DecidableEq, Repr

namespace Verify

def defaultPatterns : List String :=
  ["DEV_MODE", "DEBUG", "ENABLE_TEST_FEATURES", "TEST_", "EXPERIMENTAL", "LOG_LEVEL", "print(",
    "warn_log", "debug_log"]

def defaultExtensions : List String := [".lua", ".json"]

/-- The offsets of the occurrences of `pattern` in a line, from left to right without overlap;
`offset` is where the line starts. An empty pattern has none. -/
def occurrences (pattern : List UInt8) (offset : Nat) (line : List UInt8) : List Nat :=
  if pattern.isEmpty then []
  else
    match Text.cut? pattern line with
    | none => []
    | some (front, rest) =>
      let found := offset + front.length
      if _h : rest.length < line.length then
        found :: occurrences pattern (found + pattern.length) rest
      else [found]
termination_by line.length

def lineFindings (path : String) (patterns : List String) (number : Nat) (line : List UInt8) :
    List Finding :=
  patterns.flatMap fun pattern =>
    (occurrences pattern.toUTF8.toList 0 line).map fun (offset : Nat) =>
      ⟨path, number, offset + 1, pattern⟩

def linesFindings (path : String) (patterns : List String) : Nat → List (List UInt8) → List Finding
  | _, [] => []
  | number, line :: rest =>
    lineFindings path patterns number line ++ linesFindings path patterns (number + 1) rest

def scanFile (tree : FileTree) (patterns : List String) (path display : String) :
    Except Fault (List Finding) :=
  match tree.readFile path with
  | .error e => .error (.within ("read " ++ display) (.ofFile e))
  | .ok content =>
    match (Text.LineReader.ofBytes content.toList).lines with
    | .ok lines => .ok (linesFindings display patterns 1 lines)
    | .error failure => .error (.within ("scan " ++ display) (.other failure.message))

/-- Scan the selected files; findings before a failure stay. A root that is a file is scanned
whatever its extension. -/
def scan (tree : FileTree) (root : String) (patterns extensions : List String)
    (selection : Selection) : Visited (List Finding) :=
  let patterns := if patterns.isEmpty then defaultPatterns else patterns
  let extensions := if extensions.isEmpty then defaultExtensions else extensions
  match tree.stat root with
  | .error e => ([], some (.within "stat path" (.ofFile e)))
  | .ok (.directory _) =>
    tree.walk root { selection with extensions } (fun findings target =>
      match scanFile tree patterns target.path target.display with
      | .ok found => (findings ++ found, none)
      | .error fault => (findings, some fault)) []
  | .ok _ =>
    match scanFile tree patterns root (String.ofList (Path.base root.toList)) with
    | .ok found => (found, none)
    | .error fault => ([], some fault)

def check (tree : FileTree) (root : String) (patterns extensions : List String)
    (selection : Selection) : Visited (List Finding) :=
  match scan tree root patterns extensions selection with
  | (findings, none) =>
    if findings.isEmpty then (findings, none)
    else
      (findings, some (.detailed (.cause .forbiddenContent)
        (toString findings.length ++ " occurrence(s)")))
  | failed => failed

end Verify

end LineSieve
