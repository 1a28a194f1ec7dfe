import LineSieve.Aggregate
import LineSieve.Classifier
import LineSieve.Log.Event
import LineSieve.Sieve
import LineSieve.Selection.Walk

/- Runs over a selection of files: each file is read, decoded, classified and, by mode, sieved and
   written back. A file that fails is reported and stops nothing else. -/
namespace LineSieve

inductive Mode where
  | analyze
  | strip
  | dryRun
  deriving DecidableEq, Repr

namespace Mode

def name : Mode → String
  | .analyze => "analyze"
  | .strip => "strip"
  | .dryRun => "dry-run"

def ofName? (name : String) : Option Mode :=
  [analyze, strip, dryRun].find? (·.name = name)

end Mode

/-- What a run needs besides the tree: rules, decoder and selection, and which paths refuse to be
written or read, with the reason. -/
structure Service where
  rules : AnyRules
  decoder : Decoder := .default
  selection : Selection := {}
  refuses : String → Option String := fun _ => none
  withholds : String → Option FileFault := fun _ => none

/-- What one pass over the lines of a file gives. -/
structure Pass where
  counts : LineCounts
  unclosed : Option Nat
  linesBefore : Nat
  linesAfter : Nat
  decisions : List Decision
  content : ByteArray

def Rules.pass {α : Type} [DecidableEq α] [Text.Alphabet α] (rules : Rules α) (text : List Char) :
    Pass :=
  let lines := Text.splitLines (Text.ofChars text)
  let (records, last) := Classifier.run { rules } lines
  let output := sieve records
  { counts := .ofRecords records
    unclosed := last.state.unclosed?
    linesBefore := lines.length
    linesAfter := output.lines.length
    decisions := output.decisions
    content := Text.encode output.render }

def AnyRules.pass : AnyRules → List Char → Pass
  | .ofText rules => rules.pass
  | .ofBytes rules => rules.pass

inductive Entry where
  | summary (file : FileSummary)
  | failure (failure : FileFailure)
  deriving DecidableEq, Repr

structure Processed where
  entry : Entry
  tree : FileTree
  events : List Log.Event

namespace Service

def runFields (runId : String) (mode : Mode) : List (String × Log.Value) :=
  [("run_id", .text runId), ("mode", .text mode.name)]

def fileFields (runId : String) (mode : Mode) (target : Target) : List (String × Log.Value) :=
  runFields runId mode ++ [("path", .text target.display)]

/-- The content of a target, decoded; the raw bytes come along. -/
def load (service : Service) (tree : FileTree) (target : Target) :
    Except Fault (ByteArray × Decoded) :=
  match tree.readFile target.path, service.withholds target.path with
  | .error e, _ => .error (.ofFile e)
  | .ok _, some fault => .error (.ofFile ⟨"open", target.path, fault⟩)
  | .ok bytes, none =>
    match service.decoder.decode bytes with
    | .error e => .error (.cause (.undecodable e))
    | .ok decoded => .ok (bytes, decoded)

def writeBack (service : Service) (tree : FileTree) (path : String) (content : ByteArray) :
    Except Fault FileTree :=
  match tree.stat path with
  | .error e => .error (.ofFile e)
  | .ok _ =>
    match service.refuses path with
    | some reason => .error (.other reason)
    | none => (tree.writeFile path content).mapError .ofFile

def decisionEvents (fields : List (String × Log.Value)) (decisions : List Decision) :
    List Log.Event :=
  decisions.map fun decision =>
    ⟨.debug, fields ++ [("line", .int decision.index),
      ("category", .text decision.category.name), ("action", .text decision.action.name)],
      "rewrite"⟩

def unclosedEvents (fields : List (String × Log.Value)) : Option Nat → List Log.Event
  | none => []
  | some line =>
    [⟨.warn, fields ++ [("line", .int line)],
      "forbidden statement never closes, removing to end of file"⟩]

/-- Handle what was loaded of a target; the tree is the one to write to. -/
def conclude (service : Service) (runId : String) (mode : Mode) (target : Target)
    (loaded : Except Fault (ByteArray × Decoded)) (tree : FileTree) : Processed :=
  let fields := fileFields runId mode target
  match loaded with
  | .error fault =>
    ⟨.failure ⟨target.display, .read, "read " ++ target.display ++ ": " ++ fault.message⟩, tree,
      [⟨.warn, fields ++ [("error", .text fault.message)], "skipping unreadable file"⟩]⟩
  | .ok (bytes, decoded) =>
    let pass := service.rules.pass decoded.text
    let summary : FileSummary := {
      path := target.display
      dialect := target.dialectName
      encoding := decoded.encoding
      counts := pass.counts
      unclosedAt := pass.unclosed.getD 0 }
    let warnings := unclosedEvents fields pass.unclosed
    if mode = .analyze then ⟨.summary summary, tree, warnings⟩
    else
      let changed := pass.content != bytes
      let events := warnings ++ decisionEvents fields pass.decisions
      let finish (written : Bool) (tree : FileTree) : Processed :=
        ⟨.summary { summary with
          sieved := some ⟨pass.linesBefore, pass.linesAfter, changed, written⟩ }, tree, events⟩
      if mode = .strip && changed then
        match service.writeBack tree target.path pass.content with
        | .ok tree => finish true tree
        | .error fault =>
          ⟨.failure ⟨target.display, .write,
            "write " ++ target.display ++ ": " ++ fault.message⟩, tree,
            events ++ [⟨.error, fields ++ [("error", .text fault.message)], "write failed"⟩]⟩
      else finish false tree

def process (service : Service) (runId : String) (mode : Mode) (tree : FileTree)
    (target : Target) : Processed :=
  service.conclude runId mode target (service.load tree target) tree

def processAll (service : Service) (runId : String) (mode : Mode) (tree : FileTree) :
    List Target → List Entry × FileTree × List Log.Event
  | [] => ([], tree, [])
  | target :: rest =>
    let first := service.process runId mode tree target
    let (entries, last, events) := service.processAll runId mode first.tree rest
    (first.entry :: entries, last, first.events ++ events)

end Service

namespace RunResult

def summaries (entries : List Entry) : List FileSummary :=
  entries.filterMap fun
    | .summary file => some file
    | .failure _ => none

def failuresOf (entries : List Entry) : List FileFailure :=
  entries.filterMap fun
    | .summary _ => none
    | .failure failure => some failure

def collect (result : RunResult) (entries : List Entry) : RunResult :=
  let files := summaries entries
  let (folders, total) := aggregate files
  { result with
    files := sortFiles files
    folders := folders
    total := total
    failures := failuresOf entries }

end RunResult

structure RunOutcome where
  result : RunResult
  fault : Option Fault
  tree : FileTree
  events : List Log.Event

namespace Service

def rootedPath (names : List String) : String := "/" ++ "/".intercalate names

def finishedEvent (runId : String) (mode : Mode) (result : RunResult) : Log.Event :=
  ⟨.info, runFields runId mode ++ [("files", .int result.total.files.toInt),
    ("total", .int result.total.counts.total.toInt), ("errors", .int result.failures.length)],
    "run finished"⟩

/-- Run over what is selected under a path. A run that was canceled beforehand handles no file. -/
def run (service : Service) (tree : FileTree) (runId path modeName : String) (canceled : Bool) :
    RunOutcome :=
  let empty : RunResult := { runId, mode := modeName }
  match Mode.ofName? modeName with
  | none =>
    ⟨empty, some (.other ("unknown mode " ++ Text.quotedString modeName)), tree, []⟩
  | some mode =>
    let trimmed := Text.trim path.toList
    if trimmed.isEmpty then ⟨empty, some (.other "scan path is empty"), tree, []⟩
    else
      let root := String.ofList (Path.absolute (rootedPath tree.origin).toList trimmed)
      let result := { empty with scannedPath := root }
      match tree.select root service.selection with
      | (_, some fault) => ⟨result.collect [], some fault, tree, []⟩
      | (targets, none) =>
        if canceled then ⟨result.collect [], some (.cause .canceled), tree, []⟩
        else
          let (entries, last, events) := service.processAll runId mode tree targets
          let result := result.collect entries
          let fault := if mode = .strip && hasFailure .write result.failures then
            some (.cause .writesFailed) else none
          ⟨result, fault, last, events ++ [finishedEvent runId mode result]⟩

end Service

end LineSieve
