import LineSieve.Counts

/- Results of a run: per file, per folder and for the whole. -/
namespace LineSieve

structure SieveStats where
  linesBefore : Int
  linesAfter : Int
  changed : Bool
  written : Bool
  deriving DecidableEq, Repr

/-- One file. `unclosedAt` is the line of a forbidden call that never closes, or zero. -/
structure FileSummary where
  path : String
  dialect : String
  encoding : String
  counts : LineCounts
  unclosedAt : Int := 0
  sieved : Option SieveStats := none
  deriving DecidableEq, Repr

structure FolderTotals where
  folder : String
  files : Int64 := 0
  counts : LineCounts := {}
  deriving DecidableEq, Repr

inductive FailureKind where
  | read
  | write
  | other (name : String)
  deriving DecidableEq, Repr

def FailureKind.name : FailureKind → String
  | .read => "read"
  | .write => "write"
  | .other name => name

def FailureKind.ofName (name : String) : FailureKind :=
  if name = "read" then .read else if name = "write" then .write else .other name

/-- A file that could not be handled. It is in no count. -/
structure FileFailure where
  path : String
  kind : FailureKind
  message : String
  deriving DecidableEq, Repr

structure RunResult where
  runId : String
  mode : String
  scannedPath : String := ""
  files : List FileSummary := []
  folders : List FolderTotals := []
  total : GrandTotal := {}
  failures : List FileFailure := []
  deriving DecidableEq, Repr

/-- A result as it is handed to a reporter; a list may be missing. -/
structure Report where
  runId : String
  mode : String
  scannedPath : String
  files : Option (List FileSummary)
  folders : Option (List FolderTotals)
  total : GrandTotal
  failures : Option (List FileFailure)
  deriving DecidableEq, Repr

def hasFailure (kind : FailureKind) (failures : List FileFailure) : Bool :=
  failures.any (·.kind = kind)

def RunResult.report (result : RunResult) : Report where
  runId := result.runId
  mode := result.mode
  scannedPath := result.scannedPath
  files := some result.files
  folders := some result.folders
  total := result.total
  failures := some result.failures

end LineSieve
