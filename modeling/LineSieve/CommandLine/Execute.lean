import LineSieve.CommandLine.Command
import LineSieve.Config.Load
import LineSieve.Report.Export
import LineSieve.Report.Table
import LineSieve.Run.Service

/- Running commands. Reports go to the standard output; the log and messages go to the other one. -/
namespace LineSieve.CommandLine

/-- What a command works with: the files, the environment, what is new for each run, and the library
of character sets. -/
structure Session where
  tree : FileTree
  environment : List (String × String)
  version : String
  runId : String
  stamp : Log.Stamp
  library : Encoding.Library := .standard

structure Outcome where
  stdout : List Char
  stderr : String
  fault : Option Fault
  tree : FileTree

namespace Outcome

def start (tree : FileTree) : Outcome := ⟨[], "", none, tree⟩

def print (outcome : Outcome) (text : List Char) : Outcome :=
  { outcome with stdout := outcome.stdout ++ text }

def note (outcome : Outcome) (text : String) : Outcome :=
  { outcome with stderr := outcome.stderr ++ text }

def fail (outcome : Outcome) (fault : Option Fault) : Outcome := { outcome with fault := fault }

end Outcome

structure Setup where
  config : Config (List UInt8)
  rules : AnyRules
  decoder : Decoder
  level : Log.Level
  format : Log.Format
  source : String

def loadConfig (session : Session) (options : Options) : Except Fault LoadedConfig := do
  let loaded ←
    Config.load session.tree session.environment options.config session.library
  let pick (given usual : String) : String :=
    let given := Text.trimString given
    if given = "" then usual else given
  let logging : Log.Options :=
    ⟨pick options.logLevel loaded.config.logging.level,
      pick options.logFormat loaded.config.logging.format⟩
  let config := { loaded.config with logging }
  let _ ← config.log
  return { loaded with config }

def setup (session : Session) (options : Options) : Except Fault Setup := do
  let loaded ← loadConfig session options
  let (level, format) ← loaded.config.log
  let rules ← loaded.config.compileRules
  let decoder ← loaded.config.decoder session.library
  return { config := loaded.config, rules, decoder, level, format, source := loaded.source }

namespace Setup

def selection (app : Setup) (options : Options) : Selection :=
  let usual := app.config.selection
  { usual with
    excludes := usual.excludes ++ options.excludes
    includes := usual.includes ++ options.includes
    excludeTests := usual.excludeTests && !options.includeTests }

def service (app : Setup) (options : Options) : Service where
  rules := app.rules
  decoder := app.decoder
  selection := app.selection options

def log (app : Setup) (session : Session) (events : List Log.Event) : String :=
  Log.output app.level app.format session.stamp events

def loadedEvents (app : Setup) : List Log.Event :=
  if app.source = "" then [] else [⟨.debug, [("config", .text app.source)], "config loaded"⟩]

end Setup

inductive ReportFormat where
  | table
  | json
  deriving DecidableEq, Repr

def ReportFormat.ofName? (name : String) : Option ReportFormat :=
  match Text.lowerString (Text.trimString name) with
  | "table" => some .table
  | "json" => some .json
  | _ => none

def checkRun (options : Options) : Except UsageError ReportFormat :=
  match ReportFormat.ofName? options.format with
  | none => .error (.unsupportedFormat options.format)
  | some format => if options.workers.any (· ≤ 0) then .error .noWorkers else .ok format

def printReport (outcome : Outcome) (options : Options) (format : ReportFormat)
    (report : Report) : Outcome :=
  let printed := outcome.print (match format with
    | .table => report.table
    | .json => report.document)
  let path := Text.trimString options.output
  if path = "" then printed
  else
    match report.writeFile printed.tree path with
    | (tree, some fault) => { printed with tree, fault := some fault }
    | (tree, none) => { printed with tree }.note ("JSON exported to " ++ path ++ "\n")

def verifyTree (outcome : Outcome) (app : Setup) (options : Options) (target : String) : Outcome :=
  let (findings, fault) := Verify.check outcome.tree target
    (app.config.verify.patterns.getD []) (app.config.verify.extensions.getD [])
    (app.selection options)
  (outcome.print (Report.findingsTable findings)).fail
    (fault.map fun fault => .within ("verify " ++ target) fault)

/-- Run over files and report. A run that failed only in writing files is reported too. -/
def runFiles (session : Session) (app : Setup) (options : Options) (format : ReportFormat)
    (mode : Mode) (target : String) (outcome : Outcome) : Outcome :=
  let run := (app.service options).run outcome.tree session.runId target mode.name false
  let outcome := { outcome with tree := run.tree }.note (app.log session run.events)
  let reported := run.fault.all fun fault => fault.has .writesFailed
  if !reported then outcome.fail run.fault
  else
    let printed := printReport outcome options format run.result.report
    if printed.fault.isSome then printed
    else if run.fault.isSome then printed.fail run.fault
    else if mode = .strip && options.verify then verifyTree printed app options target
    else printed

def withSetup (session : Session) (options : Options) (act : Setup → Outcome → Outcome) :
    Outcome :=
  let outcome := Outcome.start session.tree
  match setup session options with
  | .error fault => outcome.fail (some fault)
  | .ok app => act app (outcome.note (app.log session app.loadedEvents))

def runCommand (session : Session) (options : Options) (mode : Mode) (target : String) : Outcome :=
  match checkRun options with
  | .error e => (Outcome.start session.tree).fail (some (.cause (.usage e)))
  | .ok format =>
    withSetup session options fun app outcome =>
      runFiles session app options format mode target outcome

def showConfig (session : Session) (options : Options) : Outcome :=
  let outcome := Outcome.start session.tree
  match loadConfig session options with
  | .error fault => outcome.fail (some fault)
  | .ok loaded => outcome.print loaded.config.render

def initConfig (session : Session) (options : Options) (path : String) : Outcome :=
  let (tree, fault) := Config.default.write session.tree path options.force
  let outcome := Outcome.start tree
  match fault with
  | some fault => outcome.fail (some fault)
  | none => outcome.print ("config written to " ++ path ++ "\n").toList

def usage (command : Command) : List Char :=
  ("Usage: " ++ command.path ++ " " ++ "|".intercalate (command.children.map (·.1)) ++ "\n").toList

def runWith (session : Session) (command : Command) (options : Options) (arguments : List String) :
    Outcome :=
  let outcome := Outcome.start session.tree
  let target := arguments.headD ""
  match command with
  | .root => outcome.print (usage command)
  | .config => outcome.print (usage command)
  | .version =>
    outcome.note (Command.programName ++ " version " ++ session.version ++ "\n")
  | .dialect => outcome.print (Report.dialectTable Dialect.all)
  | .analyze => runCommand session options .analyze target
  | .strip => runCommand session options (if options.dryRun then .dryRun else .strip) target
  | .verify =>
    withSetup session options fun app outcome => verifyTree outcome app options target
  | .configShow => showConfig session options
  | .configInit => initConfig session options (arguments.headD Config.fileName)

/-- Read the flags of a command and run it; flags are checked before the number of arguments. -/
def runParsed (session : Session) (command : Command) (arguments : List String) : Outcome :=
  let outcome := Outcome.start session.tree
  match parse (command.flags ++ [.help]) {} arguments with
  | .error e => outcome.fail (some (.cause (.usage e)))
  | .ok (options, others) =>
    if options.help then outcome.print (usage command)
    else
      match command.checkArguments others with
      | .error e => outcome.fail (some (.cause (.usage e)))
      | .ok () => runWith session command options others

def report (outcome : Outcome) : Outcome :=
  match outcome.fault with
  | none => outcome
  | some fault => outcome.note ("Error: " ++ fault.message ++ "\n")

def execute (session : Session) (arguments : List String) : Outcome :=
  match Command.find arguments with
  | .error e =>
    (report ((Outcome.start session.tree).fail (some (.cause (.usage e))))).note
      ("Run '" ++ Command.programName ++ " --help' for usage.\n")
  | .ok (command, rest) => report (runParsed session command rest)

end LineSieve.CommandLine
