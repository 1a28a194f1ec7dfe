import LineSieve.Proofs.Config.Default
import LineSieve.Proofs.Report.Export
import LineSieve.Proofs.Selection.Coverage

/- The exit code of a strip command that checks what it leaves. The run and the report let the tree
   grow, and the check walks over what they leave of it. Code 2 tells that everything went through
   and forbidden content was found. Code 0 tells that the check found none in the files it selected;
   that these are the files of the run takes a path that leads where its rooted form leads. -/
namespace LineSieve

theorem FileTree.grows_updateAll {tree : FileTree} {updates : List Update}
    (covered : tree.Covers updates) : tree.Grows (tree.updateAll updates) := by
  obtain ⟨other, result, alike⟩ := updateAll_alike covered
  rw [result]
  exact ⟨rfl, Grown.of_alike alike⟩

namespace Service

theorem process_grows (service : Service) (runId : String) (mode : Mode) (tree : FileTree)
    (target : Target) : tree.Grows (service.process runId mode tree target).tree := by
  have agrees : Agrees tree tree target := fun _ _ led => led
  have covered := service.updates_covered mode tree [target]
  have only : service.updates mode tree [target] = (service.update? mode tree target).toList := by
    cases made : service.update? mode tree target <;> simp [updates, made]
  rw [only] at covered
  rw [show (service.process runId mode tree target).tree = _ from (framed agrees).2]
  exact FileTree.grows_updateAll covered

theorem processAll_grows (service : Service) (runId : String) (mode : Mode) (tree : FileTree)
    (targets : List Target) : tree.Grows (service.processAll runId mode tree targets).2.1 := by
  induction targets generalizing tree with
  | nil => exact FileTree.Grows.refl tree
  | cons target targets ih => exact (service.process_grows runId mode tree target).trans (ih _)

theorem run_grows (service : Service) (tree : FileTree) (runId path : String) (mode : Mode)
    (canceled : Bool) : tree.Grows (service.run tree runId path mode.name canceled).tree := by
  obtain ⟨start, events, outcome⟩ := service.run_eq tree runId path mode canceled
  rw [outcome]
  exact service.processAll_grows runId mode tree _

theorem run_finished {service : Service} {tree : FileTree} {runId path : String} (mode : Mode)
    (succeeded : (service.run tree runId path mode.name false).fault = none) :
    Text.trim path.toList ≠ [] := by
  obtain ⟨start, events, outcome⟩ := service.run_eq tree runId path mode false
  rw [outcome] at succeeded
  have idle := (Option.or_eq_none_iff.mp succeeded).1
  intro blank
  simp [idle?, blank] at idle

theorem run_untouched {service : Service} {tree : FileTree} {path : String} {target : Target}
    {bytes : ByteArray} {decoded : Decoded} (runId : String) (given : Text.trim path.toList ≠ [])
    (single : tree.select (root tree path) service.selection = ([target], none))
    (loaded : service.load tree target = .ok (bytes, decoded))
    (same : service.output decoded = bytes) :
    (service.run tree runId path Mode.strip.name false).fault = none ∧
      (service.run tree runId path Mode.strip.name false).tree = tree := by
  obtain ⟨start, events, outcome⟩ := service.run_eq tree runId path .strip false
  obtain ⟨left, file, stats, entry, -⟩ :
      (service.process runId .strip tree target).Idle tree := strip_unchanged loaded same
  have idle : service.idle? tree path false = none := by
    simp [idle?, given, single]
  have handled : service.handled tree path false = [target] := by
    simp [Service.handled, idle, selected, single]
  rw [outcome, idle, handled]
  simp only [processAll, left, entry]
  exact ⟨rfl, trivial⟩

end Service

namespace CommandLine

def Setup.patterns (app : Setup) : List String :=
  Verify.effective (app.config.verify.patterns.getD []) Verify.defaultPatterns

def Setup.extensions (app : Setup) : List String :=
  Verify.effective (app.config.verify.extensions.getD []) Verify.defaultExtensions

/-- The files that a check of a tree looks at. -/
def Setup.checked (app : Setup) (options : Options) (tree : FileTree) (path : String) :
    Visited (List Target) :=
  Verify.files tree path app.extensions (app.selection options)

theorem Setup.extensions_proper (app : Setup) : app.extensions ≠ [] := by
  unfold extensions Verify.effective
  split
  · decide
  · rename_i given
    simpa using given

theorem Setup.checked_file (app : Setup) (options : Options) {tree : FileTree} {path : String}
    {content : ByteArray} (read : tree.readFile path = .ok content) :
    (app.checked options tree path).2 = none ∧
      Verify.Readable tree (app.checked options tree path).1 ∧
      (Verify.Forbidden tree app.patterns (app.checked options tree path).1 ↔
        Verify.Tainted app.patterns content) := by
  obtain ⟨place, led⟩ := FileTree.readFile_ok_iff.mp read
  have stat : tree.stat path = .ok (.file content) := FileTree.node_ok_iff.mpr ⟨place, led⟩
  simp [Setup.checked, Verify.files, stat, Verify.Readable, Verify.Forbidden, read]

def stripRun (session : Session) (options : Options) (app : Setup) (path : String) : RunOutcome :=
  (app.service options).run session.tree session.runId path Mode.strip.name false

/-- The tree after a report was exported, if the options ask for that, and why it failed. -/
def exported (options : Options) (report : Report) (tree : FileTree) : FileTree × Option Fault :=
  if Text.trimString options.output = "" then (tree, none)
  else report.writeFile tree (Text.trimString options.output)

theorem printReport_eq {outcome : Outcome} (sound : outcome.fault = none) (options : Options)
    (format : ReportFormat) (report : Report) :
    ((printReport outcome options format report).tree,
      (printReport outcome options format report).fault) = exported options report outcome.tree := by
  unfold printReport exported
  simp only
  split
  · exact Prod.ext rfl sound
  · split
    · rename_i written
      exact written.symm
    · rename_i written
      change (_, outcome.fault) = Report.writeFile outcome.tree _ report
      rw [sound]
      exact written.symm

/-- A strip command has set up, and its run and its report have succeeded and left a tree. -/
structure Stripped (session : Session) (options : Options) (path : String) (app : Setup)
    (after : FileTree) : Prop where
  format : ∃ format, checkRun options = .ok format
  setup : setup session options = .ok app
  run : (stripRun session options app path).fault = none
  report : exported options (stripRun session options app path).result.report
    (stripRun session options app path).tree = (after, none)

section Command

variable {session : Session} {options : Options} {path : String}

def checkFault (app : Setup) (options : Options) (tree : FileTree) (path : String) : Option Fault :=
  (Verify.check tree path (app.config.verify.patterns.getD [])
    (app.config.verify.extensions.getD []) (app.selection options)).2.map
      fun fault => .within ("verify " ++ path) fault

theorem exported_plain {report : Report} {tree : FileTree} {fault : Fault}
    (failed : (exported options report tree).2 = some fault) : fault.Plain := by
  unfold exported at failed
  split at failed
  · cases failed
  · exact Report.writeFile_plain failed

/-- How a run and a report with a check behind them end: in what the check says, or before it in a
fault that is not about forbidden content. -/
theorem runFiles_ends (app : Setup) (path : String) {start : Outcome}
    (fresh : start.tree = session.tree)
    (sound : start.fault = none) (verifies : options.verify = true) (format : ReportFormat) :
    let outcome := runFiles session app options format .strip path start
    let run := stripRun session options app path
    run.fault = none ∧ exported options run.result.report run.tree = (outcome.tree, none) ∧
        outcome.fault = checkFault app options outcome.tree path ∨
      (∃ fault, outcome.fault = some fault ∧ fault.Plain) ∧
        ¬ (run.fault = none ∧ (exported options run.result.report run.tree).2 = none) := by
  intro outcome run
  have run_eq : (app.service options).run start.tree session.runId path Mode.strip.name false = run :=
    fresh ▸ rfl
  have shape : outcome = runFiles session app options format .strip path start := rfl
  simp only [runFiles, run_eq] at shape
  have quiet : ({ start with tree := run.tree }.note (app.log session run.events)).fault = none :=
    sound
  have left : ({ start with tree := run.tree }.note (app.log session run.events)).tree = run.tree :=
    rfl
  generalize { start with tree := run.tree }.note (app.log session run.events) = noted
    at shape quiet left
  have reported := (printReport_eq quiet options format run.result.report).symm
  rw [left] at reported
  generalize printReport noted options format run.result.report = printed at reported shape
  have unexported (fault : Fault) (failed : printed.fault = some fault) : fault.Plain :=
    exported_plain (congrArg Prod.snd reported |>.trans failed)
  rw [reported]
  cases ran : run.fault with
  | some fault =>
    refine .inr ⟨?_, fun both => nomatch both.1⟩
    have plain : fault.Plain := @Service.run_plain _ _ _ _ .strip _ _ ran
    rw [ran] at shape
    split at shape
    · exact ⟨fault, congrArg Outcome.fault shape, plain⟩
    · split at shape
      · rename_i failed
        obtain ⟨other, failed⟩ := Option.isSome_iff_exists.mp failed
        exact ⟨other, (congrArg Outcome.fault shape).trans failed, unexported other failed⟩
      · exact ⟨fault, congrArg Outcome.fault shape, plain⟩
  | none =>
    rw [ran] at shape
    cases written : printed.fault with
    | some fault =>
      refine .inr ⟨⟨fault, ?_, unexported fault written⟩, fun both => nomatch both.2⟩
      rw [written] at shape
      exact (congrArg Outcome.fault shape).trans written
    | none =>
      rw [written, verifies] at shape
      have shape' : outcome = verifyTree printed app options path := shape
      exact .inl ⟨rfl, by rw [shape']; rfl, by rw [shape']; rfl⟩

theorem withSetup_ok {app : Setup} (ready : setup session options = .ok app)
    (act : Setup → Outcome → Outcome) : withSetup session options act =
      act app ((Outcome.start session.tree).note (app.log session app.loadedEvents)) := by
  unfold withSetup
  rw [ready]

theorem withSetup_error {fault : Fault} (failed : setup session options = .error fault)
    (act : Setup → Outcome → Outcome) :
    withSetup session options act = (Outcome.start session.tree).fail (some fault) := by
  unfold withSetup
  rw [failed]

theorem strip_ends (session : Session) (path : String) (verifies : options.verify = true) :
    let outcome := runCommand session options .strip path
    (∃ app, Stripped session options path app outcome.tree ∧
        outcome.fault = checkFault app options outcome.tree path) ∨
      (∃ fault, outcome.fault = some fault ∧ fault.Plain) ∧
        ¬ ∃ app after, Stripped session options path app after := by
  unfold runCommand
  cases checked : checkRun options with
  | error e =>
    refine .inr ⟨⟨_, rfl, Fault.plain_cause nofun⟩, ?_⟩
    rintro ⟨app, after, stripped⟩
    obtain ⟨format, accepted⟩ := stripped.format
    rw [checked] at accepted
    cases accepted
  | ok format =>
    cases ready : setup session options with
    | error fault =>
      simp only [withSetup_error ready]
      refine .inr ⟨⟨fault, rfl, setup_guarded session options fault ready⟩, ?_⟩
      rintro ⟨app, after, stripped⟩
      rw [stripped.setup] at ready
      cases ready
    | ok app =>
      simp only [withSetup_ok ready]
      have fresh : ((Outcome.start session.tree).note (app.log session app.loadedEvents)).tree =
        session.tree := rfl
      rcases runFiles_ends app path fresh rfl verifies format with
        ⟨ran, reported, fault⟩ | ⟨fault, failed⟩
      · exact .inl ⟨app, ⟨⟨format, checked⟩, ready, ran, reported⟩, fault⟩
      · refine .inr ⟨fault, ?_⟩
        rintro ⟨other, after, stripped⟩
        obtain rfl := Except.ok.inj (ready.symm.trans stripped.setup)
        exact failed ⟨stripped.run, congrArg Prod.snd stripped.report⟩

theorem checkFault_exit (app : Setup) (options : Options) (tree : FileTree) (path : String) :
    (exitCode (checkFault app options tree path) = 0 ↔
        (app.checked options tree path).2 = none ∧
          Verify.Readable tree (app.checked options tree path).1 ∧
          ¬ Verify.Forbidden tree app.patterns (app.checked options tree path).1) ∧
      (exitCode (checkFault app options tree path) = 2 ↔
        (app.checked options tree path).2 = none ∧
          Verify.Readable tree (app.checked options tree path).1 ∧
          Verify.Forbidden tree app.patterns (app.checked options tree path).1) := by
  have ending : Verify.Ending tree app.patterns (app.checked options tree path) _ :=
    Verify.check_ending tree path (app.config.verify.patterns.getD [])
      (app.config.verify.extensions.getD []) (app.selection options)
  unfold checkFault
  generalize (Verify.check tree path (app.config.verify.patterns.getD [])
    (app.config.verify.extensions.getD []) (app.selection options)).2 = ended at ending ⊢
  cases ending with
  | @failed fault unfinished plain =>
    have code : exitCode (some (.within ("verify " ++ path) fault)) = exitCode (some fault) := rfl
    have stopped : ¬ ((app.checked options tree path).2 = none ∧
        Verify.Readable tree (app.checked options tree path).1) := by
      rintro ⟨finished, readable⟩
      exact unfinished.elim (absurd finished) (absurd readable)
    rw [Option.map_some, code]
    refine ⟨⟨fun zero => absurd zero (exitCode_plain plain).1, ?_⟩,
      fun two => absurd two (exitCode_plain plain).2, ?_⟩
    · exact fun ⟨finished, readable, _⟩ => absurd ⟨finished, readable⟩ stopped
    · exact fun ⟨finished, readable, _⟩ => absurd ⟨finished, readable⟩ stopped
  | clean finished readable clean =>
    exact ⟨⟨fun _ => ⟨finished, readable, clean⟩, fun _ => rfl⟩, nofun,
      fun found => absurd found.2.2 clean⟩
  | @found fault finished readable forbidden tells =>
    have code : exitCode (some (.within ("verify " ++ path) fault)) = exitCode (some fault) := rfl
    have two : exitCode (some fault) = 2 := if_pos tells
    rw [Option.map_some, code, two]
    exact ⟨⟨nofun, fun clean => absurd forbidden clean.2.2⟩,
      fun _ => ⟨finished, readable, forbidden⟩, fun _ => rfl⟩

theorem checkFault_file {app : Setup} {tree : FileTree} {content : ByteArray}
    (read : tree.readFile path = .ok content) :
    (exitCode (checkFault app options tree path) = 0 ↔ ¬ Verify.Tainted app.patterns content) ∧
      (exitCode (checkFault app options tree path) = 2 ↔ Verify.Tainted app.patterns content) := by
  obtain ⟨finished, readable, forbidden⟩ := app.checked_file options read
  rw [(checkFault_exit app options tree path).1, (checkFault_exit app options tree path).2, forbidden]
  exact ⟨⟨fun told => told.2.2, fun clean => ⟨finished, readable, clean⟩⟩,
    fun told => told.2.2, fun tainted => ⟨finished, readable, tainted⟩⟩

theorem exported_grows (options : Options) (report : Report) (tree : FileTree) :
    tree.Grows (exported options report tree).1 := by
  unfold exported
  split
  · exact FileTree.Grows.refl tree
  · exact report.writeFile_grows tree _ .sound

theorem Stripped.grows {app : Setup} {after : FileTree}
    (stripped : Stripped session options path app after) : session.tree.Grows after := by
  have ran := (app.service options).run_grows session.tree session.runId path .strip false
  have reported := exported_grows options (stripRun session options app path).result.report
    (stripRun session options app path).tree
  rw [stripped.report] at reported
  exact ran.trans reported

theorem Stripped.given {app : Setup} {after : FileTree}
    (stripped : Stripped session options path app after) : path ≠ "" := by
  rintro rfl
  exact Service.run_finished .strip stripped.run rfl

theorem Stripped.ends {app : Setup} {after : FileTree}
    (stripped : Stripped session options path app after) (verifies : options.verify = true) :
    (runCommand session options .strip path).tree = after ∧
      (runCommand session options .strip path).fault = checkFault app options after path := by
  have ends := strip_ends session path verifies
  generalize runCommand session options .strip path = outcome at ends ⊢
  rcases ends with ⟨other, again, fault⟩ | ⟨-, unfinished⟩
  · obtain rfl := Except.ok.inj (stripped.setup.symm.trans again.setup)
    have same : outcome.tree = after := by
      simpa using again.report.symm.trans stripped.report
    rw [same] at fault
    exact ⟨same, fault⟩
  · exact absurd ⟨app, after, stripped⟩ unfinished

theorem report_eq (outcome : Outcome) :
    (report outcome).fault = outcome.fault ∧ (report outcome).tree = outcome.tree := by
  unfold report
  split <;> exact ⟨rfl, rfl⟩

theorem execute_strip {arguments rest : List String}
    (command : Command.find arguments = .ok (.strip, rest))
    (parsed : parse (Command.strip.flags ++ [.help]) {} rest = .ok (options, [path]))
    (helpless : options.help = false) (writes : options.dryRun = false) :
    execute session arguments = report (runCommand session options .strip path) := by
  have single : Command.strip.checkArguments [path] = .ok () := rfl
  simp only [execute, command, runParsed, parsed, helpless, single, runWith, writes,
    Bool.false_eq_true, ↓reduceIte, List.headD_cons]

end Command

end CommandLine

open CommandLine in
/-- A strip command with a check ends in code 2 exactly if all went through and the check found
forbidden content. If it ends in code 0, none of the files that were selected for the run has any,
provided that the path has no double dot, or at least leads where its rooted form leads, and that
the ignore file reads as it did before. -/
theorem strip_verify_exit {session : Session} {arguments rest : List String} {options : Options}
    {path : String} (command : Command.find arguments = .ok (.strip, rest))
    (parsed : parse (Command.strip.flags ++ [.help]) {} rest = .ok (options, [path]))
    (helpless : options.help = false) (writes : options.dryRun = false)
    (verifies : options.verify = true) (trimmed : Text.trim path.toList = path.toList)
    (proper : session.tree.Proper)
    (covers : ∀ app, setup session options = .ok app → CoversDialects app.extensions) :
    let outcome := execute session arguments
    (exitCode outcome.fault = 0 → ∃ app, Stripped session options path app outcome.tree ∧
      (Path.up ∉ Path.parts path.toList ∨
          Aligned outcome.tree (Service.root session.tree path) path →
        SameIgnoreFile (app.selection options) session.tree outcome.tree
          (Service.root session.tree path) →
        ∀ target ∈ (app.service options).selected session.tree path, ∃ content,
          outcome.tree.readFile target.path = .ok content ∧
            ¬ Verify.Tainted app.patterns content)) ∧
    (exitCode outcome.fault = 2 ↔ ∃ app, Stripped session options path app outcome.tree ∧
      (app.checked options outcome.tree path).2 = none ∧
      Verify.Readable outcome.tree (app.checked options outcome.tree path).1 ∧
      Verify.Forbidden outcome.tree app.patterns (app.checked options outcome.tree path).1) := by
  intro outcome
  obtain ⟨same_fault, same_tree⟩ := report_eq (runCommand session options .strip path)
  rw [← execute_strip command parsed helpless writes] at same_fault same_tree
  change outcome.fault = _ at same_fault
  change outcome.tree = _ at same_tree
  rcases strip_ends session path verifies with
    ⟨app, stripped, fault⟩ | ⟨⟨fault, failed, plain⟩, unfinished⟩
  · rw [← same_fault, ← same_tree] at fault
    rw [← same_tree] at stripped
    obtain ⟨clean, found⟩ := checkFault_exit app options outcome.tree path
    rw [← fault] at clean found
    refine ⟨fun zero => ⟨app, stripped, fun aligned ignored target listed => ?_⟩, ?_⟩
    · obtain ⟨finished, readable, clear⟩ := clean.mp zero
      have aligned : Aligned outcome.tree (Service.root session.tree path) path :=
        aligned.elim (aligned_of_level proper stripped.grows stripped.given trimmed) id
      obtain ⟨other, among, same⟩ := select_partner proper stripped.grows stripped.given trimmed rfl
        app.extensions_proper (covers app stripped.setup) aligned ignored finished listed
      obtain ⟨content, read⟩ := readable other among
      exact ⟨content, same content read, fun tainted => clear ⟨other, among, content, read, tainted⟩⟩
    · rw [found]
      constructor
      · exact fun told => ⟨app, stripped, told⟩
      · rintro ⟨other, stripped', told⟩
        obtain rfl := Except.ok.inj (stripped.setup.symm.trans stripped'.setup)
        exact told
  · rw [← same_fault] at failed
    rw [failed]
    refine ⟨fun zero => absurd zero (exitCode_plain plain).1,
      fun two => absurd two (exitCode_plain plain).2, ?_⟩
    rintro ⟨app, stripped, -⟩
    exact absurd ⟨app, _, stripped⟩ unfinished

/-- A tree with a link behind which a double dot leads elsewhere than cleaning has it. -/
def FileTree.detour (first second : ByteArray) : FileTree where
  top := .link "l" "p/vendor" (.directory "p" (.directory "vendor" .nil
    (.file "x.lua" second .nil)) (.file "x.lua" first .nil))
  origin := []

def Target.detour : Target := ⟨"/x.lua", "x.lua", some .lua⟩

def CommandLine.Session.detour (first second : ByteArray) : Session where
  tree := .detour first second
  environment := []
  version := ""
  runId := "1"
  stamp := ⟨"", ""⟩

section Detour

open FileTree CommandLine

variable (first second : ByteArray)

theorem proper_detour : (FileTree.detour first second).Proper := by
  have named : ProperName "l" ∧ ProperName "p" ∧ ProperName "vendor" ∧ ProperName "x.lua" := by
    decide +kernel
  refine ⟨?_, _, rfl⟩
  simp [detour, Listing.Proper, Listing.find?, named]

theorem resolve_detour :
    (detour first second).resolve true "/x.lua" = .ok (.found ["x.lua"] (.file first)) ∧
    (detour first second).resolve true "x.lua" = .ok (.found ["x.lua"] (.file first)) ∧
    (detour first second).resolve true "l/../x.lua" = .ok (.found ["p", "x.lua"] (.file second)) ∧
    (detour first second).resolve true ".luastrip.yaml" =
      .ok (.free [] ".luastrip.yaml" false) := by
  have parts : names "/x.lua" = ["", "x.lua"] ∧ names "x.lua" = ["x.lua"] ∧
      names "l/../x.lua" = ["l", "..", "x.lua"] ∧ names "p/vendor" = ["p", "vendor"] ∧
      names ".luastrip.yaml" = [".luastrip.yaml"] := by decide +kernel
  have relative : isRooted "/x.lua" = true ∧ isRooted "x.lua" = false ∧
      isRooted "l/../x.lua" = false ∧ isRooted "p/vendor" = false ∧
      isRooted ".luastrip.yaml" = false := by decide +kernel
  have short : ∀ name ∈ ["l", "p", "vendor", "x.lua", ".luastrip.yaml"],
      ¬ maxNameBytes < name.utf8ByteSize := by decide +kernel
  simp only [List.forall_mem_cons] at short
  refine ⟨?_, ?_, ?_, ?_⟩ <;>
    simp [resolve, detour, parts, relative, resolveFrom, Listing.at?, Listing.find?, short, maxLinks]

theorem missing_detour : Config.findFile (detour first second) "" = .ok none := by
  have usual : Text.trimString "" = "" := by decide +kernel
  obtain ⟨-, -, -, free⟩ := resolve_detour first second
  simp only [Config.findFile, usual, Config.fileName, stat, node, free, ↓reduceIte]
  rfl

theorem select_detour : (detour first second).select "/x.lua"
    (Setup.default.service { verify := true }).selection = ([.detour], none) := by
  have stat : (detour first second).stat "/x.lua" = .ok (.file first) :=
    node_ok_iff.mpr ⟨_, (resolve_detour first second).1⟩
  exact select_single stat rfl (by decide +kernel)

theorem selected_detour {path : String}
    (root : Service.root (detour first second) path = "/x.lua") :
    Target.detour ∈ (Setup.default.service { verify := true }).selected (detour first second) path := by
  rw [Service.selected, root, select_detour]
  exact List.mem_singleton_self _

theorem stripped_detour {text : List Char} {path : String} (given : Text.trim path.toList ≠ [])
    (root : Service.root (detour (Text.encode text) second) path = "/x.lua")
    (same : (Setup.default.service { verify := true }).output
      ⟨Encoding.dropMark text, "utf-8"⟩ = Text.encode text) :
    Stripped (.detour (Text.encode text) second) { verify := true } path Setup.default
      (detour (Text.encode text) second) := by
  have loaded : (Setup.default.service { verify := true }).load
      (detour (Text.encode text) second) .detour = .ok (Text.encode text, ⟨_, "utf-8"⟩) :=
    Service.load_ok_iff.mpr ⟨readFile_ok_iff.mpr ⟨_, (resolve_detour _ second).1⟩, rfl,
      default_decode_encode text⟩
  obtain ⟨ran, left⟩ := Service.run_untouched "1" given (root ▸ select_detour _ second) loaded same
  refine ⟨⟨.table, by decide +kernel⟩, setup_default rfl rfl (missing_detour _ second) ⟨rfl, rfl, rfl⟩,
    ran, ?_⟩
  exact congrArg (·, none) left

theorem command_detour : (Session.detour first second).tree.Proper ∧
    ∀ app, setup (Session.detour first second) { verify := true } = .ok app →
      app = Setup.default ∧ CoversDialects app.extensions := by
  refine ⟨proper_detour first second, fun app ready => ?_⟩
  have usual : setup (Session.detour first second) { verify := true } = .ok Setup.default :=
    setup_default rfl rfl (missing_detour first second) ⟨rfl, rfl, rfl⟩
  obtain rfl := Except.ok.inj (usual.symm.trans ready)
  exact ⟨rfl, by decide +kernel⟩

theorem tainted_detour : Verify.Tainted Setup.default.patterns (Text.encode "DEBUG = 1\n".toList) ∧
    ¬ Verify.Tainted Setup.default.patterns (Text.encode "y = 1\n".toList) := by
  decide +kernel

theorem execute_detour {text : List Char} {path : String} {arguments rest : List String}
    (command : Command.find arguments = .ok (.strip, rest))
    (parsed : parse (Command.strip.flags ++ [.help]) {} rest = .ok ({ verify := true }, [path]))
    (given : Text.trim path.toList ≠ [])
    (root : Service.root (detour (Text.encode text) second) path = "/x.lua")
    (same : (Setup.default.service { verify := true }).output
      ⟨Encoding.dropMark text, "utf-8"⟩ = Text.encode text) :
    let session := Session.detour (Text.encode text) second
    (execute session arguments).tree = session.tree ∧ (execute session arguments).fault =
      checkFault Setup.default { verify := true } session.tree path := by
  intro session
  have ends := (stripped_detour second given root same).ends rfl
  rw [execute_strip command parsed rfl rfl, (report_eq _).1, (report_eq _).2]
  exact ends

theorem root_detour : Service.root (detour first second) "x.lua" = "/x.lua" ∧
    Service.root (detour first second) "l/../x.lua" = "/x.lua" := by
  have origin : (detour first second).origin = [] := rfl
  simp only [Service.root, origin]
  decide +kernel

theorem output_detour : ∀ text ∈ ["y = 1\n".toList, "DEBUG = 1\n".toList],
    (Setup.default.service { verify := true }).output ⟨Encoding.dropMark text, "utf-8"⟩ =
      Text.encode text := by
  have ruled : (Setup.default.service { verify := true }).rules = Rules.lua := rfl
  have same : ∀ text ∈ ["y = 1\n".toList, "DEBUG = 1\n".toList],
      (Decoded.sieved ⟨Encoding.dropMark text, "utf-8"⟩ Rules.lua).render = text := by
    decide +kernel
  intro text listed
  rw [Service.output_text ruled, same text listed]

end Detour

open CommandLine in
theorem strip_verify_exit_detour :
    let session := Session.detour (Text.encode "y = 1\n".toList) (Text.encode "DEBUG = 1\n".toList)
    let arguments := ["strip", "x.lua", "--verify"]
    let options : Options := { verify := true }
    let outcome := execute session arguments
    Command.find arguments = .ok (.strip, ["x.lua", "--verify"]) ∧
      parse (Command.strip.flags ++ [.help]) {} ["x.lua", "--verify"] = .ok (options, ["x.lua"]) ∧
      options.help = false ∧ options.dryRun = false ∧ options.verify = true ∧
      Text.trim "x.lua".toList = "x.lua".toList ∧ session.tree.Proper ∧
      (∀ app, setup session options = .ok app → CoversDialects app.extensions) ∧
      exitCode outcome.fault = 0 ∧
      Target.detour ∈ (Setup.default.service options).selected session.tree "x.lua" ∧
      ∃ content, outcome.tree.readFile Target.detour.path = .ok content ∧
        ¬ Verify.Tainted Setup.default.patterns content := by
  have command : Command.find ["strip", "x.lua", "--verify"] =
      .ok (.strip, ["x.lua", "--verify"]) := by decide +kernel
  have parsed : parse (Command.strip.flags ++ [.help]) {} ["x.lua", "--verify"] =
      .ok ({ verify := true }, ["x.lua"]) := by decide +kernel
  have trimmed : Text.trim "x.lua".toList = "x.lua".toList := by decide +kernel
  have level : Path.up ∉ Path.parts "x.lua".toList := by decide +kernel
  have given : Text.trim "x.lua".toList ≠ [] := by
    rw [trimmed]
    decide
  have same := output_detour "y = 1\n".toList (by simp)
  have clean := tainted_detour.2
  generalize Text.encode "DEBUG = 1\n".toList = second
  have root := (root_detour (Text.encode "y = 1\n".toList) second).1
  obtain ⟨-, led, -, -⟩ := resolve_detour (Text.encode "y = 1\n".toList) second
  obtain ⟨proper, usual⟩ := command_detour (Text.encode "y = 1\n".toList) second
  obtain ⟨left, ended⟩ := execute_detour second command parsed given root same
  generalize Text.encode "y = 1\n".toList = first at *
  intro session arguments options outcome
  have zero : exitCode outcome.fault = 0 := by
    rw [show outcome.fault = _ from ended]
    exact (checkFault_file (FileTree.readFile_ok_iff.mpr ⟨_, led⟩)).1.mpr clean
  have listed := selected_detour first second root
  have covers := fun app ready => (usual app ready).2
  obtain ⟨app, stripped, sound⟩ :=
    (strip_verify_exit command parsed rfl rfl rfl trimmed proper covers).1 zero
  obtain rfl := (usual app stripped.setup).1
  refine ⟨command, parsed, rfl, rfl, rfl, trimmed, proper, covers, zero, listed, ?_⟩
  refine sound (.inl level) (fun _ => ?_) .detour listed
  rw [show (execute session arguments).tree = _ from left]

open CommandLine in
/-- Exit code 0 alone does not tell that the files of the run are clean: a double dot behind a link
takes the check to another file than the run. -/
theorem strip_verify_misses :
    ¬ ∀ (session : Session) (arguments rest : List String) (options : Options) (path : String),
      Command.find arguments = .ok (.strip, rest) →
      parse (Command.strip.flags ++ [.help]) {} rest = .ok (options, [path]) →
      options.help = false → options.dryRun = false → options.verify = true →
      Text.trim path.toList = path.toList → session.tree.Proper →
      (∀ app, setup session options = .ok app → CoversDialects app.extensions) →
      exitCode (execute session arguments).fault = 0 →
      ∀ app, setup session options = .ok app →
        ∀ target ∈ (app.service options).selected session.tree path, ∀ content,
          (execute session arguments).tree.readFile target.path = .ok content →
            ¬ Verify.Tainted app.patterns content := by
  intro sound
  have command : Command.find ["strip", "l/../x.lua", "--verify"] =
      .ok (.strip, ["l/../x.lua", "--verify"]) := by decide +kernel
  have parsed : parse (Command.strip.flags ++ [.help]) {} ["l/../x.lua", "--verify"] =
      .ok ({ verify := true }, ["l/../x.lua"]) := by decide +kernel
  have trimmed : Text.trim "l/../x.lua".toList = "l/../x.lua".toList := by decide +kernel
  have given : Text.trim "l/../x.lua".toList ≠ [] := by
    rw [trimmed]
    decide
  have same := output_detour "DEBUG = 1\n".toList (by simp)
  obtain ⟨tainted, clean⟩ := tainted_detour
  generalize Text.encode "y = 1\n".toList = second at clean
  have root := (root_detour (Text.encode "DEBUG = 1\n".toList) second).2
  obtain ⟨led, -, led', -⟩ := resolve_detour (Text.encode "DEBUG = 1\n".toList) second
  obtain ⟨proper, usual⟩ := command_detour (Text.encode "DEBUG = 1\n".toList) second
  have stripped := stripped_detour second given root same
  obtain ⟨left, ended⟩ := execute_detour second command parsed given root same
  generalize Text.encode "DEBUG = 1\n".toList = first at *
  have zero : exitCode (execute (Session.detour first second)
      ["strip", "l/../x.lua", "--verify"]).fault = 0 := by
    rw [ended]
    exact (checkFault_file (FileTree.readFile_ok_iff.mpr ⟨_, led'⟩)).1.mpr clean
  have listed := selected_detour first second root
  refine sound _ _ _ _ _ command parsed rfl rfl rfl trimmed proper
    (fun app ready => (usual app ready).2) zero Setup.default stripped.setup .detour listed first ?_ tainted
  rw [left]
  exact FileTree.readFile_ok_iff.mpr ⟨_, led⟩

end LineSieve
