import LineSieve.Proofs.Folders.Totals
import LineSieve.Proofs.Run.Entries

/- Failures stay with their files. What a target comes to depends on its own file and on whether its
   path may be written, so a run differs from one without failures in the entries and files of the
   targets that fail, and in what is counted of them. -/
namespace LineSieve

namespace Service

variable {service : Service} {mode : Mode} {tree : FileTree} {target : Target}
  {targets : List Target}

/-- What a run that selects the given targets and is not canceled can end in: as it handles the
targets one after another, or as any number of workers handles them, their outcomes put in order. -/
inductive Ends (service : Service) (mode : Mode) (tree : FileTree) (targets : List Target) :
    RunResult → Option Fault → FileTree → Prop where
  | serial {runId path : String} {outcome : RunOutcome} (given : Text.trim path.toList ≠ [])
      (selected : tree.select (root tree path) service.selection = (targets, none))
      (ran : service.run tree runId path mode.name false = outcome) :
      Ends service mode tree targets outcome.result outcome.fault outcome.tree
  | pooled {runId root : String} {workers : Nat} {moves : List Move} {pool : Pool}
      {outcomes : List Outcome} {start report : RunResult}
      (selected : tree.select root service.selection = (targets, none)) (staffed : 0 < workers)
      (run : Execution service runId mode (.start workers targets none tree) moves pool)
      (going : pool.canceled = false) (finished : pool.Finished)
      (perm : outcomes.Perm pool.collected)
      (sorted : outcomes.Pairwise fun one two => one.number ≤ two.number)
      (filled : start.collect (outcomes.map Outcome.entry) = report) :
      Ends service mode tree targets report (pool.fault? mode report.failures) pool.tree

section Ends

variable {report : RunResult} {fault : Option Fault} {last : FileTree}

theorem Ends.known (ends : service.Ends mode tree targets report fault last) :
    ∀ one ∈ targets, ∀ two ∈ targets, one.display = two.display → one = two := by
  obtain ⟨root, selected⟩ : ∃ root, tree.select root service.selection = (targets, none) := by
    cases ends with
    | serial given selected => exact ⟨_, selected⟩
    | pooled selected => exact ⟨_, selected⟩
  have same : targets = (tree.select root service.selection).1 := by rw [selected]
  rw [same]
  exact fun one among two among' => FileTree.select_display among among'

theorem Ends.settled (distinct : Distinct mode tree targets)
    (ends : service.Ends mode tree targets report fault last) : ∃ runId start,
      report = RunResult.collect start (service.entries runId mode tree targets) ∧
        fault = unwritten? mode report.failures ∧
        last = tree.updateAll (service.updates mode tree targets) := by
  cases ends with
  | @serial runId path outcome given selected ran =>
    have all : service.selected tree path = targets := by rw [Service.selected, selected]
    have busy : service.idle? tree path false = none := by
      simp [idle?, given, selected]
    have handled : service.handled tree path false = targets := by
      rw [Service.handled, busy, all]
      rfl
    obtain ⟨start, events, done⟩ : ∃ (start : RunResult) (events : List Log.Event),
        service.run tree runId path mode.name false = _ :=
      run_apart runId path mode false fun strip => all ▸ distinct strip
    rw [handled, busy] at done
    obtain rfl := done.symm.trans ran
    exact ⟨runId, start, rfl, rfl, rfl⟩
  | @pooled runId root workers moves pool outcomes start report selected staffed run going finished
      perm sorted filled =>
    subst filled
    have order := run.last_entries staffed distinct going finished perm sorted
    refine ⟨runId, start, congrArg start.collect order, ?_,
      run.last_tree staffed distinct going finished⟩
    obtain ⟨⟨left, ending, ended, -⟩, -⟩ := finished
    have faultless := (run.calm going ⟨rfl, rfl, rfl⟩).faultless
    rw [ended] at faultless
    rw [Pool.fault?, ended, going, Producer.fault?, faultless.2]
    rfl

end Ends

/-- A result accounts for the targets of a run. Each of them is in one entry: among the failures if
its file cannot be read, decoded or written, and among the files otherwise; the totals are those of
the files. What fails is left as it was, and the run fails exactly if a write has failed. -/
structure Accounts (service : Service) (mode : Mode) (tree : FileTree) (targets : List Target)
    (report : RunResult) (fault : Option Fault) (last : FileTree) : Prop where
  once : (report.files.map (·.path) ++ report.failures.map (·.path)).Perm
    (targets.map (·.display))
  kinds : ∀ failure ∈ report.failures, failure.kind = .read ∨ failure.kind = .write
  unread : ∀ target ∈ targets, report.Fails .read target ↔
    service.Unreadable tree target ∨ ∃ bytes e,
      tree.readFile target.path = .ok bytes ∧ service.decoder.decode bytes = .error e
  unwritten : ∀ target ∈ targets, report.Fails .write target ↔ mode = .strip ∧
    ∃ bytes decoded, tree.readFile target.path = .ok bytes ∧
      service.withholds target.path = none ∧ service.decoder.decode bytes = .ok decoded ∧
      service.output decoded ≠ bytes ∧
      ∃ fault, service.writeBack tree target.path (service.output decoded) = .error fault
  number : report.total.files = Int64.ofNat report.files.length
  totals : ∃ files, report.files = sortFiles files ∧
    (files.map (·.path)).Sublist (targets.map (·.display)) ∧
    (report.folders, report.total) = aggregate files
  untouched : ∀ target ∈ targets, ∀ kind, report.Fails kind target →
    last.readFile target.path = tree.readFile target.path
  failed : fault = some (.cause .writesFailed) ↔
    mode = .strip ∧ ∃ failure ∈ report.failures, failure.kind = .write
  faultless : fault = none ∨ fault = some (.cause .writesFailed)

/-- Two runs agree on a target: both report the same file for it and no failure, and leave the same
content where its path leads. -/
structure Agree (target : Target) (report : RunResult) (last : FileTree) (whole : RunResult)
    (whole_last : FileTree) : Prop where
  reported : ∃ file ∈ report.files, file.path = target.display
  files : ∀ file, file.path = target.display → (file ∈ report.files ↔ file ∈ whole.files)
  unfailing : ∀ kind, ¬ whole.Fails kind target
  content : last.readFile target.path = whole_last.readFile target.path

section Accounts

variable {report : RunResult} {fault : Option Fault} {last : FileTree}

theorem Comes.kinds {failure : FileFailure}
    (comes : service.Comes mode tree target (.failure failure)) :
    failure.kind = .read ∨ failure.kind = .write := by
  cases comes with
  | unread failed shown kind => exact .inl kind
  | unwritten loaded barred shown kind => exact .inr kind

theorem unwritten?_iff {failures : List FileFailure} :
    unwritten? mode failures = some (.cause .writesFailed) ↔
      mode = .strip ∧ ∃ failure ∈ failures, failure.kind = .write := by
  simp [unwritten?, hasFailure]

theorem unwritten?_cases (mode : Mode) (failures : List FileFailure) :
    unwritten? mode failures = none ∨
      unwritten? mode failures = some (.cause .writesFailed) := by
  unfold unwritten?
  split
  · exact .inr rfl
  · exact .inl rfl

theorem Ends.accounts (distinct : Distinct mode tree targets)
    (ends : service.Ends mode tree targets report fault last) :
    service.Accounts mode tree targets report fault last := by
  have known := ends.known
  obtain ⟨runId, start, rfl, rfl, rfl⟩ := ends.settled distinct
  have comes := service.process_comes runId mode tree
  have sorted := descending_perm (·.counts.total)
    (RunResult.summaries (service.entries runId mode tree targets))
  have shown := service.entries_path runId mode tree targets
  constructor
  case once => exact shown ▸ ((sorted.map _).append_right _).trans (entries_split _)
  case kinds =>
    intro failure listed
    obtain ⟨target, -, failed⟩ := mem_failuresOf_entries.mp listed
    exact (failed ▸ comes target).kinds
  case unread =>
    intro target among
    rw [fails_iff known among, (comes target).unread_iff, load_error_iff]
  case unwritten =>
    intro target among
    rw [fails_iff known among, (comes target).unwritten_iff]
    constructor
    · rintro ⟨bytes, decoded, loaded, barred⟩
      obtain ⟨strip, differs, refused⟩ := (barred_iff loaded).mp barred
      obtain ⟨read, free, understood⟩ := load_ok_iff.mp loaded
      exact ⟨strip, bytes, decoded, read, free, understood, differs, refused⟩
    · rintro ⟨strip, bytes, decoded, read, free, understood, differs, refused⟩
      have loaded := load_ok_iff.mpr ⟨read, free, understood⟩
      exact ⟨bytes, decoded, loaded, (barred_iff loaded).mpr ⟨strip, differs, refused⟩⟩
  case number =>
    have count := sorted.length_eq
    simp only [RunResult.collect, aggregate, grandTotal_eq]
    exact congrArg Int64.ofNat count.symm
  case totals =>
    refine ⟨_, rfl, ?_, rfl⟩
    rw [← shown]
    exact summaries_sublist _
  case untouched =>
    intro target among kind fails
    obtain ⟨failure, failed, -⟩ := (fails_iff known among start).mp fails
    exact readFile_failed distinct among failed
  case failed => exact unwritten?_iff
  case faultless => exact unwritten?_cases mode _

theorem Ends.agree (distinct : Distinct mode tree targets)
    (ends : service.Ends mode tree targets report fault last) {sound : FileTree}
    {whole : RunResult} {whole_fault : Option Fault} {whole_last : FileTree}
    (distinct' : Distinct mode sound targets)
    (ends' : service.permissive.Ends mode sound targets whole whole_fault whole_last)
    (among : target ∈ targets) (unfailing : ∀ kind, ¬ report.Fails kind target)
    (same : sound.readFile target.path = tree.readFile target.path) :
    Agree target report last whole whole_last := by
  have known := ends.known
  obtain ⟨runId, start, rfl, -, rfl⟩ := ends.settled distinct
  obtain ⟨again, start', rfl, -, rfl⟩ := ends'.settled distinct'
  have comes := service.process_comes runId mode tree target
  have shown := comes.path
  cases done : (service.process runId mode tree target).entry with
  | failure failure =>
    exact absurd ((fails_iff known among start).mpr ⟨failure, done, rfl⟩) (unfailing failure.kind)
  | summary file =>
    rw [done] at comes shown
    obtain ⟨bytes, decoded, loaded, free⟩ : ∃ bytes decoded,
        service.load tree target = .ok (bytes, decoded) ∧
          ¬ service.Barred mode target bytes decoded := by
      cases comes with
      | done loaded free => exact ⟨_, _, loaded, free⟩
    obtain ⟨loaded', free', entry⟩ := process_permissive runId again loaded free same
    constructor
    case reported =>
      have listed := (summary_reported_iff known among shown).mpr done
      exact ⟨file, (descending_perm _ _).mem_iff.mpr listed, shown⟩
    case files =>
      intro other shown'
      simp only [RunResult.collect, sortFiles, List.mem_mergeSort]
      rw [summary_reported_iff known among shown', summary_reported_iff known among shown', entry]
    case unfailing =>
      intro kind fails
      obtain ⟨failure, failed, -⟩ := (fails_iff known among start').mp fails
      cases (entry.trans done).symm.trans failed
    case content =>
      rw [readFile_done distinct among loaded free, readFile_done distinct' among loaded' free']
      rfl

end Accounts

end Service

/-- A failing file affects only itself. Take targets that a walk selects, of which, if files are
written, no two lead to one file, and any paths that refuse to be read or written. However the run
ends, its result accounts for the targets. A target that does not fail has the same entry and the
same final content as in a run where nothing is refused, on a tree with the same file for it and any
others. A run can be carried on to its end by any number of workers. -/
theorem failures_isolated (service : Service) (mode : Mode) (tree : FileTree)
    (targets : List Target) (distinct : Distinct mode tree targets) :
    (∀ (report : RunResult) (fault : Option Fault) (last : FileTree),
      service.Ends mode tree targets report fault last →
      service.Accounts mode tree targets report fault last ∧
      ∀ (sound : FileTree) (whole : RunResult) (whole_fault : Option Fault)
        (whole_last : FileTree), Distinct mode sound targets →
        service.permissive.Ends mode sound targets whole whole_fault whole_last →
        ∀ target ∈ targets, (∀ kind, ¬ report.Fails kind target) →
          sound.readFile target.path = tree.readFile target.path →
          Service.Agree target report last whole whole_last) ∧
    ∀ (runId : String) (workers : Nat), 0 < workers → ∀ (moves : List Move) (pool : Pool),
      Execution service runId mode (.start workers targets none tree) moves pool →
      pool.canceled = false → ∃ more last,
        Execution service runId mode (.start workers targets none tree) (moves ++ more) last ∧
          last.canceled = false ∧ last.Finished := by
  constructor
  · intro report fault last ends
    refine ⟨ends.accounts distinct, ?_⟩
    intro sound whole whole_fault whole_last distinct' ends' target among unfailing same
    exact ends.agree distinct distinct' ends' among unfailing same
  · intro runId workers staffed moves pool run going
    obtain ⟨more, last, rest, canceled, finished⟩ :=
      run.completes (Pool.staffed_start staffed targets none tree)
    exact ⟨more, last, rest, canceled.trans going, finished⟩

def Service.barring : Service where
  rules := Rules.lua
  refuses := fun path => if path = "/a.lua" then some "disk full" else none

theorem FileTree.readFile_topPair (first second : ByteArray) :
    (pair first second).readFile "/a.lua" = .ok first ∧
      (pair first second).readFile "/b.lua" = .ok second := by
  have one : (pair first second).resolve true "/a.lua" = .ok (.found ["a.lua"] (.file first)) := by
    cbv
  have two : (pair first second).resolve true "/b.lua" = .ok (.found ["b.lua"] (.file second)) := by
    cbv
  exact ⟨readFile_ok_iff.mpr ⟨_, one⟩, readFile_ok_iff.mpr ⟨_, two⟩⟩

theorem failures_isolated_pair :
    let tree := FileTree.pair (Text.encode "x = 1 -- one\n".toList)
      (Text.encode "y = 2 --\n".toList)
    let outcome := Service.barring.run tree "1" "." "strip" false
    let whole := Service.barring.permissive.run tree "2" "." "strip" false
    let first : Target := ⟨"/a.lua", "a.lua", some .lua⟩
    let second : Target := ⟨"/b.lua", "b.lua", some .lua⟩
    Distinct .strip tree [first, second] ∧
      Service.barring.Ends .strip tree [first, second] outcome.result outcome.fault
        outcome.tree ∧
      Service.barring.permissive.Ends .strip tree [first, second] whole.result whole.fault
        whole.tree ∧
      outcome.result.Fails .write first ∧ outcome.fault = some (.cause .writesFailed) ∧
      (∀ kind, ¬ outcome.result.Fails kind second) ∧
      Service.Agree second outcome.result outcome.tree whole.result whole.tree := by
  intro tree outcome whole first second
  have distinct : Distinct .strip tree [first, second] := distinct_topPair _ _ _
  have top : Service.root tree "." = "/" := by cbv
  have selected : tree.select (Service.root tree ".") {} = ([first, second], none) := by
    rw [top]
    exact FileTree.select_pair _ _
  have given : Text.trim ".".toList ≠ [] := by decide +kernel
  have ends : Service.barring.Ends .strip tree [first, second] outcome.result outcome.fault
      outcome.tree := .serial given selected rfl
  have ends' : Service.barring.permissive.Ends .strip tree [first, second] whole.result
      whole.fault whole.tree := .serial given selected rfl
  obtain ⟨accounts, agrees⟩ :=
    (failures_isolated Service.barring .strip tree [first, second] distinct).1 _ _ _ ends
  obtain ⟨read, read'⟩ := FileTree.readFile_topPair (Text.encode "x = 1 -- one\n".toList)
    (Text.encode "y = 2 --\n".toList)
  have understood (text : List Char) : Service.barring.decoder.decode (Text.encode text) =
      .ok ⟨Encoding.dropMark text, "utf-8"⟩ := default_decode_encode text
  have differs : Service.barring.output ⟨Encoding.dropMark "x = 1 -- one\n".toList, "utf-8"⟩ ≠
      Text.encode "x = 1 -- one\n".toList := fun same =>
    absurd (Text.encode_inj same) (by decide +kernel)
  have failed : outcome.result.Fails .write first := by
    refine (accounts.unwritten first (by simp)).mpr
      ⟨rfl, _, _, read, rfl, understood _, differs, .other "disk full", ?_⟩
    obtain ⟨place, led⟩ := FileTree.readFile_ok_iff.mp read
    rw [Service.writeBack_file led]
    rfl
  have broken : outcome.fault = some (.cause .writesFailed) := by
    obtain ⟨failure, listed, -, kind⟩ := failed
    exact accounts.failed.mpr ⟨rfl, failure, listed, kind⟩
  have unfailing : ∀ kind, ¬ outcome.result.Fails kind second := by
    rintro kind ⟨failure, listed, shown, rfl⟩
    rcases accounts.kinds failure listed with kind | kind
    · rcases (accounts.unread second (by simp)).mp ⟨failure, listed, shown, kind⟩ with
        (⟨e, unread⟩ | withheld) | ⟨bytes, e, same, undecoded⟩
      · cases read'.symm.trans unread
      · exact absurd rfl withheld
      · cases read'.symm.trans same
        cases (understood _).symm.trans undecoded
    · obtain ⟨-, bytes, decoded, -, -, -, -, fault, refused⟩ :=
        (accounts.unwritten second (by simp)).mp ⟨failure, listed, shown, kind⟩
      obtain ⟨after, written⟩ : ∃ after, Service.barring.writeBack tree second.path
          (Service.barring.output decoded) = .ok after :=
        Service.writeBack_accepts read' rfl _
      cases written.symm.trans refused
  exact ⟨distinct, ends, ends', failed, broken, unfailing,
    agrees tree _ _ _ distinct ends' second (by simp) unfailing rfl⟩

end LineSieve
