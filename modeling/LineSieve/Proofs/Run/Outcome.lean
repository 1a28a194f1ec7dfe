import LineSieve.Proofs.Run.Effects

/- What a run leaves in terms of the targets it handles: all that are selected, or none if the run
   fails before it starts. Targets that lead to different files each have the entry and the update
   that they have on the tree before the run. -/
namespace LineSieve

theorem collect_nil (runId mode : String) :
    ({ runId, mode } : RunResult).collect [] = { runId, mode } := by
  simp [RunResult.collect, RunResult.summaries, RunResult.failuresOf, aggregate, folderTotals,
    grandTotal, sortFolders, sortFiles]

namespace Service

variable {service : Service} {mode : Mode} {tree : FileTree}

def root (tree : FileTree) (path : String) : String :=
  String.ofList (Path.absolute (rootedPath tree.origin).toList (Text.trim path.toList))

/-- The files that are selected for a run. -/
def selected (service : Service) (tree : FileTree) (path : String) : List Target :=
  (tree.select (root tree path) service.selection).1

/-- Why a run handles no file at all, if it does not. -/
def idle? (service : Service) (tree : FileTree) (path : String) (canceled : Bool) :
    Option Fault :=
  if (Text.trim path.toList).isEmpty then some (.other "scan path is empty")
  else
    (tree.select (root tree path) service.selection).2.or
      (if canceled then some (.cause .canceled) else none)

/-- The files that a run handles. -/
def handled (service : Service) (tree : FileTree) (path : String) (canceled : Bool) :
    List Target :=
  if (service.idle? tree path canceled).isSome then [] else service.selected tree path

def unwritten? (mode : Mode) (failures : List FileFailure) : Option Fault :=
  if mode = .strip && hasFailure .write failures then some (.cause .writesFailed) else none

theorem run_eq (service : Service) (tree : FileTree) (runId path : String) (mode : Mode)
    (canceled : Bool) :
    let done := service.processAll runId mode tree (service.handled tree path canceled)
    ∃ (start : RunResult) (events : List Log.Event),
      service.run tree runId path mode.name canceled =
        ⟨start.collect done.1, (service.idle? tree path canceled).or
          (unwritten? mode (RunResult.failuresOf done.1)), done.2.1, events⟩ := by
  have named : Mode.ofName? mode.name = some mode := by cases mode <;> decide
  unfold run
  rw [named]
  cases empty : (Text.trim path.toList).isEmpty with
  | true =>
    refine ⟨{ runId, mode := mode.name }, [], ?_⟩
    simp only [handled, idle?, empty, ↓reduceIte, Option.isSome_some, processAll, collect_nil]
    rfl
  | false =>
    cases chosen : tree.select (root tree path) service.selection with
    | mk targets fault =>
      have chosen' := chosen
      unfold root at chosen'
      simp only [handled, idle?, selected, empty, chosen, chosen', Bool.false_eq_true, ↓reduceIte]
      cases fault with
      | some fault => exact ⟨_, _, rfl⟩
      | none =>
        cases canceled with
        | true => exact ⟨_, _, rfl⟩
        | false => exact ⟨_, _, rfl⟩

theorem handled_sublist (service : Service) (tree : FileTree) (path : String) (canceled : Bool) :
    (service.handled tree path canceled).Sublist (service.selected tree path) := by
  unfold handled
  split
  · exact List.nil_sublist _
  · exact List.Sublist.refl _

theorem run_apart (runId path : String) (mode : Mode) (canceled : Bool)
    (apart : mode = .strip → (service.selected tree path).Pairwise fun one two =>
      ¬ tree.SameFile one.path two.path) :
    let targets := service.handled tree path canceled
    let entries := service.entries runId mode tree targets
    ∃ (start : RunResult) (events : List Log.Event),
      service.run tree runId path mode.name canceled =
        ⟨start.collect entries, (service.idle? tree path canceled).or
          (unwritten? mode (RunResult.failuresOf entries)),
          tree.updateAll (service.updates mode tree targets), events⟩ := by
  intro targets entries
  obtain ⟨start, events, outcome⟩ := run_eq service tree runId path mode canceled
  obtain ⟨same, last⟩ : (service.processAll runId mode tree targets).1 = entries ∧
      (service.processAll runId mode tree targets).2.1 =
        tree.updateAll (service.updates mode tree targets) :=
    processAll_frame [] targets fun strip =>
      (apart strip).sublist (service.handled_sublist tree path canceled)
  refine ⟨start, events, ?_⟩
  rw [outcome, same, last]

end Service

end LineSieve
