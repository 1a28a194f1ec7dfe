import LineSieve.Proofs.Run.Outcome
import LineSieve.Proofs.Run.Schedule

/- A run reports every file it writes. A target is concluded by one worker, which writes the file
   and makes the outcome in one stage, and an outcome that was made is collected before the run
   returns; a stop only keeps targets from being concluded. So the files that an interrupted run
   rewrote are those that its result calls written, wherever the stop fell. -/
namespace LineSieve

variable {service : Service} {runId : String} {mode : Mode} {targets : List Target}
  {tree : FileTree} {pool next first : Pool} {move : Move} {moves : List Move} {workers : Nat}
  {fault : Option Fault}

def Producer.fault? : Producer → Option Fault
  | walking _ fault => fault
  | offering _ _ fault => fault
  | ended _ fault => fault

/-- Why a run fails that ends in the given pool: for the fault of the walk, because it was canceled,
or because a write failed. -/
def Pool.fault? (pool : Pool) (mode : Mode) (failures : List FileFailure) : Option Fault :=
  (pool.producer.fault?.or (if pool.canceled then some (.cause .canceled) else none)).or
    (Service.unwritten? mode failures)

section Faults

theorem Step.faulty (step : Step service runId mode pool move next)
    (faulty : pool.producer.fault? ≠ none) : next.producer.fault? ≠ none := by
  cases step with
  | offer walking running =>
    rw [walking] at faulty
    exact faulty
  | dispatch offering room =>
    rw [offering] at faulty
    exact faulty
  | close walking =>
    rw [walking] at faulty
    exact faulty
  | quit walking halted => exact Option.some_ne_none _
  | halt | cancel | receive | accept | discard | read | conclude | send | stop | collect =>
    exact faulty

theorem Execution.faulty (run : Execution service runId mode first moves pool)
    (faulty : first.producer.fault? ≠ none) : pool.producer.fault? ≠ none := by
  induction run with
  | nil => exact faulty
  | snoc before step ih => exact step.faulty ih

theorem Execution.fails
    (run : Execution service runId mode (.start workers targets fault tree) moves pool)
    (stopped : pool.canceled = true ∨ fault ≠ none) (failures : List FileFailure) :
    pool.fault? mode failures ≠ none := by
  intro none
  obtain ⟨early, -⟩ := Option.or_eq_none_iff.mp none
  obtain ⟨faultless, going⟩ := Option.or_eq_none_iff.mp early
  rcases stopped with canceled | faulty
  · rw [canceled, if_pos rfl] at going
    cases going
  · exact run.faulty faulty faultless

end Faults

section Blocked

/-- The run was canceled before it gave out a target. -/
structure Pool.Blocked (pool : Pool) (tree : FileTree) : Prop where
  halted : pool.halted = true
  empty : ∀ target left fault, pool.producer ≠ .offering target left fault
  tasks : pool.tasks = []
  crew : ∀ worker ∈ pool.workers, worker = .idle ∨ worker = .stopped
  results : pool.results = []
  collected : pool.collected = []
  tree : pool.tree = tree

theorem Pool.Blocked.busy (blocked : pool.Blocked tree) {front back : List Worker} {worker : Worker}
    (crew : pool.workers = front ++ worker :: back) : worker = .idle ∨ worker = .stopped := by
  apply blocked.crew
  simp [crew]

theorem Step.blocked (step : Step service runId mode pool move next) (blocked : pool.Blocked tree) :
    next.Blocked tree := by
  cases step with
  | offer walking running => exact absurd (blocked.halted.symm.trans running) (by decide)
  | dispatch offering room => exact absurd offering (blocked.empty _ _ _)
  | close | quit => exact { blocked with empty := fun _ _ _ same => by cases same }
  | halt | cancel => exact { blocked with halted := rfl }
  | receive crew queued =>
    rw [blocked.tasks] at queued
    cases queued
  | accept crew | discard crew | read crew | conclude crew | send crew =>
    rcases blocked.busy crew with idle | stopped
    · cases idle
    · cases stopped
  | stop crew ended drained =>
    have all := blocked.crew
    rw [crew] at all
    exact { blocked with crew := forall_crew all (.inr rfl) }
  | collect queued =>
    rw [blocked.results] at queued
    cases queued

theorem Pool.blocked_start (workers : Nat) (targets : List Target) (fault : Option Fault)
    (tree : FileTree) :
    { start workers targets fault tree with canceled := true, halted := true : Pool }.Blocked
      tree where
  halted := rfl
  empty := fun _ _ _ same => by cases same
  tasks := rfl
  crew := fun _ among => .inl (List.eq_of_mem_replicate among)
  results := rfl
  collected := rfl
  tree := rfl

theorem Execution.blocked
    (run : Execution service runId mode (.start workers targets fault tree) moves pool)
    (early : moves.head? = some .cancel) : pool.Blocked tree := by
  induction run with
  | nil => cases early
  | snoc before step ih =>
    rename_i moves move pool next
    cases moves with
    | cons head rest => exact step.blocked (ih early)
    | nil =>
      -- The first move is the cancellation itself.
      obtain rfl : move = .cancel := Option.some.inj early
      have same : pool = .start workers targets fault tree := by
        generalize none : ([] : List Move) = moves at before
        cases before with
        | nil => rfl
        | snoc before step => simp at none
      subst same
      cases step with
      | cancel going => exact Pool.blocked_start workers targets fault tree

end Blocked

section Finished

theorem Pool.passed_end (staffed : pool.Staffed) (finished : pool.Finished) :
    pool.passed .conclude = pool.collected.map Outcome.number := by
  simp [passed, located_end staffed finished, List.filter_map, Function.comp_def, Stage.rank]

theorem numbered_apart (distinct : Distinct .strip tree targets) {numbers : List Nat}
    (nodup : numbers.Nodup) :
    (numbered targets numbers).Pairwise fun one two => ¬ tree.SameFile one.path two.path := by
  refine List.Pairwise.filterMap _ ?_ nodup
  intro one two differs target found other found'
  have fresh : two ∉ [one] := fun listed => differs (List.mem_singleton.mp listed).symm
  apply distinct.separate found' fresh rfl target
  rw [numbered, List.filterMap_cons_some found]
  exact List.mem_cons_self

theorem numbered_subset (targets : List Target) (numbers : List Nat) :
    numbered targets numbers ⊆ targets := by
  intro target listed
  obtain ⟨number, -, found⟩ := List.mem_filterMap.mp listed
  exact List.mem_of_getElem? found

theorem entries_numbered {outcomes : List Outcome}
    (sound : ∀ outcome ∈ outcomes, outcome.Sound service runId mode targets tree) :
    outcomes.map Outcome.entry =
      service.entries runId mode tree (numbered targets (outcomes.map Outcome.number)) := by
  induction outcomes with
  | nil => rfl
  | cons outcome outcomes ih =>
    have here := sound outcome List.mem_cons_self
    obtain ⟨target, found, entry⟩ := Option.map_eq_some_iff.mp here
    have rest := ih fun other among => sound other (List.mem_cons_of_mem _ among)
    rw [List.map_cons, List.map_cons, numbered, List.filterMap_cons_some found, ← numbered, rest,
      ← entry]
    rfl

/-- A report agrees with the tree: the files that were rewritten are those of the targets that are
reported as written, nothing else of the tree has changed, and every reported file is that of a
target. -/
structure Pool.Reports (pool : Pool) (tree : FileTree) (targets : List Target)
    (report : RunResult) : Prop where
  origin : pool.tree.origin = tree.origin
  alike : FileTree.Alike tree.top pool.tree.top
  rewritten : ∀ place, tree.Rewritten pool.tree place ↔
    ∃ target ∈ targets, tree.Leads target.path place ∧
      ∃ file ∈ report.files, file.path = target.display ∧ file.written = true
  shown : ∀ file ∈ report.files, ∃ target ∈ targets, target.display = file.path ∧
    ∃ place, tree.Leads target.path place

theorem Execution.reports (staffed : 0 < workers) (distinct : Distinct .strip tree targets)
    (shown : ∀ one ∈ targets, ∀ two ∈ targets, one.display = two.display → one = two)
    (run : Execution service runId .strip (.start workers targets fault tree) moves pool)
    (finished : pool.Finished) {outcomes : List Outcome} (perm : outcomes.Perm pool.collected)
    (result : RunResult) :
    pool.Reports tree targets (result.collect (outcomes.map Outcome.entry)) := by
  have sound := run.sound distinct
  have crew := run.staffed (Pool.staffed_start staffed targets fault tree)
  obtain ⟨done, concluded, now⟩ := sound.tree
  rw [Pool.passed_end crew finished] at concluded
  have nodup : (outcomes.map Outcome.number).Nodup := by
    have all : (pool.located.map Prod.fst).Nodup := run.numbers.nodup_iff.mpr List.nodup_range
    rw [Pool.located_end crew finished, List.map_append, List.map_map] at all
    exact (perm.map Outcome.number).nodup_iff.mpr all.of_append_left
  have apart := numbered_apart distinct nodup
  have part := numbered_subset targets (outcomes.map Outcome.number)
  have entries := entries_numbered fun outcome among =>
    sound.collected outcome (perm.mem_iff.mp among)
  -- The order in which the targets were concluded leaves no trace.
  have order := (concluded.trans (perm.map Outcome.number).symm).filterMap (targets[·]?)
  have tree_eq : pool.tree = tree.updateAll (service.updates .strip tree
      (numbered targets (outcomes.map Outcome.number))) := by
    rw [now]
    exact (Service.updates_perm order.symm fun _ => apart).symm
  obtain ⟨top, updated, alike⟩ := FileTree.updateAll_alike (Service.updates_covered service .strip
    tree (numbered targets (outcomes.map Outcome.number)))
  rw [entries]
  refine ⟨?_, ?_, ?_, ?_⟩
  · rw [tree_eq, updated]
  · rw [tree_eq, updated]
    exact alike
  · intro place
    simp only [RunResult.collect, sortFiles, List.mem_mergeSort]
    rw [tree_eq]
    exact Service.rewritten_iff_reported part apart shown
  · intro file listed
    simp only [RunResult.collect, sortFiles, List.mem_mergeSort] at listed
    obtain ⟨target, among, found⟩ := Service.entries_shown listed
    exact ⟨target, part among, found⟩

end Finished

theorem Service.run_canceled (service : Service) (tree : FileTree) (runId path : String)
    (mode : Mode) :
    let outcome := service.run tree runId path mode.name true
    outcome.tree = tree ∧ outcome.result.files = [] ∧ outcome.fault ≠ none := by
  obtain ⟨start, events, outcome⟩ := service.run_eq tree runId path mode true
  have idle : ∃ fault, service.idle? tree path true = some fault := by
    unfold idle?
    split
    · exact ⟨_, rfl⟩
    · cases (tree.select (root tree path) service.selection).2 <;> exact ⟨_, rfl⟩
  obtain ⟨fault, idle⟩ := idle
  rw [outcome]
  simp [handled, idle, processAll, RunResult.collect, RunResult.summaries, sortFiles]

/-- No write goes unreported. Take any number of workers, targets that a walk yields, none or all or
some of them before it fails, of which no two lead to one file, and any execution, canceled or not.
It can be carried on to the end, and at the end the files that were rewritten are those that are
reported as written, however the outcomes were put in order. A run that was canceled, or whose walk
failed, fails, and one that was canceled before it started changes nothing and reports no file. -/
theorem writes_reported (service : Service) (runId root : String) (tree : FileTree)
    (targets : List Target) (fault : Option Fault)
    (yielded : targets <+: (tree.select root service.selection).1)
    (distinct : Distinct .strip tree targets) (workers : Nat) (staffed : 0 < workers)
    (moves : List Move) (pool : Pool)
    (run : Execution service runId .strip (.start workers targets fault tree) moves pool) :
    (∃ more last,
      Execution service runId .strip (.start workers targets fault tree) (moves ++ more) last ∧
        last.canceled = pool.canceled ∧ last.Finished) ∧
    (pool.Finished → ∀ outcomes : List Outcome, outcomes.Perm pool.collected →
      ∀ result : RunResult,
      let report := result.collect (outcomes.map Outcome.entry)
      pool.Reports tree targets report ∧
        (pool.canceled = true ∨ fault ≠ none → pool.fault? .strip report.failures ≠ none) ∧
        (moves.head? = some .cancel → pool.tree = tree ∧ report.files = [])) ∧
    ∀ path, let early := service.run tree runId path "strip" true
      early.tree = tree ∧ early.result.files = [] ∧ early.fault ≠ none := by
  have shown : ∀ one ∈ targets, ∀ two ∈ targets, one.display = two.display → one = two :=
    fun _ among _ among' =>
      FileTree.select_display (yielded.subset among) (yielded.subset among')
  refine ⟨run.completes (Pool.staffed_start staffed targets fault tree), ?_, ?_⟩
  · intro finished outcomes perm result report
    refine ⟨run.reports staffed distinct shown finished perm result, ?_, ?_⟩
    · intro stopped
      exact run.fails stopped report.failures
    · intro early
      have blocked := run.blocked early
      rw [blocked.collected] at perm
      obtain rfl := perm.eq_nil
      refine ⟨blocked.tree, ?_⟩
      simp [report, RunResult.collect, RunResult.summaries, sortFiles]
  · intro path
    exact service.run_canceled tree runId path .strip

theorem writes_reported_pair :
    let service : Service := { rules := Rules.lua }
    let tree := FileTree.pair (Text.encode "x = 1 -- one\n".toList) (Text.encode "y = 2 --\n".toList)
    let start := Pool.start 1 Target.topPair none tree
    Target.topPair <+: (tree.select "/" service.selection).1 ∧
      Distinct .strip tree Target.topPair ∧ 0 < 1 ∧ ∃ moves pool,
      Execution service "1" .strip start moves pool ∧
      moves.take 5 = [.offer, .pass .dispatch 0, .pass .receive 0, .pass .accept 0, .cancel] ∧
      pool.Finished ∧ ∀ result : RunResult,
        let report := result.collect (pool.collected.map Outcome.entry)
        pool.Reports tree Target.topPair report ∧ pool.fault? .strip report.failures ≠ none := by
  intro service tree start
  have yielded : Target.topPair <+: (tree.select "/" service.selection).1 := by
    have selected : (tree.select "/" service.selection).1 = Target.topPair := by
      rw [FileTree.select_pair]
    exact ⟨[], by rw [selected, List.append_nil]⟩
  have distinct : Distinct .strip tree Target.topPair := distinct_topPair _ _ _
  have begun : Execution service "1" .strip start [] start := .nil
  have offered := begun.snoc (.offer rfl rfl)
  have dispatched := offered.snoc (.dispatch rfl (by decide))
  have received := dispatched.snoc (@Step.receive service "1" .strip _ [] [] _ _ rfl rfl)
  have accepted := received.snoc (@Step.accept service "1" .strip _ [] [] _ rfl rfl)
  have canceled := accepted.snoc (.cancel rfl)
  obtain ⟨⟨more, pool, run, stopped, finished⟩, -⟩ := writes_reported service "1" "/" tree
    Target.topPair none yielded distinct 1 (by decide) _ _ canceled
  obtain ⟨-, reports, -⟩ := writes_reported service "1" "/" tree Target.topPair none yielded
    distinct 1 (by decide) _ pool run
  refine ⟨yielded, distinct, by decide, _, pool, run, rfl, finished, ?_⟩
  intro result report
  obtain ⟨agrees, fails, -⟩ := reports finished pool.collected (.refl _) result
  exact ⟨agrees, fails (.inl stopped)⟩

end LineSieve
