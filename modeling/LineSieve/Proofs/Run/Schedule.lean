import LineSieve.Proofs.Aggregate
import LineSieve.Proofs.Run.Frame
import LineSieve.Proofs.Run.Progress

/- The result of a run does not depend on its schedule. Whatever is in the pool is what its target
   comes to on the tree before the run, since no target reads a file that another one writes; when
   the pool has finished, the numbers put the outcomes back into the order of the walk. -/
namespace LineSieve

variable {service : Service} {runId : String} {mode : Mode} {targets : List Target}
  {tree : FileTree} {pool next : Pool} {move : Move} {moves : List Move}

/-- In a run that writes, no two targets lead to one file. -/
def Distinct (mode : Mode) (tree : FileTree) (targets : List Target) : Prop :=
  mode = .strip → targets.Pairwise fun one two => ¬ tree.SameFile one.path two.path

def numbered (targets : List Target) (numbers : List Nat) : List Target :=
  numbers.filterMap fun number => targets[number]?

theorem getElem?_range {α : Type} (items : List α) :
    (List.range items.length).map (fun number => items[number]?) = items.map some := by
  apply List.ext_getElem
  · simp
  · intro number inside inside'
    simp

theorem numbered_range (targets : List Target) :
    numbered targets (List.range targets.length) = targets := by
  have found := congrArg (List.filterMap id) (getElem?_range targets)
  simpa [List.filterMap_map, Function.comp_def, numbered] using found

theorem numbered_perm {done : List Nat} (all : done.Perm (List.range targets.length)) :
    (numbered targets done).Perm targets := by
  have perm := all.filterMap fun number => targets[number]?
  rwa [← numbered, ← numbered, numbered_range] at perm

theorem Distinct.separate (distinct : Distinct mode tree targets) {number : Nat} {target : Target}
    (own : targets[number]? = some target) {done : List Nat} (fresh : number ∉ done) :
    Service.Separate mode tree (numbered targets done) target := by
  intro strip other listed same
  obtain ⟨earlier, among, found⟩ := List.mem_filterMap.mp listed
  have differs : earlier ≠ number := fun equal => fresh (equal ▸ among)
  obtain ⟨inside, rfl⟩ := List.getElem?_eq_some_iff.mp own
  obtain ⟨inside', rfl⟩ := List.getElem?_eq_some_iff.mp found
  have pairwise := List.pairwise_iff_getElem.mp (distinct strip)
  rcases Nat.lt_or_gt_of_ne differs with before | after
  · exact pairwise _ _ inside' inside before same
  · exact pairwise _ _ inside inside' after same.symm

section Sound

variable (service runId mode targets tree)

def Task.Sound (task : Task) : Prop := targets[task.number]? = some task.target

/-- The entry is the one that the target with this number comes to on the tree before the run. -/
def Outcome.Sound (outcome : Outcome) : Prop :=
  targets[outcome.number]?.map (fun target => (service.process runId mode tree target).entry) =
    some outcome.entry

def Worker.Sound : Worker → Prop
  | idle => True
  | holding task => task.Sound targets
  | reading task => task.Sound targets
  | loaded task content => task.Sound targets ∧ content = service.load tree task.target
  | sending outcome => outcome.Sound service runId mode targets tree
  | stopped => True

def Producer.pending : Producer → List Target
  | walking left _ => left
  | offering target left _ => target :: left
  | ended left _ => left

/-- What is in the pool belongs to the targets, as from the tree before the run, and the tree has
the updates of those that were concluded. -/
structure Pool.Sound (pool : Pool) : Prop where
  given : pool.dispatched ≤ targets.length
  pending : pool.producer.pending = targets.drop pool.dispatched
  tasks : ∀ task ∈ pool.tasks, task.Sound targets
  crew : ∀ worker ∈ pool.workers, worker.Sound service runId mode targets tree
  results : ∀ outcome ∈ pool.results, outcome.Sound service runId mode targets tree
  collected : ∀ outcome ∈ pool.collected, outcome.Sound service runId mode targets tree
  tree : ∃ done, done.Perm (pool.passed .conclude) ∧
    pool.tree = tree.updateAll (service.updates mode tree (numbered targets done))

end Sound

theorem drop_cons {left : List Target} {target : Target} {number : Nat}
    (pending : target :: left = targets.drop number) :
    targets[number]? = some target ∧ left = targets.drop (number + 1) := by
  constructor
  · rw [← List.head?_drop, ← pending]
    rfl
  · rw [← List.tail_drop, ← pending]
    rfl

theorem forall_crew {P : Worker → Prop} {front back : List Worker} {worker other : Worker}
    (all : ∀ each ∈ front ++ worker :: back, P each) (new : P other) :
    ∀ each ∈ front ++ other :: back, P each := by
  intro each among
  rw [List.mem_append, List.mem_cons] at among
  rcases among with among | rfl | among
  · exact all each (by simp [among])
  · exact new
  · exact all each (by simp [among])

theorem Step.tree_kept (step : Step service runId mode pool move next)
    (sound : pool.Sound service runId mode targets tree) (quiet : move.at? .conclude = none)
    (same : next.tree = pool.tree) :
    ∃ done, done.Perm (next.passed .conclude) ∧
      next.tree = tree.updateAll (service.updates mode tree (numbered targets done)) := by
  obtain ⟨done, perm, now⟩ := sound.tree
  have passed := step.passed .conclude
  rw [quiet] at passed
  exact ⟨done, perm.trans passed.symm, same.trans now⟩

theorem Pool.mem_located {front back : List Worker} {worker : Worker}
    (crew : pool.workers = front ++ worker :: back) {spot : Nat × Stage}
    (at' : worker.at? = some spot) : spot ∈ pool.located := by
  have among : worker ∈ pool.workers := by simp [crew]
  have listed : spot ∈ pool.workers.filterMap Worker.at? :=
    List.mem_filterMap.mpr ⟨worker, among, at'⟩
  simp [located, listed]

theorem Pool.Sound.separate (sound : pool.Sound service runId mode targets tree)
    (distinct : Distinct mode tree targets) {task : Task} (own : task.Sound targets)
    (fresh : task.number ∉ pool.passed .conclude) :
    ∃ done, done.Perm (pool.passed .conclude) ∧
      pool.tree = tree.updateAll (service.updates mode tree (numbered targets done)) ∧
      Service.Separate mode tree (numbered targets done) task.target := by
  obtain ⟨done, perm, now⟩ := sound.tree
  exact ⟨done, perm, now, distinct.separate own fun listed => fresh (perm.mem_iff.mp listed)⟩

theorem Pool.Sound.load (sound : pool.Sound service runId mode targets tree)
    (distinct : Distinct mode tree targets) {task : Task} (own : task.Sound targets)
    (fresh : task.number ∉ pool.passed .conclude) :
    service.load pool.tree task.target = service.load tree task.target := by
  obtain ⟨done, -, now, separate⟩ := sound.separate distinct own fresh
  rw [now]
  exact separate.load

theorem Pool.Sound.conclude (sound : pool.Sound service runId mode targets tree)
    (distinct : Distinct mode tree targets) {task : Task} (own : task.Sound targets)
    (fresh : task.number ∉ pool.passed .conclude) :
    let loaded := service.load tree task.target
    let processed := service.conclude runId mode task.target loaded pool.tree
    Outcome.Sound service runId mode targets tree ⟨task.number, processed.entry⟩ ∧
      ∃ done, done.Perm (task.number :: pool.passed .conclude) ∧
        processed.tree = tree.updateAll (service.updates mode tree (numbered targets done)) := by
  intro loaded processed
  obtain ⟨done, perm, now, separate⟩ := sound.separate distinct own fresh
  obtain ⟨entry, after⟩ : Service.Framed service runId mode tree
    (tree.updateAll (service.updates mode tree (numbered targets done))) task.target :=
      Service.framed separate.agrees
  rw [← now] at entry after
  refine ⟨?_, done ++ [task.number], ?_, ?_⟩
  · rw [Outcome.Sound, own, entry]
    rfl
  · exact (List.perm_append_singleton _ _).trans (perm.cons _)
  · have numbers : numbered targets (done ++ [task.number]) =
        numbered targets done ++ [task.target] := by
      rw [numbered, List.filterMap_append, List.filterMap_cons_some own]
      rfl
    rw [numbers, Service.updateAll_updates_concat, ← now]
    exact after

theorem Step.sound (step : Step service runId mode pool move next)
    (sound : pool.Sound service runId mode targets tree) (distinct : Distinct mode tree targets)
    (fresh : ∀ number at', (number, at') ∈ pool.located → at'.rank < Stage.conclude.rank →
      number ∉ pool.passed .conclude) :
    next.Sound service runId mode targets tree := by
  have kept := step.tree_kept sound
  have passed := step.passed .conclude
  have pending := sound.pending
  have workers := sound.crew
  cases step with
  | offer walking running =>
    rw [walking] at pending
    exact { sound with pending := pending }
  | dispatch offering room =>
    rw [offering] at pending
    obtain ⟨own, rest⟩ := drop_cons pending
    refine { sound with given := ?_, pending := rest, tasks := ?_, tree := kept rfl rfl }
    · exact (List.getElem?_eq_some_iff.mp own).1
    · exact List.forall_mem_append.mpr ⟨sound.tasks, List.forall_mem_singleton.mpr own⟩
  | close walking =>
    rw [walking] at pending
    exact { sound with pending := pending }
  | quit walking halted =>
    rcases walking with walking | offering
    · rw [walking] at pending
      exact { sound with pending := pending }
    · rw [offering] at pending
      exact { sound with pending := pending }
  | halt | cancel => exact { sound with }
  | receive crew queued =>
    rw [crew] at workers
    have tasks := sound.tasks
    rw [queued] at tasks
    obtain ⟨own, rest⟩ := List.forall_mem_cons.mp tasks
    exact { sound with tasks := rest, crew := forall_crew workers own, tree := kept rfl rfl }
  | accept crew running =>
    rw [crew] at workers
    have own := workers _ List.mem_append_cons_self
    exact { sound with crew := forall_crew workers own, tree := kept rfl rfl }
  | discard crew | stop crew =>
    rw [crew] at workers
    exact { sound with crew := forall_crew workers trivial, tree := kept rfl rfl }
  | read crew =>
    rename_i front back task
    rw [crew] at workers
    have own : task.Sound targets := workers (.reading task) List.mem_append_cons_self
    -- The number is still with this worker, so none of the updates is for its file.
    have unfinished := fresh task.number .accept (Pool.mem_located crew rfl) (by decide)
    have loaded := sound.load distinct own unfinished
    exact { sound with crew := forall_crew workers ⟨own, loaded⟩, tree := kept rfl rfl }
  | conclude crew result =>
    rename_i front back task content processed
    rw [crew] at workers
    obtain ⟨own, rfl⟩ : task.Sound targets ∧ content = service.load tree task.target :=
      workers (.loaded task content) List.mem_append_cons_self
    have unfinished := fresh task.number .read (Pool.mem_located crew rfl) (by decide)
    obtain ⟨outcome, done, perm, after⟩ := sound.conclude distinct own unfinished
    rw [← result] at outcome after
    have updated := perm.trans passed.symm
    exact { sound with crew := forall_crew workers outcome, tree := ⟨done, updated, after⟩ }
  | send crew room =>
    rw [crew] at workers
    have outcome := workers _ List.mem_append_cons_self
    refine { sound with crew := forall_crew workers trivial, results := ?_, tree := kept rfl rfl }
    exact List.forall_mem_append.mpr ⟨sound.results, List.forall_mem_singleton.mpr outcome⟩
  | collect queued =>
    have results := sound.results
    rw [queued] at results
    obtain ⟨outcome, rest⟩ := List.forall_mem_cons.mp results
    refine { sound with results := rest, collected := ?_, tree := kept rfl rfl }
    exact List.forall_mem_append.mpr ⟨sound.collected, List.forall_mem_singleton.mpr outcome⟩

theorem Execution.sound {workers : Nat} {fault : Option Fault}
    (run : Execution service runId mode (.start workers targets fault tree) moves pool)
    (distinct : Distinct mode tree targets) : pool.Sound service runId mode targets tree := by
  induction run with
  | nil =>
    refine ⟨Nat.zero_le _, rfl, ?_, ?_, ?_, ?_, [], ?_, rfl⟩
    · exact List.forall_mem_nil _
    · intro worker among
      rw [List.eq_of_mem_replicate among]
      trivial
    · exact List.forall_mem_nil _
    · exact List.forall_mem_nil _
    · rw [Pool.passed, Pool.located_start]
      rfl
  | snoc before step ih =>
    exact step.sound ih distinct fun number at' spot early => before.not_passed spot early

def Producer.Faultless : Producer → Prop
  | walking _ fault => fault = none
  | offering _ _ fault => fault = none
  | ended left fault => left = [] ∧ fault = none

/-- Nothing stops the run before its end. -/
structure Pool.Calm (pool : Pool) : Prop where
  running : pool.halted = false
  kept : pool.dropped = []
  faultless : pool.producer.Faultless

theorem Step.canceled (step : Step service runId mode pool move next)
    (going : next.canceled = false) : pool.canceled = false := by
  cases step with
  | cancel => cases going
  | _ => exact going

theorem Step.calm (step : Step service runId mode pool move next) (going : next.canceled = false)
    (calm : pool.Calm) : next.Calm := by
  have faultless := calm.faultless
  cases step with
  | offer walking running =>
    rw [walking] at faultless
    exact ⟨running, calm.kept, faultless⟩
  | dispatch offering room =>
    rw [offering] at faultless
    exact ⟨calm.running, calm.kept, faultless⟩
  | close walking =>
    rw [walking] at faultless
    exact ⟨calm.running, calm.kept, rfl, faultless⟩
  | quit walking halted =>
    rw [calm.running] at halted
    cases halted
  | halt ended running =>
    rw [ended] at faultless
    cases faultless.2
  | cancel => cases going
  | discard crew halted =>
    rw [calm.running] at halted
    cases halted
  | receive | accept | read | conclude | send | stop | collect =>
    exact ⟨calm.running, calm.kept, calm.faultless⟩

theorem Execution.calm {first : Pool} (run : Execution service runId mode first moves pool)
    (going : pool.canceled = false) (calm : first.Calm) : pool.Calm := by
  induction run with
  | nil => exact calm
  | snoc before step ih => exact step.calm going (ih (step.canceled going))

theorem Pool.located_end (staffed : pool.Staffed) (finished : pool.Finished) :
    pool.located = pool.collected.map (fun outcome => (outcome.number, .collect)) ++
      pool.dropped.map fun number => (number, .receive) := by
  obtain ⟨-, stopped, emptied⟩ := finished
  obtain ⟨worker, others, crew⟩ := List.exists_cons_of_ne_nil staffed.crew
  have among : worker ∈ pool.workers := by simp [crew]
  -- A worker does not stop while there is something to take.
  have drained : pool.tasks = [] := (staffed.stopped (stopped worker among ▸ among)).2
  have silent : pool.workers.filterMap Worker.at? = [] := by
    rw [List.filterMap_eq_nil_iff]
    intro worker among
    rw [stopped worker among]
    rfl
  simp [located, drained, silent, emptied]

theorem Pool.located_finished (calm : pool.Calm) (staffed : pool.Staffed)
    (finished : pool.Finished) :
    pool.located = pool.collected.map fun outcome => (outcome.number, .collect) := by
  rw [located_end staffed finished, calm.kept, List.map_nil, List.append_nil]

theorem Pool.passed_finished (calm : pool.Calm) (staffed : pool.Staffed)
    (finished : pool.Finished) (stage : Stage) :
    pool.passed stage = pool.collected.map Outcome.number := by
  have early : ∀ spot ∈ pool.located, decide (stage.rank ≤ spot.2.rank) = true := by
    rw [located_finished calm staffed finished]
    intro spot among
    obtain ⟨outcome, -, rfl⟩ := List.mem_map.mp among
    cases stage <;> rfl
  rw [passed, List.filter_eq_self.mpr early, located_finished calm staffed finished, List.map_map]
  rfl

theorem Pool.dispatched_finished (calm : pool.Calm)
    (sound : pool.Sound service runId mode targets tree) (finished : pool.Finished) :
    pool.dispatched = targets.length := by
  obtain ⟨⟨left, fault, ended, -⟩, -⟩ := finished
  have faultless := calm.faultless
  have pending := sound.pending
  rw [ended] at faultless pending
  have all : targets.drop pool.dispatched = [] := pending.symm.trans faultless.1
  exact Nat.le_antisymm sound.given (List.drop_eq_nil_iff.mp all)

theorem entries_ordered {outcomes : List Outcome}
    (sound : ∀ outcome ∈ outcomes, outcome.Sound service runId mode targets tree)
    (numbers : (outcomes.map Outcome.number).Perm (List.range targets.length))
    (sorted : outcomes.Pairwise fun one two => one.number ≤ two.number) :
    outcomes.map Outcome.entry =
      targets.map fun target => (service.process runId mode tree target).entry := by
  have range : outcomes.map Outcome.number = List.range targets.length := by
    refine numbers.eq_of_pairwise (fun _ _ _ _ => Nat.le_antisymm) (List.pairwise_map.mpr sorted) ?_
    exact List.pairwise_lt_range.imp Nat.le_of_lt
  have entries := congrArg
    (List.map (Option.map fun target => (service.process runId mode tree target).entry))
    (getElem?_range targets)
  rw [← range, List.map_map, List.map_map, List.map_map] at entries
  have own : outcomes.map (fun outcome => some outcome.entry) =
      targets.map fun target => some (service.process runId mode tree target).entry := by
    refine (List.map_congr_left fun outcome among => ?_).trans entries
    exact (sound outcome among).symm
  apply List.map_injective_iff.mpr fun _ _ => Option.some.inj
  rw [List.map_map, List.map_map]
  exact own

section Finished

variable {workers : Nat} (staffed : 0 < workers) (distinct : Distinct mode tree targets)
  (run : Execution service runId mode (.start workers targets none tree) moves pool)
  (going : pool.canceled = false) (finished : pool.Finished)

include staffed distinct run going finished

theorem Execution.all_passed (stage : Stage) :
    pool.passed stage = pool.collected.map Outcome.number ∧
      (pool.passed stage).Perm (List.range targets.length) := by
  have calm := run.calm going ⟨rfl, rfl, rfl⟩
  have crew := run.staffed (Pool.staffed_start staffed targets none tree)
  have passed := Pool.passed_finished calm crew finished
  refine ⟨passed stage, ?_⟩
  rw [passed stage, ← passed .dispatch, pool.passed_dispatch,
    ← Pool.dispatched_finished calm (run.sound distinct) finished]
  exact run.numbers

theorem Execution.last_tree :
    pool.tree = tree.updateAll (service.updates mode tree targets) := by
  obtain ⟨done, perm, now⟩ := (run.sound distinct).tree
  have all := numbered_perm
    (perm.trans (run.all_passed staffed distinct going finished .conclude).2)
  rw [now]
  exact (Service.updates_perm all.symm distinct).symm

theorem Execution.last_entries {outcomes : List Outcome} (perm : outcomes.Perm pool.collected)
    (sorted : outcomes.Pairwise fun one two => one.number ≤ two.number) :
    outcomes.map Outcome.entry =
      targets.map fun target => (service.process runId mode tree target).entry := by
  have sound : ∀ outcome ∈ outcomes, outcome.Sound service runId mode targets tree :=
    fun outcome among => (run.sound distinct).collected outcome (perm.mem_iff.mp among)
  obtain ⟨collected, all⟩ := run.all_passed staffed distinct going finished .collect
  rw [collected] at all
  exact entries_ordered sound ((perm.map Outcome.number).trans all) sorted

end Finished

theorem collect_order (result : RunResult) (entries : List Entry) :
    let report := result.collect entries
    report.failures = RunResult.failuresOf entries ∧
      report.files.Pairwise (fun a b => b.counts.total ≤ a.counts.total) ∧
      ∀ total, report.files.filter (fun file => file.counts.total = total) =
        (RunResult.summaries entries).filter fun file => file.counts.total = total := by
  simp only [RunResult.collect, sortFiles_eq]
  exact ⟨trivial, descending_sorted _ _, fun total => descending_stable _ _ total⟩

/-- The result of a run does not depend on its schedule. Take any number of workers and targets of
which, if files are written, no two lead to one file, and any execution that was not canceled. It is
of bounded length and can be carried on to the end. At the end every number has passed every stage
exactly once, the tree is the one that handling the targets one after another leaves, and so is the
result, whichever way the outcomes were sorted by number: failures are in the order of the walk, and
files by their totals with equals in the order of the walk. -/
theorem schedule_irrelevant (service : Service) (runId : String) (mode : Mode) (tree : FileTree)
    (targets : List Target) (distinct : Distinct mode tree targets) (workers : Nat)
    (staffed : 0 < workers) (moves : List Move) (pool : Pool)
    (run : Execution service runId mode (.start workers targets none tree) moves pool)
    (going : pool.canceled = false) :
    let serial := service.processAll runId mode tree targets
    let entries := targets.map fun target => (service.process runId mode tree target).entry
    moves.length ≤ 8 * targets.length + workers + 3 ∧
    (∃ more last,
      Execution service runId mode (.start workers targets none tree) (moves ++ more) last ∧
        last.canceled = false ∧ last.Finished) ∧
    (pool.Finished →
      (∀ stage, (moves.filterMap (Move.at? stage)).Perm (List.range targets.length)) ∧
      pool.tree = serial.2.1 ∧
      ∀ outcomes : List Outcome, outcomes.Perm pool.collected →
        outcomes.Pairwise (fun one two => one.number ≤ two.number) → ∀ result : RunResult,
        let report := result.collect (outcomes.map Outcome.entry)
        report = result.collect serial.1 ∧ report.failures = RunResult.failuresOf entries ∧
          report.files.Pairwise (fun a b => b.counts.total ≤ a.counts.total) ∧
          ∀ total, report.files.filter (fun file => file.counts.total = total) =
            (RunResult.summaries entries).filter fun file => file.counts.total = total) := by
  intro serial entries
  have manned := Pool.staffed_start staffed targets none tree
  obtain ⟨same, last⟩ : serial.1 = entries ∧
      serial.2.1 = tree.updateAll (service.updates mode tree targets) :=
    Service.processAll_frame [] targets distinct
  refine ⟨run.bounded, ?_, fun finished => ⟨fun stage => ?_, ?_, ?_⟩⟩
  · obtain ⟨more, last, rest, canceled, finished⟩ := run.completes manned
    exact ⟨more, last, rest, canceled.trans going, finished⟩
  · have account := run.account (Pool.located_start workers targets none tree) stage
    exact account.trans (run.all_passed staffed distinct going finished stage).2
  · rw [last]
    exact run.last_tree staffed distinct going finished
  · intro outcomes perm sorted result report
    have order := run.last_entries staffed distinct going finished perm sorted
    have filled : report = result.collect entries := congrArg result.collect order
    rw [filled, same]
    exact ⟨rfl, collect_order result entries⟩

def FileTree.pair (first second : ByteArray) : FileTree :=
  ⟨.file "a.lua" first (.file "b.lua" second .nil), []⟩

def Target.pair : List Target := [.script, ⟨"b.lua", "b.lua", some .lua⟩]

theorem FileTree.resolve_pair (first second : ByteArray) :
    (pair first second).resolve true "a.lua" = .ok (.found ["a.lua"] (.file first)) ∧
      (pair first second).resolve true "b.lua" = .ok (.found ["b.lua"] (.file second)) := by
  have parts : names "a.lua" = ["a.lua"] ∧ names "b.lua" = ["b.lua"] := by decide +kernel
  have relative : isRooted "a.lua" = false ∧ isRooted "b.lua" = false := by decide +kernel
  have short : ¬ maxNameBytes < "a.lua".utf8ByteSize ∧ ¬ maxNameBytes < "b.lua".utf8ByteSize := by
    decide +kernel
  constructor
  · simp [resolve, pair, parts, relative, resolveFrom, Listing.at?, Listing.find?, short]
  · simp [resolve, pair, parts, relative, resolveFrom, Listing.at?, Listing.find?, short]

theorem distinct_pair (mode : Mode) (first second : ByteArray) :
    Distinct mode (.pair first second) Target.pair := by
  intro _
  refine List.pairwise_pair.mpr ?_
  rintro ⟨place, content, led, led'⟩
  obtain ⟨one, two⟩ := FileTree.resolve_pair first second
  have here := (Place.found.inj (Except.ok.inj (one.symm.trans led))).1
  have there := (Place.found.inj (Except.ok.inj (two.symm.trans led'))).1
  exact absurd (here.trans there.symm) (by decide)

def Target.topPair : List Target :=
  [⟨"/a.lua", "a.lua", some .lua⟩, ⟨"/b.lua", "b.lua", some .lua⟩]

theorem FileTree.select_pair (first second : ByteArray) :
    (pair first second).select "/" {} = (Target.topPair, none) := by
  cbv

theorem distinct_topPair (mode : Mode) (first second : ByteArray) :
    Distinct mode (.pair first second) Target.topPair := by
  intro _
  refine List.pairwise_pair.mpr ?_
  rintro ⟨place, content, led, led'⟩
  have one : (FileTree.pair first second).resolve true "/a.lua" =
      .ok (.found ["a.lua"] (.file first)) := by cbv
  have two : (FileTree.pair first second).resolve true "/b.lua" =
      .ok (.found ["b.lua"] (.file second)) := by cbv
  have here := (Place.found.inj (Except.ok.inj (one.symm.trans led))).1
  have there := (Place.found.inj (Except.ok.inj (two.symm.trans led'))).1
  exact absurd (here.trans there.symm) (by decide)

theorem schedule_irrelevant_pair :
    let service : Service := { rules := Rules.lua }
    let tree := FileTree.pair (Text.encode "x = 1 -- one\n".toList) (Text.encode "y = 2\n".toList)
    let serial := service.processAll "1" .strip tree Target.pair
    Distinct .strip tree Target.pair ∧ 0 < 2 ∧ ∃ moves pool,
      Execution service "1" .strip (.start 2 Target.pair none tree) moves pool ∧
      pool.canceled = false ∧ pool.Finished ∧
      (∀ stage, (moves.filterMap (Move.at? stage)).Perm [0, 1]) ∧ pool.tree = serial.2.1 ∧
      ∃ outcomes : List Outcome, outcomes.Perm pool.collected ∧
        outcomes.Pairwise (fun one two => one.number ≤ two.number) ∧ ∀ result : RunResult,
        result.collect (outcomes.map Outcome.entry) = result.collect serial.1 := by
  intro service tree serial
  have distinct : Distinct .strip tree Target.pair := distinct_pair _ _ _
  obtain ⟨-, ⟨moves, pool, run, going, finished⟩, -⟩ :=
    schedule_irrelevant service "1" .strip tree Target.pair distinct 2 (by decide) [] _ .nil rfl
  obtain ⟨stages, last, results⟩ := (schedule_irrelevant service "1" .strip tree Target.pair
    distinct 2 (by decide) _ pool run going).2.2 finished
  refine ⟨distinct, by decide, moves, pool, run, going, finished, stages, last, ?_⟩
  have perm := List.mergeSort_perm pool.collected fun one two => one.number ≤ two.number
  have sorted : (pool.collected.mergeSort fun one two => one.number ≤ two.number).Pairwise
      fun one two => one.number ≤ two.number := by
    refine (List.pairwise_mergeSort ?_ ?_ pool.collected).imp of_decide_eq_true
    · intro one two three
      simpa using Nat.le_trans
    · intro one two
      simpa using Nat.le_total _ _
  exact ⟨_, perm, sorted, fun result => (results _ perm sorted result).1⟩

end LineSieve
