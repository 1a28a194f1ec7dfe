import LineSieve.Run.Service
import Mathlib

/- The pool that handles the targets of a run. A producer walks and puts numbered tasks into a
   bounded queue, workers take tasks from it and put outcomes into a second one, and a collector
   empties that. A step is one action of one of them, in any order, and any number of steps makes an
   execution. The law of the pool is an account: the stages that the moves of an execution took each
   number through are the ones that number has passed in the pool. -/
namespace LineSieve

/-- A target with its number in the walk. -/
structure Task where
  number : Nat
  target : Target

structure Outcome where
  number : Nat
  entry : Entry

inductive Stage where
  | dispatch
  | receive
  | accept
  | read
  | conclude
  | send
  | collect
  deriving DecidableEq, Repr

namespace Stage

def rank : Stage → Nat
  | dispatch => 0
  | receive => 1
  | accept => 2
  | read => 3
  | conclude => 4
  | send => 5
  | collect => 6

def before? : Stage → Option Stage
  | dispatch => none
  | receive => some dispatch
  | accept => some receive
  | read => some accept
  | conclude => some read
  | send => some conclude
  | collect => some send

end Stage

inductive Worker where
  | idle
  | holding (task : Task)
  | reading (task : Task)
  | loaded (task : Task) (content : Except Fault (ByteArray × Decoded))
  | sending (outcome : Outcome)
  | stopped

def Worker.at? : Worker → Option (Nat × Stage)
  | idle => none
  | holding task => some (task.number, .receive)
  | reading task => some (task.number, .accept)
  | loaded task _ => some (task.number, .read)
  | sending outcome => some (outcome.number, .conclude)
  | stopped => none

/-- Where the producer is in its walk: before the next target, with a target in hand, or at an end.
The walk comes with the targets that are left and with the fault that ends it. -/
inductive Producer where
  | walking (left : List Target) (fault : Option Fault)
  | offering (target : Target) (left : List Target) (fault : Option Fault)
  | ended (left : List Target) (fault : Option Fault)

/-- The state of a run. `canceled` says that the run was canceled from outside, `halted` that the
producer and the workers have been told to stop. -/
structure Pool where
  producer : Producer
  dispatched : Nat
  tasks : List Task
  workers : List Worker
  results : List Outcome
  collected : List Outcome
  dropped : List Nat
  canceled : Bool
  halted : Bool
  tree : FileTree

namespace Pool

/-- The length that both queues may have. -/
def capacity (pool : Pool) : Nat := 4 * pool.workers.length

def start (workers : Nat) (targets : List Target) (fault : Option Fault) (tree : FileTree) :
    Pool where
  producer := .walking targets fault
  dispatched := 0
  tasks := []
  workers := List.replicate workers .idle
  results := []
  collected := []
  dropped := []
  canceled := false
  halted := false
  tree := tree

/-- Nothing is under way any more: the producer has ended and its fault is known to all, the workers
have stopped and all results are collected. -/
def Finished (pool : Pool) : Prop :=
  (∃ left fault, pool.producer = .ended left fault ∧ (fault ≠ none → pool.halted = true)) ∧
    (∀ worker ∈ pool.workers, worker = .stopped) ∧ pool.results = []

end Pool

inductive Move where
  | offer
  | pass (stage : Stage) (number : Nat)
  | discard (number : Nat)
  | close
  | quit
  | stop
  | cancel
  | halt
  deriving DecidableEq, Repr

def Move.at? (stage : Stage) : Move → Option Nat
  | pass taken number => if taken = stage then some number else none
  | _ => none

/-- One action of the producer, of one worker or of the collector. -/
inductive Step (service : Service) (runId : String) (mode : Mode) : Pool → Move → Pool → Prop where
  | offer {pool target left fault} (walking : pool.producer = .walking (target :: left) fault)
      (running : pool.halted = false) :
      Step service runId mode pool .offer { pool with producer := .offering target left fault }
  | dispatch {pool target left fault} (offering : pool.producer = .offering target left fault)
      (room : pool.tasks.length < pool.capacity) :
      Step service runId mode pool (.pass .dispatch pool.dispatched)
        { pool with
          producer := .walking left fault
          dispatched := pool.dispatched + 1
          tasks := pool.tasks ++ [⟨pool.dispatched, target⟩] }
  | close {pool fault} (walking : pool.producer = .walking [] fault) :
      Step service runId mode pool .close { pool with producer := .ended [] fault }
  | quit {pool target left fault} (walking : pool.producer = .walking (target :: left) fault ∨
        pool.producer = .offering target left fault) (halted : pool.halted = true) :
      Step service runId mode pool .quit
        { pool with producer := .ended (target :: left) (some (.cause .canceled)) }
  | halt {pool left fault} (ended : pool.producer = .ended left (some fault))
      (running : pool.halted = false) :
      Step service runId mode pool .halt { pool with halted := true }
  | cancel {pool} (going : pool.canceled = false) :
      Step service runId mode pool .cancel { pool with canceled := true, halted := true }
  | receive {pool front back task tasks} (crew : pool.workers = front ++ .idle :: back)
      (queued : pool.tasks = task :: tasks) :
      Step service runId mode pool (.pass .receive task.number)
        { pool with tasks := tasks, workers := front ++ .holding task :: back }
  | accept {pool front back task} (crew : pool.workers = front ++ .holding task :: back)
      (running : pool.halted = false) :
      Step service runId mode pool (.pass .accept task.number)
        { pool with workers := front ++ .reading task :: back }
  | discard {pool front back task} (crew : pool.workers = front ++ .holding task :: back)
      (halted : pool.halted = true) :
      Step service runId mode pool (.discard task.number)
        { pool with
          workers := front ++ .idle :: back
          dropped := pool.dropped ++ [task.number] }
  | read {pool front back task} (crew : pool.workers = front ++ .reading task :: back) :
      Step service runId mode pool (.pass .read task.number)
        { pool with
          workers := front ++ .loaded task (service.load pool.tree task.target) :: back }
  | conclude {pool front back task content processed}
      (crew : pool.workers = front ++ .loaded task content :: back)
      (result : processed = service.conclude runId mode task.target content pool.tree) :
      Step service runId mode pool (.pass .conclude task.number)
        { pool with
          workers := front ++ .sending ⟨task.number, processed.entry⟩ :: back
          tree := processed.tree }
  | send {pool front back outcome} (crew : pool.workers = front ++ .sending outcome :: back)
      (room : pool.results.length < pool.capacity) :
      Step service runId mode pool (.pass .send outcome.number)
        { pool with workers := front ++ .idle :: back, results := pool.results ++ [outcome] }
  | stop {pool front back left fault} (crew : pool.workers = front ++ .idle :: back)
      (ended : pool.producer = .ended left fault) (drained : pool.tasks = []) :
      Step service runId mode pool .stop { pool with workers := front ++ .stopped :: back }
  | collect {pool outcome results} (queued : pool.results = outcome :: results) :
      Step service runId mode pool (.pass .collect outcome.number)
        { pool with results := results, collected := pool.collected ++ [outcome] }

inductive Execution (service : Service) (runId : String) (mode : Mode) (first : Pool) :
    List Move → Pool → Prop where
  | nil : Execution service runId mode first [] first
  | snoc {moves move pool next} (before : Execution service runId mode first moves pool)
      (step : Step service runId mode pool move next) :
      Execution service runId mode first (moves ++ [move]) next

variable {service : Service} {runId : String} {mode : Mode} {pool next first : Pool} {move : Move}
  {moves : List Move}

namespace Pool

/-- Every number in the pool, with the last stage it has passed. -/
def located (pool : Pool) : List (Nat × Stage) :=
  pool.tasks.map (fun task => (task.number, .dispatch)) ++
    pool.workers.filterMap Worker.at? ++
    pool.results.map (fun outcome => (outcome.number, .send)) ++
    pool.collected.map (fun outcome => (outcome.number, .collect)) ++
    pool.dropped.map (fun number => (number, .receive))

def passed (pool : Pool) (stage : Stage) : List Nat :=
  (pool.located.filter fun spot => stage.rank ≤ spot.2.rank).map Prod.fst

end Pool

/-- Where a move takes a number from, and where it puts it. -/
def Move.takes : Move → List (Nat × Stage)
  | pass stage number => (stage.before?.map fun before => (number, before)).toList
  | _ => []

def Move.puts : Move → List (Nat × Stage)
  | pass stage number => [(number, stage)]
  | _ => []

theorem count_crew (front back : List Worker) (worker : Worker) (spot : Nat × Stage) :
    ((front ++ worker :: back).filterMap Worker.at?).count spot =
      (front.filterMap Worker.at?).count spot + worker.at?.toList.count spot +
        (back.filterMap Worker.at?).count spot := by
  rw [List.filterMap_append, List.count_append, Nat.add_assoc]
  cases found : worker.at? with
  | none => simp [List.filterMap_cons_none found]
  | some number => simp [List.filterMap_cons_some found, List.count_cons, Nat.add_comm]

theorem located_crew {front back : List Worker} {worker : Worker}
    (crew : pool.workers = front ++ worker :: back) (other : Worker) :
    (worker.at?.toList ++ { pool with workers := front ++ other :: back }.located).Perm
      (other.at?.toList ++ pool.located) := by
  rw [List.perm_iff_count]
  intro spot
  simp only [Pool.located, List.count_append, crew, count_crew]
  omega

theorem Step.located (step : Step service runId mode pool move next) :
    (move.takes ++ next.located).Perm (move.puts ++ pool.located) := by
  cases step with
  | offer | close | quit | halt | cancel => rfl
  | accept crew running => exact located_crew crew (.reading _)
  | read crew => exact located_crew crew (.loaded _ _)
  | conclude crew => exact located_crew crew (.sending _)
  | stop crew ended drained => exact located_crew crew .stopped
  -- The other moves also take from a queue or put into one.
  | dispatch offering room =>
    rw [List.perm_iff_count]
    intro spot
    simp only [Pool.located, Move.takes, Move.puts, Stage.before?, List.map_append, List.map_cons,
      List.map_nil, Option.map_none, Option.toList_none, List.nil_append, List.count_append]
    omega
  | receive crew queued =>
    rw [List.perm_iff_count]
    intro spot
    simp only [Pool.located, Move.takes, Move.puts, Stage.before?, Worker.at?, crew, queued,
      count_crew, List.map_cons, Option.map_some, Option.toList_some, Option.toList_none,
      List.count_append, List.count_cons, List.count_nil]
    omega
  | discard crew halted =>
    rw [List.perm_iff_count]
    intro spot
    simp only [Pool.located, Move.takes, Move.puts, Worker.at?, crew, count_crew, List.map_append,
      List.map_cons, List.map_nil, Option.toList_some, Option.toList_none, List.count_append,
      List.count_cons, List.count_nil]
    omega
  | send crew room =>
    rw [List.perm_iff_count]
    intro spot
    simp only [Pool.located, Move.takes, Move.puts, Stage.before?, Worker.at?, crew, count_crew,
      List.map_append, List.map_cons, List.map_nil, Option.map_some, Option.toList_some,
      Option.toList_none, List.count_append, List.count_cons, List.count_nil]
    omega
  | collect queued =>
    rw [List.perm_iff_count]
    intro spot
    simp only [Pool.located, Move.takes, Move.puts, Stage.before?, queued, List.map_append,
      List.map_cons, List.map_nil, Option.map_some, Option.toList_some, List.count_append,
      List.count_cons, List.count_nil]
    omega

theorem Move.puts_passed (move : Move) (stage : Stage) :
    (move.puts.filter fun spot => stage.rank ≤ spot.2.rank).map Prod.fst =
      (move.at? stage).toList ++
        (move.takes.filter fun spot => stage.rank ≤ spot.2.rank).map Prod.fst := by
  cases move with
  | pass taken number => cases taken <;> cases stage <;> rfl
  | offer | discard | close | quit | stop | cancel | halt => rfl

theorem Step.passed (step : Step service runId mode pool move next) (stage : Stage) :
    (next.passed stage).Perm ((move.at? stage).toList ++ pool.passed stage) := by
  have moved := (step.located.filter fun spot => stage.rank ≤ spot.2.rank).map Prod.fst
  simp only [List.filter_append, List.map_append, Move.puts_passed] at moved
  rw [List.perm_iff_count] at moved ⊢
  intro number
  have same := moved number
  simp only [List.count_append] at same ⊢
  unfold Pool.passed
  omega

/-- The account of an execution: each stage was taken by the numbers that have passed it. -/
theorem Execution.account (run : Execution service runId mode first moves pool)
    (fresh : first.located = []) (stage : Stage) :
    (moves.filterMap (Move.at? stage)).Perm (pool.passed stage) := by
  induction run with
  | nil => simp [Pool.passed, fresh]
  | snoc before step ih =>
    rename_i moves move pool next
    have after := step.passed stage
    rw [List.filterMap_append]
    cases taken : move.at? stage with
    | none =>
      rw [taken] at after
      rw [List.filterMap_cons_none taken, List.filterMap_nil, List.append_nil]
      exact ih.trans after.symm
    | some number =>
      rw [taken] at after
      rw [List.filterMap_cons_some taken, List.filterMap_nil]
      exact (List.perm_append_singleton _ _).trans ((ih.cons number).trans after.symm)

theorem Pool.located_start (workers : Nat) (targets : List Target) (fault : Option Fault)
    (tree : FileTree) : (Pool.start workers targets fault tree).located = [] := by
  simp [located, start, List.filterMap_replicate, Worker.at?]

theorem Execution.dispatched (run : Execution service runId mode first moves pool)
    (fresh : first.dispatched = 0) :
    moves.filterMap (Move.at? .dispatch) = List.range pool.dispatched := by
  induction run with
  | nil => simp [fresh]
  | snoc before step ih =>
    rw [List.filterMap_append, ih]
    cases step with
    | dispatch offering room => rw [List.range_succ]; rfl
    | _ => exact List.append_nil _

theorem Pool.passed_dispatch (pool : Pool) : pool.passed .dispatch = pool.located.map Prod.fst := by
  simp [passed, Stage.rank]

section Start

variable {workers : Nat} {targets : List Target} {fault : Option Fault} {tree : FileTree}

theorem Execution.numbers
    (run : Execution service runId mode (.start workers targets fault tree) moves pool) :
    (pool.located.map Prod.fst).Perm (List.range pool.dispatched) := by
  rw [← pool.passed_dispatch, ← run.dispatched rfl]
  exact (run.account (Pool.located_start workers targets fault tree) .dispatch).symm

theorem Execution.not_passed
    (run : Execution service runId mode (.start workers targets fault tree) moves pool)
    {number : Nat} {at' stage : Stage} (spot : (number, at') ∈ pool.located)
    (early : at'.rank < stage.rank) : number ∉ pool.passed stage := by
  have distinct : (pool.located.map Prod.fst).Nodup := run.numbers.nodup_iff.mpr List.nodup_range
  intro passed
  simp only [Pool.passed, List.mem_map, List.mem_filter, decide_eq_true_eq] at passed
  obtain ⟨⟨_, later⟩, ⟨other, late⟩, rfl⟩ := passed
  have same := List.inj_on_of_nodup_map distinct spot other rfl
  rw [← (Prod.mk.inj same).2] at late
  exact Nat.not_le.mpr early late

end Start

end LineSieve
