import LineSieve.Proofs.Run.Pool

/- Every execution of the pool comes to an end. Each move uses up a part of the work that is left,
   and while the pool has not finished some move can be made, so an execution that stops early can
   always be carried on to the end. -/
namespace LineSieve

variable {service : Service} {runId : String} {mode : Mode} {pool next first : Pool} {move : Move}
  {moves : List Move}

def Worker.left : Worker → Nat
  | idle => 1
  | holding _ => 6
  | reading _ => 5
  | loaded _ _ => 4
  | sending _ => 3
  | stopped => 0

def Producer.left : Producer → Nat
  | walking rest _ => 8 * rest.length + 1
  | offering _ rest _ => 8 * rest.length + 8
  | ended _ _ => 0

def Pool.left (pool : Pool) : Nat :=
  pool.producer.left + 6 * pool.tasks.length + (pool.workers.map Worker.left).sum +
    pool.results.length + (!pool.canceled).toNat + (!pool.halted).toNat

theorem Step.left (step : Step service runId mode pool move next) : next.left < pool.left := by
  cases step with
  | offer walking running =>
    simp only [Pool.left, walking, Producer.left, List.length_cons]
    omega
  | dispatch offering room =>
    simp only [Pool.left, offering, Producer.left, List.length_append, List.length_singleton]
    omega
  | close walking =>
    simp only [Pool.left, walking, Producer.left]
    omega
  | quit walking halted =>
    rcases walking with walking | offering
    · simp only [Pool.left, walking, Producer.left]
      omega
    · simp only [Pool.left, offering, Producer.left]
      omega
  | halt ended running =>
    simp only [Pool.left, running, Bool.not_true, Bool.not_false, Bool.toNat_false, Bool.toNat_true]
    omega
  | cancel going =>
    simp only [Pool.left, going, Bool.not_true, Bool.not_false, Bool.toNat_false, Bool.toNat_true]
    omega
  | receive crew queued =>
    simp only [Pool.left, crew, queued, List.map_append, List.map_cons, List.sum_append,
      List.sum_cons, Worker.left, List.length_cons]
    omega
  | send crew room =>
    simp only [Pool.left, crew, List.map_append, List.map_cons, List.sum_append, List.sum_cons,
      Worker.left, List.length_append, List.length_singleton]
    omega
  | collect queued =>
    simp only [Pool.left, queued, List.length_cons]
    omega
  | accept crew | discard crew | read crew | conclude crew | stop crew =>
    simp only [Pool.left, crew, List.map_append, List.map_cons, List.sum_append, List.sum_cons,
      Worker.left]
    omega

theorem Execution.left (run : Execution service runId mode first moves pool) :
    moves.length + pool.left ≤ first.left := by
  induction run with
  | nil => simp
  | snoc before step ih =>
    have less := step.left
    rw [List.length_append, List.length_singleton]
    omega

/-- An execution is at most as long as eight moves for each target, one for each worker and three
more. -/
theorem Execution.bounded {workers : Nat} {targets : List Target} {fault : Option Fault}
    {tree : FileTree}
    (run : Execution service runId mode (.start workers targets fault tree) moves pool) :
    moves.length ≤ 8 * targets.length + workers + 3 := by
  have bound := run.left
  simp only [Pool.left, Pool.start, Producer.left, List.map_replicate, Worker.left,
    List.sum_replicate_nat, List.length_nil, Bool.not_false, Bool.toNat_true] at bound
  omega

/-- There is a crew, and it stops only after the producer with nothing left to take. -/
structure Pool.Staffed (pool : Pool) : Prop where
  crew : pool.workers ≠ []
  stopped : .stopped ∈ pool.workers →
    (∃ left fault, pool.producer = .ended left fault) ∧ pool.tasks = []

theorem stopped_among {front back : List Worker} {other : Worker} (active : other ≠ .stopped)
    (among : .stopped ∈ front ++ other :: back) (worker : Worker) :
    .stopped ∈ front ++ worker :: back := by
  rw [List.mem_append, List.mem_cons] at among ⊢
  rcases among with among | rfl | among
  · exact .inl among
  · exact absurd rfl active
  · exact .inr (.inr among)

theorem Pool.Staffed.replace {front back : List Worker} {worker other : Worker}
    (staffed : pool.Staffed) (crew : pool.workers = front ++ worker :: back)
    (active : other ≠ .stopped) (among : .stopped ∈ front ++ other :: back) :
    (∃ left fault, pool.producer = .ended left fault) ∧ pool.tasks = [] := by
  apply staffed.stopped
  rw [crew]
  exact stopped_among active among worker

theorem Step.staffed (step : Step service runId mode pool move next) (staffed : pool.Staffed) :
    next.Staffed := by
  have crewed (front back : List Worker) (worker : Worker) : front ++ worker :: back ≠ [] := by simp
  cases step with
  | offer walking running =>
    refine ⟨staffed.crew, fun stopped => ?_⟩
    obtain ⟨⟨left, fault, ended⟩, -⟩ := staffed.stopped stopped
    rw [walking] at ended
    cases ended
  | dispatch offering room =>
    refine ⟨staffed.crew, fun stopped => ?_⟩
    obtain ⟨⟨left, fault, ended⟩, -⟩ := staffed.stopped stopped
    rw [offering] at ended
    cases ended
  | close walking => exact ⟨staffed.crew, fun stopped => ⟨⟨_, _, rfl⟩, (staffed.stopped stopped).2⟩⟩
  | quit walking halted =>
    exact ⟨staffed.crew, fun stopped => ⟨⟨_, _, rfl⟩, (staffed.stopped stopped).2⟩⟩
  | halt | cancel | collect => exact ⟨staffed.crew, staffed.stopped⟩
  | receive crew queued =>
    refine ⟨crewed _ _ _, fun stopped => ?_⟩
    have drained := (staffed.replace crew Worker.noConfusion stopped).2
    rw [queued] at drained
    cases drained
  | stop crew ended drained => exact ⟨crewed _ _ _, fun _ => ⟨⟨_, _, ended⟩, drained⟩⟩
  | accept crew | discard crew | read crew | conclude crew | send crew =>
    exact ⟨crewed _ _ _, fun stopped => staffed.replace crew Worker.noConfusion stopped⟩

theorem Execution.staffed (run : Execution service runId mode first moves pool)
    (staffed : first.Staffed) : pool.Staffed := by
  induction run with
  | nil => exact staffed
  | snoc before step ih => exact step.staffed ih

theorem Pool.staffed_start {workers : Nat} (staffed : 0 < workers) (targets : List Target)
    (fault : Option Fault) (tree : FileTree) : (start workers targets fault tree).Staffed := by
  constructor
  · simp only [start, ne_eq, List.replicate_eq_nil_iff]
    omega
  · intro stopped
    cases List.eq_of_mem_replicate stopped

def Pool.Goes (service : Service) (runId : String) (mode : Mode) (pool : Pool) : Prop :=
  ∃ move next, Step service runId mode pool move next ∧ next.canceled = pool.canceled

theorem Pool.worker_goes (drained : pool.results = []) {worker : Worker}
    (among : worker ∈ pool.workers) (busy : worker ≠ .idle ∧ worker ≠ .stopped) :
    pool.Goes service runId mode := by
  obtain ⟨front, back, crew⟩ := List.append_of_mem among
  cases worker with
  | idle => exact absurd rfl busy.1
  | stopped => exact absurd rfl busy.2
  | holding task =>
    cases halted : pool.halted with
    | false => exact ⟨_, _, .accept crew halted, rfl⟩
    | true => exact ⟨_, _, .discard crew halted, rfl⟩
  | reading task => exact ⟨_, _, .read crew, rfl⟩
  | loaded task content => exact ⟨_, _, .conclude crew rfl, rfl⟩
  | sending outcome =>
    refine ⟨_, _, .send crew ?_, rfl⟩
    rw [drained, capacity, crew, List.length_append, List.length_cons, List.length_nil]
    omega

theorem Pool.queue_goes (staffed : pool.Staffed)
    (rest : ∀ worker ∈ pool.workers, worker = .idle ∨ worker = .stopped)
    (waiting : pool.tasks ≠ []) : pool.Goes service runId mode := by
  obtain ⟨task, tasks, queued⟩ := List.exists_cons_of_ne_nil waiting
  obtain ⟨worker, others, crew⟩ := List.exists_cons_of_ne_nil staffed.crew
  have among : worker ∈ pool.workers := by simp [crew]
  rcases rest worker among with rfl | rfl
  · have first : pool.workers = [] ++ .idle :: others := crew
    exact ⟨_, _, .receive first queued, rfl⟩
  · exact absurd (staffed.stopped among).2 waiting

theorem Pool.producer_goes (staffed : pool.Staffed)
    (rest : ∀ worker ∈ pool.workers, worker = .idle ∨ worker = .stopped)
    (going : ∀ left fault, pool.producer ≠ .ended left fault) : pool.Goes service runId mode := by
  cases at' : pool.producer with
  | ended left fault => exact absurd at' (going left fault)
  | walking left fault =>
    cases left with
    | nil => exact ⟨_, _, .close at', rfl⟩
    | cons target left =>
      cases halted : pool.halted with
      | false => exact ⟨_, _, .offer at' halted, rfl⟩
      | true => exact ⟨_, _, .quit (.inl at') halted, rfl⟩
  | offering target left fault =>
    by_cases room : pool.tasks.length < pool.capacity
    · exact ⟨_, _, .dispatch at' room, rfl⟩
    · apply queue_goes staffed rest
      -- A full queue is not empty.
      rintro none
      have crewed := List.length_pos_of_ne_nil staffed.crew
      rw [none, capacity, List.length_nil] at room
      omega

theorem Pool.end_goes {left : List Target} {fault : Option Fault}
    (ended : pool.producer = .ended left fault) (drained : pool.tasks = [])
    (rest : ∀ worker ∈ pool.workers, worker = .idle ∨ worker = .stopped)
    (emptied : pool.results = []) (busy : ¬ pool.Finished) : pool.Goes service runId mode := by
  by_cases idle : .idle ∈ pool.workers
  · obtain ⟨front, back, crew⟩ := List.append_of_mem idle
    exact ⟨_, _, .stop crew ended drained, rfl⟩
  · have stopped : ∀ worker ∈ pool.workers, worker = .stopped := by
      intro worker among
      rcases rest worker among with rfl | stopped
      · exact absurd among idle
      · exact stopped
    have unknown : ¬ (fault ≠ none → pool.halted = true) := fun known =>
      busy ⟨⟨left, fault, ended, known⟩, stopped, emptied⟩
    obtain ⟨failed, running⟩ := Classical.not_imp.mp unknown
    obtain ⟨fault, rfl⟩ := Option.ne_none_iff_exists'.mp failed
    exact ⟨_, _, .halt ended (Bool.eq_false_iff.mpr running), rfl⟩

theorem Pool.progress (staffed : pool.Staffed) (busy : ¬ pool.Finished) :
    pool.Goes service runId mode := by
  cases queued : pool.results with
  | cons outcome results => exact ⟨_, _, .collect queued, rfl⟩
  | nil =>
    by_cases active : ∃ worker ∈ pool.workers, worker ≠ .idle ∧ worker ≠ .stopped
    · obtain ⟨worker, among, active⟩ := active
      exact worker_goes queued among active
    · have rest : ∀ worker ∈ pool.workers, worker = .idle ∨ worker = .stopped := by
        intro worker among
        apply Classical.byContradiction
        intro neither
        exact active ⟨worker, among, not_or.mp neither⟩
      by_cases ended : ∃ left fault, pool.producer = .ended left fault
      · obtain ⟨left, fault, ended⟩ := ended
        by_cases drained : pool.tasks = []
        · exact end_goes ended drained rest queued busy
        · exact queue_goes staffed rest drained
      · exact producer_goes staffed rest fun left fault at' => ended ⟨left, fault, at'⟩

theorem Execution.completes (run : Execution service runId mode first moves pool)
    (staffed : first.Staffed) :
    ∃ more last, Execution service runId mode first (moves ++ more) last ∧
      last.canceled = pool.canceled ∧ last.Finished := by
  -- By induction on the work that is left.
  generalize amount : pool.left = left
  induction left using Nat.strongRecOn generalizing moves pool with
  | ind left ih =>
    by_cases finished : pool.Finished
    · exact ⟨[], pool, by simpa using run, rfl, finished⟩
    · obtain ⟨move, next, step, same⟩ := Pool.progress (run.staffed staffed) finished
      obtain ⟨more, last, rest, canceled, finished⟩ :=
        ih next.left (amount ▸ step.left) (run.snoc step) rfl
      refine ⟨move :: more, last, ?_, canceled.trans same, finished⟩
      simpa using rest

end LineSieve
