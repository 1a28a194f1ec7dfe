import LineSieve.Proofs.Run.Reported

/- What each target of a run comes to. There are three cases: its file cannot be read, it cannot be
   written, or it is summed up. The case decides the entry and what its path leads to afterwards. -/
namespace LineSieve

namespace Service

variable {service : Service} {runId : String} {mode : Mode} {tree : FileTree} {target : Target}
  {targets : List Target} {bytes : ByteArray} {decoded : Decoded} {entry : Entry}

/-- What sieving comes to for a file that does not fail, in the modes that sieve. -/
def sieved? (service : Service) (mode : Mode) (bytes : ByteArray) (decoded : Decoded) :
    Option SieveStats :=
  match mode with
  | .analyze => none
  | .dryRun => some (service.stats bytes decoded false)
  | .strip => some (service.stats bytes decoded (service.output decoded != bytes))

/-- A file has to be written and cannot be. -/
structure Barred (service : Service) (mode : Mode) (target : Target) (bytes : ByteArray)
    (decoded : Decoded) : Prop where
  strip : mode = .strip
  differs : service.output decoded ≠ bytes
  refused : service.refuses target.path ≠ none

/-- The same service where no path refuses to be read or written. -/
def permissive (service : Service) : Service :=
  { service with refuses := fun _ => none, withholds := fun _ => none }

/-- The file that a target leads to cannot be read. -/
def Unreadable (service : Service) (tree : FileTree) (target : Target) : Prop :=
  (∃ e, tree.readFile target.path = .error e) ∨ service.withholds target.path ≠ none

/-- What a target comes to: it cannot be read, it cannot be written, or it is summed up. -/
inductive Comes (service : Service) (mode : Mode) (tree : FileTree) (target : Target) :
    Entry → Prop where
  | unread {fault : Fault} {failure : FileFailure} (failed : service.load tree target = .error fault)
      (shown : failure.path = target.display) (kind : failure.kind = .read) :
      Comes service mode tree target (.failure failure)
  | unwritten {bytes : ByteArray} {decoded : Decoded} {failure : FileFailure}
      (loaded : service.load tree target = .ok (bytes, decoded))
      (barred : service.Barred mode target bytes decoded) (shown : failure.path = target.display)
      (kind : failure.kind = .write) : Comes service mode tree target (.failure failure)
  | done {bytes : ByteArray} {decoded : Decoded}
      (loaded : service.load tree target = .ok (bytes, decoded))
      (free : ¬ service.Barred mode target bytes decoded) :
      Comes service mode tree target
        (.summary (service.summary target decoded (service.sieved? mode bytes decoded)))

theorem process_barred (loaded : service.load tree target = .ok (bytes, decoded))
    (barred : service.Barred mode target bytes decoded) :
    ∃ failure, (service.process runId mode tree target).entry = .failure failure ∧
      failure.path = target.display ∧ failure.kind = .write := by
  obtain ⟨rfl, differs, refused⟩ := barred
  obtain ⟨reason, refused⟩ := Option.ne_none_iff_exists'.mp refused
  exact process_refused runId loaded refused differs

theorem process_free (loaded : service.load tree target = .ok (bytes, decoded))
    (free : ¬ service.Barred mode target bytes decoded) :
    (service.process runId mode tree target).entry =
      .summary (service.summary target decoded (service.sieved? mode bytes decoded)) := by
  cases mode with
  | analyze =>
    unfold process conclude
    rw [loaded]
    rfl
  | dryRun => exact process_dryRun loaded
  | strip =>
    apply process_strip loaded
    intro differs
    by_contra refused
    exact free ⟨rfl, differs, refused⟩

theorem process_comes (service : Service) (runId : String) (mode : Mode) (tree : FileTree)
    (target : Target) :
    service.Comes mode tree target (service.process runId mode tree target).entry := by
  cases loaded : service.load tree target with
  | error fault =>
    unfold process conclude
    rw [loaded]
    exact .unread loaded rfl rfl
  | ok pair =>
    obtain ⟨bytes, decoded⟩ := pair
    by_cases barred : service.Barred mode target bytes decoded
    · obtain ⟨failure, entry, shown, kind⟩ : ∃ failure,
          (service.process runId mode tree target).entry = .failure failure ∧
            failure.path = target.display ∧ failure.kind = .write := process_barred loaded barred
      rw [entry]
      exact .unwritten loaded barred shown kind
    · rw [process_free loaded barred]
      exact .done loaded barred

theorem process_permissive (runId again : String)
    (loaded : service.load tree target = .ok (bytes, decoded))
    (free : ¬ service.Barred mode target bytes decoded) {sound : FileTree}
    (same : sound.readFile target.path = tree.readFile target.path) :
    service.permissive.load sound target = .ok (bytes, decoded) ∧
      (¬ service.permissive.Barred mode target bytes decoded) ∧
      (service.permissive.process again mode sound target).entry =
        (service.process runId mode tree target).entry := by
  obtain ⟨read, -, understood⟩ := load_ok_iff.mp loaded
  have loaded' : service.permissive.load sound target = .ok (bytes, decoded) :=
    load_ok_iff.mpr ⟨same.trans read, rfl, understood⟩
  have free' : ¬ service.permissive.Barred mode target bytes decoded :=
    fun barred => barred.refused rfl
  refine ⟨loaded', free', ?_⟩
  rw [process_free loaded' free', process_free loaded free]
  rfl

theorem Comes.unread_iff (comes : service.Comes mode tree target entry) :
    (∃ failure, entry = .failure failure ∧ failure.kind = .read) ↔
      ∃ fault, service.load tree target = .error fault := by
  cases comes with
  | unread failed shown kind => exact ⟨fun _ => ⟨_, failed⟩, fun _ => ⟨_, rfl, kind⟩⟩
  | unwritten loaded barred shown kind =>
    constructor
    · rintro ⟨failure, same, read⟩
      cases same
      cases kind.symm.trans read
    · rintro ⟨fault, failed⟩
      cases loaded.symm.trans failed
  | done loaded free =>
    constructor
    · rintro ⟨failure, same, -⟩
      cases same
    · rintro ⟨fault, failed⟩
      cases loaded.symm.trans failed

theorem Comes.unwritten_iff (comes : service.Comes mode tree target entry) :
    (∃ failure, entry = .failure failure ∧ failure.kind = .write) ↔ ∃ bytes decoded,
      service.load tree target = .ok (bytes, decoded) ∧
        service.Barred mode target bytes decoded := by
  cases comes with
  | unread failed shown kind =>
    constructor
    · rintro ⟨failure, same, write⟩
      cases same
      cases kind.symm.trans write
    · rintro ⟨bytes, decoded, loaded, -⟩
      cases failed.symm.trans loaded
  | unwritten loaded barred shown kind =>
    exact ⟨fun _ => ⟨_, _, loaded, barred⟩, fun _ => ⟨_, rfl, kind⟩⟩
  | done loaded free =>
    constructor
    · rintro ⟨failure, same, -⟩
      cases same
    · rintro ⟨bytes, decoded, loaded', barred⟩
      cases loaded.symm.trans loaded'
      exact absurd barred free

theorem load_error_iff : (∃ fault, service.load tree target = .error fault) ↔
    service.Unreadable tree target ∨ ∃ bytes e,
      tree.readFile target.path = .ok bytes ∧ service.decoder.decode bytes = .error e := by
  unfold load Unreadable
  cases tree.readFile target.path with
  | error e => simp
  | ok bytes =>
    cases service.withholds target.path with
    | some fault => simp
    | none => cases understood : service.decoder.decode bytes <;> simp [understood]

theorem barred_iff (loaded : service.load tree target = .ok (bytes, decoded)) :
    service.Barred mode target bytes decoded ↔ mode = .strip ∧ service.output decoded ≠ bytes ∧
      ∃ fault, service.writeBack tree target.path (service.output decoded) = .error fault := by
  obtain ⟨place, led⟩ := load_file loaded
  have fails : (∃ fault, service.writeBack tree target.path (service.output decoded) =
      .error fault) ↔ service.refuses target.path ≠ none := by
    rw [writeBack_file led]
    cases service.refuses target.path <;> simp
  rw [fails]
  exact ⟨fun ⟨strip, differs, refused⟩ => ⟨strip, differs, refused⟩,
    fun ⟨strip, differs, refused⟩ => ⟨strip, differs, refused⟩⟩

end Service

def Entry.path : Entry → String
  | .summary file => file.path
  | .failure reason => reason.path

def RunResult.Fails (report : RunResult) (kind : FailureKind) (target : Target) : Prop :=
  ∃ failure ∈ report.failures, failure.path = target.display ∧ failure.kind = kind

section Entries

variable {entries : List Entry}

theorem mem_summaries {file : FileSummary} :
    file ∈ RunResult.summaries entries ↔ .summary file ∈ entries := by
  refine List.mem_filterMap.trans ⟨?_, fun listed => ⟨_, listed, rfl⟩⟩
  rintro ⟨entry, listed, same⟩
  cases entry with
  | summary other => exact Option.some.inj same ▸ listed
  | failure failure => cases same

theorem mem_failuresOf {failure : FileFailure} :
    failure ∈ RunResult.failuresOf entries ↔ .failure failure ∈ entries := by
  refine List.mem_filterMap.trans ⟨?_, fun listed => ⟨_, listed, rfl⟩⟩
  rintro ⟨entry, listed, same⟩
  cases entry with
  | summary file => cases same
  | failure other => exact Option.some.inj same ▸ listed

theorem entries_split (entries : List Entry) :
    ((RunResult.summaries entries).map (·.path) ++
      (RunResult.failuresOf entries).map (·.path)).Perm (entries.map Entry.path) := by
  induction entries with
  | nil => rfl
  | cons entry entries ih =>
    cases entry with
    | summary file => exact ih.cons file.path
    | failure failure => exact List.perm_middle.trans (ih.cons failure.path)

theorem summaries_sublist (entries : List Entry) :
    ((RunResult.summaries entries).map (·.path)).Sublist (entries.map Entry.path) := by
  induction entries with
  | nil => exact .slnil
  | cons entry entries ih =>
    cases entry with
    | summary file => exact ih.cons_cons file.path
    | failure failure => exact ih.cons failure.path

end Entries

namespace Service

variable {service : Service} {runId : String} {mode : Mode} {tree : FileTree} {target : Target}
  {targets : List Target} {bytes : ByteArray} {decoded : Decoded} {kind : FailureKind}

theorem Comes.path {entry : Entry} (comes : service.Comes mode tree target entry) :
    entry.path = target.display := by
  cases comes with
  | unread failed shown kind => exact shown
  | unwritten loaded barred shown kind => exact shown
  | done loaded free => rfl

theorem entries_path (service : Service) (runId : String) (mode : Mode) (tree : FileTree)
    (targets : List Target) :
    (service.entries runId mode tree targets).map Entry.path = targets.map (·.display) := by
  rw [entries, List.map_map]
  exact List.map_congr_left fun target _ => (service.process_comes runId mode tree target).path

section Known

variable (known : ∀ one ∈ targets, ∀ two ∈ targets, one.display = two.display → one = two)
  (among : target ∈ targets)

include known among

theorem mem_entries_iff {entry : Entry} (shown : entry.path = target.display) :
    entry ∈ service.entries runId mode tree targets ↔
      (service.process runId mode tree target).entry = entry := by
  constructor
  · intro listed
    obtain ⟨other, among', rfl⟩ := List.mem_map.mp listed
    have path := (service.process_comes runId mode tree other).path
    obtain rfl := known other among' target among (path.symm.trans shown)
    rfl
  · rintro rfl
    exact List.mem_map_of_mem among

theorem failure_reported_iff {failure : FileFailure} (shown : failure.path = target.display) :
    failure ∈ RunResult.failuresOf (service.entries runId mode tree targets) ↔
      (service.process runId mode tree target).entry = .failure failure :=
  mem_failuresOf.trans (mem_entries_iff known among shown)

theorem summary_reported_iff {file : FileSummary} (shown : file.path = target.display) :
    file ∈ RunResult.summaries (service.entries runId mode tree targets) ↔
      (service.process runId mode tree target).entry = .summary file :=
  mem_summaries.trans (mem_entries_iff known among shown)

theorem fails_iff (start : RunResult) :
    (start.collect (service.entries runId mode tree targets)).Fails kind target ↔ ∃ failure,
      (service.process runId mode tree target).entry = .failure failure ∧ failure.kind = kind := by
  constructor
  · rintro ⟨failure, listed, shown, same⟩
    exact ⟨failure, (failure_reported_iff known among shown).mp listed, same⟩
  · rintro ⟨failure, failed, same⟩
    have shown := (service.process_comes runId mode tree target).path
    rw [failed] at shown
    exact ⟨failure, (failure_reported_iff known among shown).mpr failed, shown, same⟩

end Known

section Content

variable (distinct : Distinct mode tree targets) (among : target ∈ targets)

include distinct among

theorem readFile_updates :
    (tree.updateAll (service.updates mode tree targets)).readFile target.path =
      match service.update? mode tree target with
      | some update => .ok update.content
      | none => tree.readFile target.path := by
  have covered := updates_covered service mode tree targets
  cases made : service.update? mode tree target with
  | some update =>
    obtain ⟨strip, old, led⟩ := update?_file made
    have written := FileTree.updateAll_content covered (updates_distinct (distinct strip))
      (List.mem_filterMap.mpr ⟨target, among, made⟩)
    obtain ⟨top, result, alike⟩ := FileTree.updateAll_alike covered
    obtain ⟨node, again, -⟩ := FileTree.resolve_alike alike led
    rw [result] at written ⊢
    have held := FileTree.resolve_found again
    obtain rfl := Option.some.inj (held.symm.trans written)
    exact FileTree.readFile_ok_iff.mpr ⟨_, again⟩
  | none =>
    refine FileTree.readFile_updateAll covered fun place content led update listed same => ?_
    obtain ⟨other, among', made'⟩ := List.mem_filterMap.mp listed
    obtain ⟨strip, old, led'⟩ := update?_file made'
    have differs : other ≠ target := by
      rintro rfl
      cases made.symm.trans made'
    have symmetric : Std.Symm fun first second : Target =>
        ¬ tree.SameFile first.path second.path := ⟨fun _ _ differs same => differs same.symm⟩
    have apart := (distinct strip).forall among' among differs
    rw [same] at led'
    exact apart (FileTree.sameFile_of_place led' led)

theorem readFile_failed {failure : FileFailure}
    (failed : (service.process runId mode tree target).entry = .failure failure) :
    (tree.updateAll (service.updates mode tree targets)).readFile target.path =
      tree.readFile target.path := by
  have comes := service.process_comes runId mode tree target
  rw [failed] at comes
  have none : service.update? mode tree target = none := by
    cases comes with
    | unread failed => exact update?_unread failed
    | unwritten loaded barred =>
      apply Option.eq_none_iff_forall_ne_some.mpr
      intro update made
      exact barred.refused (update?_some_iff.mp made).2.1
  rw [readFile_updates distinct among, none]

theorem readFile_done (loaded : service.load tree target = .ok (bytes, decoded))
    (free : ¬ service.Barred mode target bytes decoded) :
    (tree.updateAll (service.updates mode tree targets)).readFile target.path =
      .ok (if mode = .strip then service.output decoded else bytes) := by
  obtain ⟨place, led⟩ := load_file loaded
  rw [readFile_updates distinct among]
  by_cases busy : mode = .strip ∧ service.output decoded ≠ bytes
  · obtain ⟨rfl, differs⟩ := busy
    have accepts : service.refuses target.path = none := by
      by_contra refused
      exact free ⟨rfl, differs, refused⟩
    have made : service.update? .strip tree target = some ⟨place, service.output decoded⟩ :=
      update?_some_iff.mpr ⟨rfl, accepts, place, bytes, decoded, led, loaded, differs, rfl⟩
    rw [made, if_pos rfl]
  · have none : service.update? mode tree target = none := by
      apply Option.eq_none_iff_forall_ne_some.mpr
      intro update made
      obtain ⟨strip, -, -, bytes', decoded', -, loaded', differs, -⟩ := update?_some_iff.mp made
      obtain ⟨rfl, rfl⟩ := Prod.mk.inj (Except.ok.inj (loaded.symm.trans loaded'))
      exact busy ⟨strip, differs⟩
    have settled : bytes = if mode = .strip then service.output decoded else bytes := by
      split
      · rename_i strip
        by_contra differs
        exact busy ⟨strip, Ne.symm differs⟩
      · rfl
    rw [none, ← settled]
    exact (load_ok_iff.mp loaded).1

end Content

end Service

end LineSieve
