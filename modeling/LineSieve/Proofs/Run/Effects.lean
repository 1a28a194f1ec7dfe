import LineSieve.Proofs.Run.Frame
import LineSieve.Proofs.Selection.Targets

/- What a run does to files and what it says of them. The updates of targets that lead to different
   files rewrite exactly the files at their places, and the summary of a target says that its file
   was written exactly if the target has an update. -/
namespace LineSieve

def FileSummary.changed (file : FileSummary) : Bool := file.sieved.any SieveStats.changed

def FileSummary.written (file : FileSummary) : Bool := file.sieved.any SieveStats.written

namespace FileTree

variable {tree : FileTree} {updates : List Update} {place : List String}

/-- A path leads to the file at a place. -/
def Leads (tree : FileTree) (path : String) (place : List String) : Prop :=
  ∃ content, tree.resolve true path = .ok (.found place (.file content))

/-- The file at a place had one content and has another. -/
def Rewritten (tree now : FileTree) (place : List String) : Prop :=
  ∃ old new, tree.top.at? place = some (.file old) ∧ now.top.at? place = some (.file new) ∧
    new ≠ old

theorem updateAll_untouched (covered : tree.Covers updates) {old : ByteArray}
    (held : tree.top.at? place = some (.file old))
    (untouched : ∀ update ∈ updates, update.place ≠ place) :
    (tree.updateAll updates).top.at? place = some (.file old) := by
  have apart : ∀ update ∈ updates, Apart update.place place := fun update listed =>
    have ⟨_, there⟩ := covered update listed
    Listing.apart_of_files there held (untouched update listed)
  exact (tree.updateAll_at? apart).trans held

theorem updateAll_content (covered : tree.Covers updates)
    (distinct : updates.Pairwise fun one two => one.place ≠ two.place) {update : Update}
    (listed : update ∈ updates) :
    (tree.updateAll updates).top.at? update.place = some (.file update.content) := by
  obtain ⟨front, back, rfl⟩ := List.append_of_mem listed
  have early : tree.Covers front := fun other among => covered other (by simp [among])
  obtain ⟨top, result, alike⟩ := updateAll_alike early
  obtain ⟨old, held⟩ := covered update listed
  obtain ⟨now, there⟩ := file_of_alike alike held
  have step : (tree.updateAll (front ++ [update])).top.at? update.place =
      some (.file update.content) := by
    rw [updateAll_append, result]
    exact Listing.at?_putAt_self there update.content
  -- The updates behind this one are for other files.
  have later : ∀ other ∈ back, Apart other.place update.place := by
    intro other among
    obtain ⟨content, found⟩ := covered other (by simp [among])
    have differs := (List.pairwise_cons.mp (List.pairwise_append.mp distinct).2.1).1 other among
    exact Listing.apart_of_files found held differs.symm
  rw [List.append_cons, updateAll_append, updateAll_at? _ later]
  exact step

theorem rewritten_updateAll_iff (covered : tree.Covers updates)
    (distinct : updates.Pairwise fun one two => one.place ≠ two.place)
    (fresh : ∀ update ∈ updates, tree.top.at? update.place ≠ some (.file update.content)) :
    tree.Rewritten (tree.updateAll updates) place ↔ ∃ update ∈ updates, update.place = place := by
  constructor
  · rintro ⟨old, new, held, now, differs⟩
    apply Classical.byContradiction
    intro none
    have untouched : ∀ update ∈ updates, update.place ≠ place := fun update listed same =>
      none ⟨update, listed, same⟩
    have same := (updateAll_untouched covered held untouched).symm.trans now
    exact differs (Node.file.inj (Option.some.inj same)).symm
  · rintro ⟨update, listed, rfl⟩
    obtain ⟨old, held⟩ := covered update listed
    refine ⟨old, update.content, held, updateAll_content covered distinct listed, ?_⟩
    rintro rfl
    exact fresh update listed held

end FileTree

namespace Service

variable {service : Service} {runId : String} {mode : Mode} {tree : FileTree} {target : Target}
  {targets : List Target} {bytes : ByteArray} {decoded : Decoded} {place : List String}

def stats (service : Service) (bytes : ByteArray) (decoded : Decoded) (written : Bool) :
    SieveStats where
  linesBefore := (service.rules.pass decoded.text).linesBefore
  linesAfter := (service.rules.pass decoded.text).linesAfter
  changed := service.output decoded != bytes
  written := written

def summary (service : Service) (target : Target) (decoded : Decoded)
    (sieved : Option SieveStats) : FileSummary where
  path := target.display
  dialect := target.dialectName
  encoding := decoded.encoding
  counts := (service.rules.pass decoded.text).counts
  unclosedAt := (service.rules.pass decoded.text).unclosed.getD 0
  sieved := sieved

@[simp] theorem summary_written (stats : SieveStats) :
    (service.summary target decoded (some stats)).written = stats.written := rfl

@[simp] theorem stats_written (written : Bool) :
    (service.stats bytes decoded written).written = written := rfl

theorem process_dryRun (loaded : service.load tree target = .ok (bytes, decoded)) :
    (service.process runId .dryRun tree target).entry =
      .summary (service.summary target decoded (some (service.stats bytes decoded false))) := by
  unfold process conclude
  rw [loaded]
  rfl

theorem process_strip (loaded : service.load tree target = .ok (bytes, decoded))
    (accepts : service.output decoded ≠ bytes → service.refuses target.path = none) :
    (service.process runId .strip tree target).entry = .summary (service.summary target decoded
      (some (service.stats bytes decoded (service.output decoded != bytes)))) := by
  obtain ⟨place, led⟩ := load_file loaded
  unfold process conclude
  rw [loaded]
  cases changed : service.output decoded != bytes with
  | true =>
    simp only [writeBack_file led, accepts (bytes_bne_iff.mp changed)]
    unfold summary stats
    unfold output at changed ⊢
    simp [changed]
  | false =>
    unfold summary stats
    unfold output at changed ⊢
    simp [changed]

theorem process_refused (runId : String)
    (loaded : service.load tree target = .ok (bytes, decoded))
    {reason : String} (refused : service.refuses target.path = some reason)
    (differs : service.output decoded ≠ bytes) :
    ∃ failure, (service.process runId .strip tree target).entry = .failure failure ∧
      failure.path = target.display ∧ failure.kind = .write := by
  obtain ⟨place, led⟩ := load_file loaded
  have changed := bytes_bne_iff.mpr differs
  unfold output at changed
  unfold process conclude
  rw [loaded]
  simp only [writeBack_file led, refused, changed, Bool.and_true, decide_true, ↓reduceIte,
    reduceCtorEq]
  exact ⟨_, rfl, rfl, rfl⟩

/-- What stripping a target can come to: it fails, and then the target has no update, or its summary
says written exactly if the target has one. -/
theorem strip_cases (service : Service) (runId : String) (tree : FileTree) (target : Target) :
    (∃ failure, (service.process runId .strip tree target).entry = .failure failure ∧
        service.update? .strip tree target = none) ∨
      ∃ bytes decoded, service.load tree target = .ok (bytes, decoded) ∧
        (service.process runId .strip tree target).entry = .summary (service.summary target decoded
          (some (service.stats bytes decoded (service.output decoded != bytes)))) ∧
        (service.output decoded ≠ bytes → service.refuses target.path = none) := by
  cases loaded : service.load tree target with
  | error fault =>
    obtain ⟨failure, failed⟩ : ∃ failure,
        (service.process runId .strip tree target).entry = .failure failure :=
      process_unread loaded .strip
    exact .inl ⟨failure, failed, update?_unread loaded⟩
  | ok pair =>
    obtain ⟨bytes, decoded⟩ := pair
    by_cases accepts : service.output decoded ≠ bytes → service.refuses target.path = none
    · exact .inr ⟨bytes, decoded, rfl, process_strip loaded accepts, accepts⟩
    · obtain ⟨differs, refuses⟩ := Classical.not_imp.mp accepts
      obtain ⟨reason, refused⟩ := Option.ne_none_iff_exists'.mp refuses
      obtain ⟨failure, failed, -⟩ := process_refused runId loaded refused differs
      obtain ⟨place, led⟩ := load_file loaded
      refine .inl ⟨failure, failed, ?_⟩
      simp only [update?, led, loaded, refused]
      apply if_neg
      rintro ⟨-, -, accepts⟩
      exact Option.some_ne_none _ accepts

theorem update?_some_iff {update : Update} : service.update? mode tree target = some update ↔
    mode = .strip ∧ service.refuses target.path = none ∧ ∃ place bytes decoded,
      tree.resolve true target.path = .ok (.found place (.file bytes)) ∧
      service.load tree target = .ok (bytes, decoded) ∧ service.output decoded ≠ bytes ∧
      update = ⟨place, service.output decoded⟩ := by
  constructor
  · intro made
    cases loaded : service.load tree target with
    | error fault =>
      rw [update?_unread loaded] at made
      cases made
    | ok pair =>
      obtain ⟨bytes, decoded⟩ := pair
      obtain ⟨place, led⟩ := load_file loaded
      simp only [update?, led, loaded, Option.ite_none_right_eq_some] at made
      obtain ⟨⟨strip, differs, accepts⟩, made⟩ := made
      exact ⟨strip, accepts, place, bytes, decoded, led, rfl, differs, (Option.some.inj made).symm⟩
  · rintro ⟨rfl, accepts, place, bytes, decoded, led, loaded, differs, rfl⟩
    simp only [update?, led, loaded]
    exact if_pos ⟨trivial, differs, accepts⟩

theorem written_iff : (∃ file, (service.process runId .strip tree target).entry = .summary file ∧
      file.written = true) ↔ ∃ update, service.update? .strip tree target = some update := by
  rcases strip_cases service runId tree target with
    ⟨failure, failed, none⟩ | ⟨bytes, decoded, loaded, entry, accepts⟩
  · rw [failed, none]
    simp
  · obtain ⟨place, led⟩ := load_file loaded
    rw [entry]
    constructor
    · rintro ⟨file, same, written⟩
      obtain rfl := Entry.summary.inj same
      rw [summary_written, stats_written, bytes_bne_iff] at written
      exact ⟨⟨place, service.output decoded⟩, update?_some_iff.mpr
        ⟨rfl, accepts written, place, bytes, decoded, led, loaded, written, rfl⟩⟩
    · rintro ⟨update, made⟩
      obtain ⟨-, -, -, bytes', decoded', -, loaded', differs, -⟩ := update?_some_iff.mp made
      obtain ⟨rfl, rfl⟩ := Prod.mk.inj (Except.ok.inj (loaded.symm.trans loaded'))
      refine ⟨_, rfl, ?_⟩
      rw [summary_written, stats_written, bytes_bne_iff]
      exact differs

theorem process_path {file : FileSummary}
    (entry : (service.process runId .strip tree target).entry = .summary file) :
    file.path = target.display := by
  rcases strip_cases service runId tree target with
    ⟨failure, failed, -⟩ | ⟨bytes, decoded, -, done, -⟩
  · rw [failed] at entry
    cases entry
  · obtain rfl := Entry.summary.inj (done.symm.trans entry)
    rfl

theorem updates_distinct
    (apart : targets.Pairwise fun one two => ¬ tree.SameFile one.path two.path) :
    (service.updates mode tree targets).Pairwise fun one two => one.place ≠ two.place := by
  refine List.Pairwise.filterMap _ ?_ apart
  intro one two differs first made second made' same
  obtain ⟨-, old, led⟩ := update?_file made
  obtain ⟨-, old', led'⟩ := update?_file made'
  rw [same] at led
  exact differs (FileTree.sameFile_of_place led led')

theorem rewritten_updates_iff
    (apart : targets.Pairwise fun one two => ¬ tree.SameFile one.path two.path) :
    tree.Rewritten (tree.updateAll (service.updates mode tree targets)) place ↔
      ∃ target ∈ targets, tree.Leads target.path place ∧
        ∃ update, service.update? mode tree target = some update := by
  have covered := updates_covered service mode tree targets
  have fresh : ∀ update ∈ service.updates mode tree targets,
      tree.top.at? update.place ≠ some (.file update.content) := by
    intro update listed held
    obtain ⟨target, -, made⟩ := List.mem_filterMap.mp listed
    obtain ⟨-, -, place, bytes, decoded, led, -, differs, rfl⟩ := update?_some_iff.mp made
    dsimp only at held
    have same := (FileTree.resolve_found led).symm.trans held
    exact differs (Node.file.inj (Option.some.inj same)).symm
  rw [FileTree.rewritten_updateAll_iff covered (updates_distinct apart) fresh]
  constructor
  · rintro ⟨update, listed, rfl⟩
    obtain ⟨target, among, made⟩ := List.mem_filterMap.mp listed
    obtain ⟨-, content, led⟩ := update?_file made
    exact ⟨target, among, ⟨content, led⟩, update, made⟩
  · rintro ⟨target, among, ⟨content, led⟩, update, made⟩
    refine ⟨update, List.mem_filterMap.mpr ⟨target, among, made⟩, ?_⟩
    obtain ⟨-, old, led'⟩ := update?_file made
    exact (Place.found.inj (Except.ok.inj (led'.symm.trans led))).1

def entries (service : Service) (runId : String) (mode : Mode) (tree : FileTree)
    (targets : List Target) : List Entry :=
  targets.map fun target => (service.process runId mode tree target).entry

theorem mem_filterMap_entries {α : Type} {select? : Entry → Option α} {value : α} :
    value ∈ (service.entries runId mode tree targets).filterMap select? ↔
      ∃ target ∈ targets, select? (service.process runId mode tree target).entry = some value := by
  rw [entries, List.filterMap_map, List.mem_filterMap]
  rfl

theorem mem_summaries_entries {file : FileSummary} :
    file ∈ RunResult.summaries (service.entries runId mode tree targets) ↔
      ∃ target ∈ targets, (service.process runId mode tree target).entry = .summary file := by
  rw [RunResult.summaries, mem_filterMap_entries]
  refine exists_congr fun target => and_congr_right fun _ => ?_
  cases (service.process runId mode tree target).entry <;> simp

theorem mem_failuresOf_entries {failure : FileFailure} :
    failure ∈ RunResult.failuresOf (service.entries runId mode tree targets) ↔
      ∃ target ∈ targets, (service.process runId mode tree target).entry = .failure failure := by
  rw [RunResult.failuresOf, mem_filterMap_entries]
  refine exists_congr fun target => and_congr_right fun _ => ?_
  cases (service.process runId mode tree target).entry <;> simp

theorem entries_shown {file : FileSummary}
    (listed : file ∈ RunResult.summaries (service.entries runId .strip tree targets)) :
    ∃ target ∈ targets, target.display = file.path ∧ ∃ place, tree.Leads target.path place := by
  obtain ⟨target, among, entry⟩ := mem_summaries_entries.mp listed
  refine ⟨target, among, (process_path entry).symm, ?_⟩
  rcases strip_cases service runId tree target with
    ⟨failure, failed, -⟩ | ⟨bytes, decoded, loaded, -, -⟩
  · rw [failed] at entry
    cases entry
  · obtain ⟨place, led⟩ := load_file loaded
    exact ⟨place, bytes, led⟩

theorem rewritten_iff_reported {others : List Target} (part : targets ⊆ others)
    (apart : targets.Pairwise fun one two => ¬ tree.SameFile one.path two.path)
    (shown : ∀ one ∈ others, ∀ two ∈ others, one.display = two.display → one = two) :
    tree.Rewritten (tree.updateAll (service.updates .strip tree targets)) place ↔
      ∃ target ∈ others, tree.Leads target.path place ∧
        ∃ file ∈ RunResult.summaries (service.entries runId .strip tree targets),
          file.path = target.display ∧ file.written = true := by
  have marked (target : Target) : (∃ file,
      (service.process runId .strip tree target).entry = .summary file ∧ file.written = true) ↔
        ∃ update, service.update? .strip tree target = some update := written_iff
  rw [rewritten_updates_iff apart]
  constructor
  · rintro ⟨target, among, led, update⟩
    obtain ⟨file, entry, written⟩ := (marked target).mpr update
    exact ⟨target, part among, led, file, mem_summaries_entries.mpr ⟨target, among, entry⟩,
      process_path entry, written⟩
  · rintro ⟨target, among, led, file, listed, path, written⟩
    -- The file is reported for a target that was handled, and that is this one.
    obtain ⟨other, among', entry⟩ := mem_summaries_entries.mp listed
    obtain rfl := shown other (part among') target among ((process_path entry).symm.trans path)
    exact ⟨other, among', led, (marked other).mp ⟨file, entry, written⟩⟩

end Service

end LineSieve
