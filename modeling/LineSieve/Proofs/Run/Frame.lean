import LineSieve.Proofs.FileTree.Updates
import LineSieve.Proofs.Run.Strip
import Mathlib

/- What handling one target reads and writes. It reads the file its path leads to and writes at most
   that file, so its entry and its update are those of any tree that agrees on this one file; the
   targets of a run can be handled each on its own as long as no two lead to one file. -/
namespace LineSieve

namespace Service

variable {service : Service} {runId : String} {mode : Mode} {tree now : FileTree} {target : Target}
  {bytes : ByteArray} {decoded : Decoded}

/-- The update that handling a target makes, if it makes one. -/
def update? (service : Service) (mode : Mode) (tree : FileTree) (target : Target) :
    Option Update :=
  match tree.resolve true target.path, service.load tree target with
  | .ok (.found place _), .ok (bytes, decoded) =>
    let content := service.output decoded
    if mode = .strip ∧ content ≠ bytes ∧ service.refuses target.path = none then
      some ⟨place, content⟩
    else none
  | _, _ => none

theorem load_file (loaded : service.load tree target = .ok (bytes, decoded)) :
    ∃ place, tree.resolve true target.path = .ok (.found place (.file bytes)) :=
  FileTree.readFile_ok_iff.mp (load_ok_iff.mp loaded).1

theorem update?_unread {fault : Fault} (failed : service.load tree target = .error fault) :
    service.update? mode tree target = none := by
  unfold update?
  rw [failed]
  split
  · rename_i read
    cases read
  · rfl

theorem update?_file {update : Update} (made : service.update? mode tree target = some update) :
    mode = .strip ∧ ∃ content,
      tree.resolve true target.path = .ok (.found update.place (.file content)) := by
  cases loaded : service.load tree target with
  | error fault =>
    rw [update?_unread loaded] at made
    cases made
  | ok pair =>
    obtain ⟨place, led⟩ := load_file loaded
    simp only [update?, led, loaded, Option.ite_none_right_eq_some] at made
    obtain ⟨⟨strip, -⟩, made⟩ := made
    obtain rfl := Option.some.inj made
    exact ⟨strip, pair.1, led⟩

theorem writeBack_file {path : String} {place : List String} {old : ByteArray}
    (led : tree.resolve true path = .ok (.found place (.file old))) (content : ByteArray) :
    service.writeBack tree path content =
      match service.refuses path with
      | some reason => .error (.other reason)
      | none => .ok (tree.update ⟨place, content⟩) := by
  cases refused : service.refuses path with
  | some reason => simp only [writeBack, FileTree.stat, FileTree.node, led, refused]
  | none =>
    simp only [writeBack, FileTree.stat, FileTree.node, led, refused, FileTree.writeFile]
    rfl

def Agrees (tree now : FileTree) (target : Target) : Prop :=
  ∀ place content, tree.resolve true target.path = .ok (.found place (.file content)) →
    now.resolve true target.path = .ok (.found place (.file content))

/-- What is made of a target that was loaded from one tree, on another that agrees on its file: the
entry is the same, and the other tree gets the same update. -/
def Framed (service : Service) (runId : String) (mode : Mode) (tree now : FileTree)
    (target : Target) : Prop :=
  let there := service.conclude runId mode target (service.load tree target) now
  there.entry = (service.process runId mode tree target).entry ∧
    there.tree = now.updateAll (service.update? mode tree target).toList

theorem framed_idle (loaded : service.load tree target = .ok (bytes, decoded))
    (idle : ¬ (mode = .strip ∧ service.output decoded ≠ bytes)) :
    Framed service runId mode tree now target := by
  obtain ⟨place, led⟩ := load_file loaded
  have none : service.update? mode tree target = none := by
    simp only [update?, led, loaded]
    exact if_neg fun ⟨strip, differs, _⟩ => idle ⟨strip, differs⟩
  have quiet : (decide (mode = .strip) &&
      service.output decoded != bytes) = false := by
    rw [Bool.eq_false_iff, ne_eq, Bool.and_eq_true, decide_eq_true_iff, bytes_bne_iff]
    exact idle
  unfold Framed process conclude
  rw [none, loaded]
  unfold output at quiet
  simp only [quiet, Bool.false_eq_true, ↓reduceIte]
  split <;> exact ⟨rfl, rfl⟩

theorem framed_busy (agrees : Agrees tree now target)
    (loaded : service.load tree target = .ok (bytes, decoded))
    (differs : service.output decoded ≠ bytes) :
    Framed service runId .strip tree now target := by
  obtain ⟨place, led⟩ := load_file loaded
  have changed := bytes_bne_iff.mpr differs
  unfold Framed update? process conclude
  rw [led, loaded]
  unfold output at changed differs ⊢
  -- Both trees answer the write alike, since the path leads to a file in both.
  simp only [changed, writeBack_file led, writeBack_file (agrees place bytes led)]
  cases service.refuses target.path with
  | none => simp [differs, FileTree.updateAll]
  | some reason => simp [FileTree.updateAll]

theorem framed (agrees : Agrees tree now target) :
    Framed service runId mode tree now target := by
  cases loaded : service.load tree target with
  | error fault =>
    unfold Framed process
    rw [update?_unread loaded, loaded]
    exact ⟨rfl, rfl⟩
  | ok pair =>
    by_cases busy : mode = .strip ∧
        service.output pair.2 ≠ pair.1
    · obtain ⟨rfl, differs⟩ := busy
      exact framed_busy agrees loaded differs
    · exact framed_idle loaded busy

def updates (service : Service) (mode : Mode) (tree : FileTree) (targets : List Target) :
    List Update :=
  targets.filterMap (service.update? mode tree)

/-- A target leads to none of the files that the others lead to, if files are written at all. -/
def Separate (mode : Mode) (tree : FileTree) (others : List Target) (target : Target) : Prop :=
  mode = .strip → ∀ other ∈ others, ¬ tree.SameFile other.path target.path

theorem updates_covered (service : Service) (mode : Mode) (tree : FileTree)
    (targets : List Target) : tree.Covers (service.updates mode tree targets) := by
  intro update listed
  obtain ⟨target, -, made⟩ := List.mem_filterMap.mp listed
  obtain ⟨-, content, led⟩ := update?_file made
  exact ⟨content, FileTree.resolve_found led⟩

theorem Separate.places {others : List Target} (separate : Separate mode tree others target)
    {place : List String} {content : ByteArray}
    (led : tree.resolve true target.path = .ok (.found place (.file content))) :
    ∀ update ∈ service.updates mode tree others, update.place ≠ place := by
  rintro update listed rfl
  obtain ⟨other, among, made⟩ := List.mem_filterMap.mp listed
  obtain ⟨strip, old, led'⟩ := update?_file made
  exact separate strip other among (FileTree.sameFile_of_place led' led)

variable {others : List Target}

theorem Separate.agrees (separate : Separate mode tree others target) :
    Agrees tree (tree.updateAll (service.updates mode tree others)) target := fun _ _ led =>
  FileTree.resolve_updateAll (updates_covered service mode tree others) led (separate.places led)

theorem Separate.load (separate : Separate mode tree others target) :
    service.load (tree.updateAll (service.updates mode tree others)) target =
      service.load tree target := by
  unfold Service.load
  rw [FileTree.readFile_updateAll (updates_covered service mode tree others)
    fun place content led => separate.places led]

theorem updateAll_updates_concat (done : List Target) (target : Target) :
    tree.updateAll (service.updates mode tree (done ++ [target])) =
      (tree.updateAll (service.updates mode tree done)).updateAll
        (service.update? mode tree target).toList := by
  rw [updates, List.filterMap_append, FileTree.updateAll_append]
  cases made : service.update? mode tree target with
  | none => rw [List.filterMap_cons_none made]; rfl
  | some update => rw [List.filterMap_cons_some made]; rfl

theorem updates_perm {one two : List Target} (perm : one.Perm two)
    (apart : mode = .strip →
      one.Pairwise fun first second => ¬ tree.SameFile first.path second.path) :
    tree.updateAll (service.updates mode tree one) =
      tree.updateAll (service.updates mode tree two) := by
  apply tree.updateAll_perm (perm.filterMap _)
  intro first listed second listed'
  obtain ⟨target, among, made⟩ := List.mem_filterMap.mp listed
  obtain ⟨other, among', made'⟩ := List.mem_filterMap.mp listed'
  by_cases same : target = other
  · subst same
    exact .inl (Option.some.inj (made.symm.trans made'))
  · right
    obtain ⟨strip, old, led⟩ := update?_file made
    obtain ⟨-, old', led'⟩ := update?_file made'
    have symmetric : Std.Symm fun first second : Target =>
        ¬ tree.SameFile first.path second.path := ⟨fun _ _ differs same => differs same.symm⟩
    have differs := (apart strip).forall among among' same
    apply Listing.apart_of_files (FileTree.resolve_found led) (FileTree.resolve_found led')
    intro place
    rw [place] at led
    exact differs (FileTree.sameFile_of_place led led')

theorem processAll_frame (done rest : List Target)
    (apart : mode = .strip →
      (done ++ rest).Pairwise fun first second => ¬ tree.SameFile first.path second.path) :
    let last := service.processAll runId mode (tree.updateAll (service.updates mode tree done)) rest
    last.1 = rest.map (fun target => (service.process runId mode tree target).entry) ∧
      last.2.1 = tree.updateAll (service.updates mode tree (done ++ rest)) := by
  induction rest generalizing done with
  | nil => simp [processAll]
  | cons target rest ih =>
    have separate : Separate mode tree done target := fun strip other listed =>
      (List.pairwise_append.mp (apart strip)).2.2 other listed target List.mem_cons_self
    obtain ⟨entry, after⟩ : Framed service runId mode tree
      (tree.updateAll (service.updates mode tree done)) target := framed separate.agrees
    rw [← separate.load] at entry after
    have step : (service.process runId mode (tree.updateAll (service.updates mode tree done))
        target).tree = tree.updateAll (service.updates mode tree (done ++ [target])) := by
      rw [updateAll_updates_concat]
      exact after
    have later := ih (done ++ [target]) (by simpa using apart)
    rw [List.append_assoc, List.singleton_append] at later
    simp only [processAll, List.map_cons, step]
    exact ⟨congrArg₂ List.cons entry later.1, later.2⟩

end Service

end LineSieve
