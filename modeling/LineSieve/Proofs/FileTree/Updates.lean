import LineSieve.Proofs.FileTree.ReadBack
import Mathlib.Data.List.Basic
import Mathlib.Data.String.Basic

/- Writing over several files of a tree. Writes to different files commute, and a write to one file
   is not seen through a path that leads to another, so the order of such writes leaves no trace. -/
namespace LineSieve

def Apart (one two : List String) : Prop := ¬ one <+: two ∧ ¬ two <+: one

theorem Apart.tail {name : String} {one two : List String}
    (apart : Apart (name :: one) (name :: two)) : Apart one two := by
  simpa only [Apart, List.cons_prefix_cons, true_and] using apart

theorem Apart.proper {one two : List String} (apart : Apart one two) : one ≠ [] ∧ two ≠ [] := by
  constructor
  · rintro rfl
    exact apart.1 List.nil_prefix
  · rintro rfl
    exact apart.2 List.nil_prefix

namespace Listing

theorem putAt_cons_cases (top : Listing) (name : String) (rest : List String) (node : Node) :
    (∃ new, ∀ other : Listing, other.find? name = top.find? name →
        other.putAt (name :: rest) node = other.put name new) ∨
      ∀ other : Listing, other.find? name = top.find? name →
        other.putAt (name :: rest) node = other := by
  by_cases last : rest = []
  · subst last
    exact .inl ⟨node, fun _ _ => rfl⟩
  · by_cases inside : ∃ entries, top.find? name = some (.directory entries)
    · obtain ⟨entries, found⟩ := inside
      refine .inl ⟨.directory (entries.putAt rest node), fun other same => ?_⟩
      exact putAt_deeper (same.trans found) last node
    · refine .inr fun other same => putAt_stopped ?_ last node
      exact fun entries found => inside ⟨entries, same.symm.trans found⟩

theorem putAt_comm_names (top : Listing) {first second : String} (differs : first ≠ second)
    (here there : List String) (one two : Node) :
    (top.putAt (first :: here) one).putAt (second :: there) two =
      (top.putAt (second :: there) two).putAt (first :: here) one := by
  rcases putAt_cons_cases top first here one with ⟨new, put⟩ | idle <;>
    rcases putAt_cons_cases top second there two with ⟨other, put'⟩ | idle'
  · rw [put top rfl, put' top rfl, put' _ (find?_put_other top new differs),
      put _ (find?_put_other top other differs.symm), put_comm top new other differs]
  · rw [put top rfl, idle' top rfl, idle' _ (find?_put_other top new differs), put top rfl]
  · rw [idle top rfl, put' top rfl, idle _ (find?_put_other top other differs.symm)]
  · rw [idle top rfl, idle' top rfl, idle top rfl]

theorem putAt_comm (top : Listing) {here there : List String} (apart : Apart here there)
    (one two : Node) :
    (top.putAt here one).putAt there two = (top.putAt there two).putAt here one := by
  induction here generalizing top there with
  | nil => exact absurd rfl apart.proper.1
  | cons first here ih =>
    obtain ⟨second, there, rfl⟩ := List.exists_cons_of_ne_nil apart.proper.2
    by_cases same : first = second
    · subst same
      obtain ⟨deeper, deeper'⟩ := apart.tail.proper
      by_cases inside : ∃ entries, top.find? first = some (.directory entries)
      · obtain ⟨entries, found⟩ := inside
        rw [putAt_deeper found deeper, putAt_deeper found deeper',
          putAt_deeper (find?_put_self top first _) deeper',
          putAt_deeper (find?_put_self top first _) deeper, put_put_self, put_put_self,
          ih entries apart.tail]
      · have stopped : ∀ entries, top.find? first ≠ some (.directory entries) :=
          fun entries found => inside ⟨entries, found⟩
        rw [putAt_stopped stopped deeper, putAt_stopped stopped deeper',
          putAt_stopped stopped deeper]
    · exact putAt_comm_names top same here there one two

theorem at?_putAt_apart (top : Listing) {place here : List String} (apart : Apart place here)
    (node : Node) : (top.putAt place node).at? here = top.at? here := by
  induction place generalizing top here with
  | nil => exact absurd rfl apart.proper.1
  | cons name rest ih =>
    obtain ⟨first, here, rfl⟩ := List.exists_cons_of_ne_nil apart.proper.2
    by_cases same : name = first
    · subst same
      obtain ⟨deeper, -⟩ := apart.tail.proper
      by_cases inside : ∃ entries, top.find? name = some (.directory entries)
      · obtain ⟨entries, found⟩ := inside
        rw [putAt_deeper found deeper, at?_directory (find?_put_self top name _),
          at?_directory found, ih entries apart.tail]
      · have stopped : ∀ entries, top.find? name ≠ some (.directory entries) :=
          fun entries found => inside ⟨entries, found⟩
        rw [putAt_stopped stopped deeper]
    · rcases putAt_cons_cases top name rest node with ⟨new, put⟩ | idle
      · rw [put top rfl, at?_put_other top new same]
      · rw [idle top rfl]

theorem at?_below_file {top : Listing} {place : List String} {content : ByteArray}
    (held : top.at? place = some (.file content)) {more : List String} (proper : more ≠ []) :
    top.at? (place ++ more) = none := by
  cases below : top.at? (place ++ more) with
  | none => rfl
  | some node =>
    obtain ⟨entries, above⟩ := at?_above proper below
    cases held.symm.trans above

theorem not_below_file {top : Listing} {one two : List String} {first second : ByteArray}
    (held : top.at? one = some (.file first)) (held' : top.at? two = some (.file second))
    (differs : one ≠ two) : ¬ one <+: two := by
  rintro ⟨more, rfl⟩
  by_cases none : more = []
  · subst none
    exact differs (List.append_nil one).symm
  · rw [at?_below_file held none] at held'
    cases held'

theorem apart_of_files {top : Listing} {one two : List String} {first second : ByteArray}
    (held : top.at? one = some (.file first)) (held' : top.at? two = some (.file second))
    (differs : one ≠ two) : Apart one two :=
  ⟨not_below_file held held' differs, not_below_file held' held differs.symm⟩

end Listing

/-- New content for the file at a place. -/
structure Update where
  place : List String
  content : ByteArray

namespace FileTree

def update (tree : FileTree) (update : Update) : FileTree :=
  { tree with top := tree.top.putAt update.place (.file update.content) }

def updateAll (tree : FileTree) (updates : List Update) : FileTree := updates.foldl update tree

def Covers (tree : FileTree) (updates : List Update) : Prop :=
  ∀ update ∈ updates, ∃ old, tree.top.at? update.place = some (.file old)

theorem updateAll_append (tree : FileTree) (one two : List Update) :
    tree.updateAll (one ++ two) = (tree.updateAll one).updateAll two := List.foldl_append

theorem file_of_alike {one two : Listing} {place : List String} {old : ByteArray}
    (alike : Alike one two) (held : one.at? place = some (.file old)) :
    ∃ content, two.at? place = some (.file content) := by
  have kind := alike place
  rw [held] at kind
  obtain ⟨node, found, same⟩ := Option.map_eq_some_iff.mp kind
  obtain ⟨content, rfl⟩ := Node.kind_eq_file.mp same
  exact ⟨content, found⟩

theorem updateAll_alike {tree : FileTree} {updates : List Update} (covered : tree.Covers updates) :
    ∃ other, tree.updateAll updates = { tree with top := other } ∧ Alike tree.top other := by
  induction updates generalizing tree with
  | nil => exact ⟨tree.top, rfl, fun _ => rfl⟩
  | cons first rest ih =>
    obtain ⟨old, held⟩ := covered first List.mem_cons_self
    have once : Alike tree.top (tree.update first).top := Listing.kind_putAt held first.content
    have later : (tree.update first).Covers rest := fun update listed =>
      have ⟨_, there⟩ := covered update (List.mem_cons_of_mem _ listed)
      file_of_alike once there
    obtain ⟨other, result, alike⟩ := ih later
    exact ⟨other, result, fun here => (alike here).trans (once here)⟩

theorem updateAll_at? (tree : FileTree) {updates : List Update} {here : List String}
    (apart : ∀ update ∈ updates, Apart update.place here) :
    (tree.updateAll updates).top.at? here = tree.top.at? here := by
  induction updates generalizing tree with
  | nil => rfl
  | cons first rest ih =>
    have later := ih (tree.update first) fun update listed =>
      apart update (List.mem_cons_of_mem _ listed)
    exact later.trans (Listing.at?_putAt_apart _ (apart first List.mem_cons_self) _)

theorem updateAll_perm (tree : FileTree) {one two : List Update} (perm : one.Perm two)
    (apart : ∀ first ∈ one, ∀ second ∈ one, first = second ∨ Apart first.place second.place) :
    tree.updateAll one = tree.updateAll two := by
  apply perm.foldl_eq'
  intro first listed second listed' before
  rcases apart first listed second listed' with rfl | apart
  · rfl
  · simp only [update, Listing.putAt_comm before.top apart]

/-- Two paths lead to one file. -/
def SameFile (tree : FileTree) (one two : String) : Prop :=
  ∃ place content, tree.resolve true one = .ok (.found place (.file content)) ∧
    tree.resolve true two = .ok (.found place (.file content))

theorem SameFile.symm {tree : FileTree} {one two : String} (same : tree.SameFile one two) :
    tree.SameFile two one :=
  have ⟨place, content, led, led'⟩ := same
  ⟨place, content, led', led⟩

theorem sameFile_of_place {tree : FileTree} {one two : String} {place : List String}
    {first second : ByteArray} (led : tree.resolve true one = .ok (.found place (.file first)))
    (led' : tree.resolve true two = .ok (.found place (.file second))) :
    tree.SameFile one two := by
  have held := (resolve_found led).symm.trans (resolve_found led')
  obtain rfl := Node.file.inj (Option.some.inj held)
  exact ⟨place, first, led, led'⟩

theorem resolve_updateAll {tree : FileTree} {updates : List Update} (covered : tree.Covers updates)
    {path : String} {place : List String} {content : ByteArray}
    (led : tree.resolve true path = .ok (.found place (.file content)))
    (other : ∀ update ∈ updates, update.place ≠ place) :
    (tree.updateAll updates).resolve true path = .ok (.found place (.file content)) := by
  have held := resolve_found led
  have same := updateAll_at? tree fun update listed =>
    have ⟨_, there⟩ := covered update listed
    Listing.apart_of_files there held (other update listed)
  obtain ⟨top, result, alike⟩ := updateAll_alike covered
  obtain ⟨node, again, -⟩ := resolve_alike alike led
  rw [result] at same ⊢
  have now := resolve_found again
  rw [same, held] at now
  obtain rfl : node = .file content := (Option.some.inj now).symm
  exact again

def unreadable? (path : String) : Except FileFault Outline → Option FileError
  | .ok (.found _ .file) => none
  | .ok (.found _ _) => some ⟨"read", path, .isDirectory⟩
  | .ok (.free ..) => some ⟨"open", path, .notFound⟩
  | .error fault => some ⟨"open", path, fault⟩

theorem readFile_error_iff {tree : FileTree} {path : String} {e : FileError} :
    tree.readFile path = .error e ↔
      unreadable? path ((tree.resolve true path).map Place.outline) = some e := by
  unfold readFile node
  cases tree.resolve true path with
  | error fault => simp [Except.map, unreadable?]
  | ok reached =>
    cases reached with
    | free parent name slash => simp [Except.map, Place.outline, unreadable?]
    | found place node =>
      cases node <;> simp [Except.map, Place.outline, Node.kind, unreadable?]

theorem readFile_updateAll {tree : FileTree} {updates : List Update} (covered : tree.Covers updates)
    {path : String} (other : ∀ place content,
      tree.resolve true path = .ok (.found place (.file content)) →
        ∀ update ∈ updates, update.place ≠ place) :
    (tree.updateAll updates).readFile path = tree.readFile path := by
  cases read : tree.readFile path with
  | ok content =>
    obtain ⟨place, led⟩ := readFile_ok_iff.mp read
    exact readFile_ok_iff.mpr ⟨place, resolve_updateAll covered led (other place content led)⟩
  | error e =>
    obtain ⟨top, result, alike⟩ := updateAll_alike covered
    rw [readFile_error_iff, result, resolve_outline alike]
    exact readFile_error_iff.mp read

end FileTree

end LineSieve
