import LineSieve.FileTree.Temporary
import LineSieve.Proofs.FileTree.Named

/- What becomes of a temporary file. It is made at a free place, which its path leads to as long as
   the file is there; moved to another place or removed, it leaves the free place it was made at. -/
namespace LineSieve

namespace FileTree

variable {tree now : FileTree} {path : String} {disk : Disk}

theorem alters_putAt {parent : List String} {name : String} {node : Node}
    (above : tree.top.item? parent = some .directory)
    (single : tree.top.item? (parent ++ [name]) ≠ some .directory) (leaf : node.Leaf) :
    tree.Alters { tree with top := tree.top.putAt (parent ++ [name]) node } (parent ++ [name])
      (some node.item) :=
  ⟨rfl, Listing.item?_putAt above single leaf⟩

theorem alters_free {follow slash : Bool} {parent : List String} {name : String} {node : Node}
    (led : tree.resolve follow path = .ok (.free parent name slash)) (leaf : node.Leaf) :
    tree.Alters { tree with top := tree.top.putAt (parent ++ [name]) node } (parent ++ [name])
      (some node.item) := by
  obtain ⟨above, free⟩ := resolve_free_items led
  exact alters_putAt above (by simp [free]) leaf

/-- A file has been made at a free place that its path named. -/
structure Opened (tree now : FileTree) (file : OpenFile) : Prop where
  named : tree.Names file.path file.place
  free : tree.top.item? file.place = none
  alters : tree.Alters now file.place (some (.file .empty))

theorem createFile_opened {file : OpenFile} (made : tree.createFile path disk = .ok (now, file)) :
    file.path = path ∧ tree.Opened now file := by
  unfold createFile at made
  split at made
  · rename_i parent name led
    split at made
    · cases made
    · cases made
      exact ⟨rfl, ⟨_, led, rfl⟩, (resolve_free_items led).2, alters_free led (Node.leaf_file _)⟩
  · cases made
  · cases made
  · cases made

theorem createDrawn_opened {front : String} {next tries : Nat} {file : OpenFile}
    (made : tree.createDrawn front disk next tries = .ok (now, file)) :
    (∃ number : Nat, file.path = front ++ toString number) ∧ tree.Opened now file := by
  induction tries generalizing next with
  | zero => cases made
  | succ tries ih =>
    unfold createDrawn at made
    simp only at made
    split at made
    · rename_i created
      obtain rfl := Except.ok.inj made
      obtain ⟨path, opened⟩ := createFile_opened created
      exact ⟨⟨_, path⟩, opened⟩
    · exact ih made
    · cases made

theorem digits_clear (number : Nat) : '/' ∉ (toString number).toList := by
  intro listed
  have digits : (toString number).toList = Nat.toDigits 10 number := by
    simp [Nat.toString_eq_repr, Nat.repr]
  rw [digits] at listed
  exact absurd (Nat.isDigit_of_mem_toDigits (by decide) (by decide) listed) (by decide)

theorem Opened.single {file : OpenFile} (opened : tree.Opened now file) :
    tree.top.item? file.place ≠ some .directory := by
  simp [opened.free]

theorem createTemporary_opened {directory front : String} {file : OpenFile}
    (made : tree.createTemporary directory front disk = .ok (now, file)) :
    (∃ number : Nat, file.place.getLast? = some (front ++ toString number)) ∧
      tree.Opened now file := by
  unfold createTemporary at made
  split at made
  · cases made
  · rename_i clear
    obtain ⟨⟨number, path⟩, opened⟩ := createDrawn_opened made
    refine ⟨⟨number, ?_⟩, opened⟩
    rw [opened.named.last opened.single, path]
    have clear : '/' ∉ front.toList ++ (toString number).toList :=
      List.not_mem_append (by simpa using clear) (digits_clear number)
    -- The directory is followed by a slash, its own or one put behind it.
    obtain ⟨start, above⟩ : ∃ start, (if directory.toList.getLast? = some '/' then directory
        else directory ++ "/").toList = start ++ ['/'] := by
      split
      · rename_i ends
        exact List.getLast?_eq_some_iff.mp ends
      · exact ⟨directory.toList, String.toList_append⟩
    rw [lastName, String.toList_append, String.toList_append, above, List.append_assoc,
      List.append_assoc, List.singleton_append, Path.afterSlash_append start clear,
      String.ofList_append, String.ofList_toList, String.ofList_toList]

namespace Opened

variable {file : OpenFile} {bytes : ByteArray}

theorem resolve (opened : tree.Opened now file) {after : FileTree}
    (alters : tree.Alters after file.place (some (.file bytes))) :
    after.resolve false file.path = .ok (.found file.place (.file bytes)) := by
  rcases alters.resolve_self opened.single opened.named with arrives | ⟨⟨target, link⟩, -⟩
  · exact arrives
  · have free := opened.free
    rw [Listing.item?_of_at? link] at free
    cases free

theorem fill (opened : tree.Opened now file) (content : ByteArray) (disk : Disk) :
    ∃ bytes, tree.Alters (now.fill file content disk).1 file.place (some (.file bytes)) ∧
      ((now.fill file content disk).2 = none → bytes = content) := by
  obtain ⟨parent, name, place, above⟩ := Listing.item?_above opened.alters.self nofun
  have single : now.top.item? (parent ++ [name]) ≠ some .directory := by
    rw [← place, opened.alters.self]
    nofun
  have stored (bytes : ByteArray) : tree.Alters
      { now with top := now.top.putAt file.place (.file bytes) } file.place (some (.file bytes)) := by
    have put := alters_putAt above single (Node.leaf_file bytes)
    rw [← place] at put
    exact opened.alters.trans put
  unfold FileTree.fill
  cases disk.stops with
  | some stop => exact ⟨_, stored _, nofun⟩
  | none => exact ⟨content, stored content, fun _ => rfl⟩

end Opened

theorem discard_file {place : List String} {content : ByteArray}
    (led : tree.resolve false path = .ok (.found place (.file content)))
    (removes : disk.noRemove = none) : tree.Alters (tree.discard path disk) place none := by
  have held := Listing.item?_eq_file.mpr (resolve_found led)
  obtain ⟨parent, name, rfl, above⟩ := Listing.item?_above held nofun
  have single : tree.top.item? (parent ++ [name]) ≠ some .directory := by
    rw [held]
    nofun
  rw [discard, unlink, led, removes]
  exact ⟨rfl, Listing.item?_eraseAt above single⟩

theorem discard_refused {place : List String} {node : Node}
    (led : tree.resolve false path = .ok (.found place node)) (refused : disk.noRemove ≠ none) :
    tree.discard path disk = tree := by
  obtain ⟨fault, refused⟩ := Option.ne_none_iff_exists'.mp refused
  simp only [discard, unlink, led, refused]
  split <;> rfl

theorem discard_gone (gone : ∀ place node, tree.resolve false path ≠ .ok (.found place node)) :
    tree.discard path disk = tree := by
  unfold discard unlink
  split
  · rename_i led
    exact absurd led (gone _ _)
  · rfl
  · rfl

theorem transfer_ok_iff {place there : List String} {node : Node} :
    tree.transfer place there node disk = .ok now ↔ disk.noRename = none ∧
      now = { tree with top := (tree.top.eraseAt place).putAt there node } := by
  unfold transfer
  cases disk.noRename with
  | some fault => simp
  | none => simp [eq_comm]

theorem moveFile_ok_iff {target : String} {place : List String} {content : ByteArray}
    (led : tree.resolve false path = .ok (.found place (.file content))) :
    tree.moveFile path target disk = .ok now ↔ ∃ there,
      tree.Names target there ∧ tree.top.item? there ≠ some .directory ∧
        tree.transfer place there (.file content) disk = .ok now := by
  unfold moveFile
  rw [led]
  constructor
  · intro moved
    simp only at moved
    split at moved
    · cases moved
    · rename_i there node single found
      refine ⟨there, ⟨_, found, rfl⟩, ?_, moved⟩
      rw [Ne, Listing.item?_eq_directory, resolve_found found]
      rintro ⟨entries, ⟨⟩⟩
      exact single entries rfl
    · rename_i parent name found
      exact ⟨parent ++ [name], ⟨_, found, rfl⟩, by simp [resolve_free_items found], moved⟩
    · cases moved
    · cases moved
  · rintro ⟨there, named, single, moved⟩
    obtain ⟨reached, result, named, busy⟩ := named.single single
    rw [result]
    cases reached with
    | found other node =>
      obtain rfl := Option.some.inj named
      cases node with
      | directory entries => exact absurd rfl (busy _ _)
      | file | link => exact moved
    | free parent name slash =>
      cases slash with
      | true => cases named
      | false =>
        obtain rfl := Option.some.inj named
        exact moved

namespace Opened

variable {file : OpenFile} {filled after : FileTree} {target : String} {there : List String}
  {content : ByteArray}

theorem discard_restores (opened : tree.Opened now file)
    (written : tree.Alters filled file.place (some (.file content)))
    (removes : disk.noRemove = none) : tree.Matches (filled.discard file.path disk) := by
  have removed := discard_file (opened.resolve written) removes
  rw [← opened.free] at removed
  exact written.undone removed

theorem discard_moved (opened : tree.Opened now file)
    (moved : tree.Alters after there (some (.file content)))
    (single : tree.top.item? there ≠ some .directory) (differs : there ≠ file.place) :
    after.discard file.path disk = after := by
  apply discard_gone
  rcases moved.names_after single opened.named differs.symm with named | ⟨-, stopped⟩
  · exact named.free ((moved.elsewhere differs.symm).trans opened.free)
  · simp [stopped]

theorem moved (opened : tree.Opened now file)
    (written : tree.Alters filled file.place (some (.file content)))
    (named : filled.Names target there) (single : filled.top.item? there ≠ some .directory)
    (differs : there ≠ file.place) :
    tree.Alters { filled with
      top := (filled.top.eraseAt file.place).putAt there (.file content) } there
        (some (.file content)) := by
  have held := written.self
  obtain ⟨parent, name, place, inside⟩ := Listing.item?_above held nofun
  obtain ⟨above, last, rfl, directory⟩ := named.above single
  have restored : tree.Matches { filled with top := filled.top.eraseAt file.place } := by
    refine written.undone ⟨rfl, ?_⟩
    rw [opened.free, place]
    exact Listing.item?_eraseAt inside (by simp [← place, held])
  have other : above ≠ file.place := by
    rintro rfl
    rw [held] at directory
    cases directory
  rw [written.elsewhere other, ← restored.items] at directory
  rw [written.elsewhere differs, ← restored.items] at single
  have put := alters_putAt directory single (Node.leaf_file content)
  exact ⟨put.origin.trans restored.origin, by rw [put.items, restored.items]; rfl⟩

section Target

variable (opened : tree.Opened now file)
  (written : tree.Alters filled file.place (some (.file content)))
  (apart : file.place.getLast? ≠ some (lastName target))
include apart

theorem differs {other : FileTree} (named : other.Names target there)
    (single : other.top.item? there ≠ some .directory) : there ≠ file.place := by
  rintro rfl
  exact apart (named.last single)

include opened written

theorem names_iff : filled.Names target there ∧ filled.top.item? there ≠ some .directory ↔
    tree.Names target there ∧ tree.top.item? there ≠ some .directory := by
  constructor
  · rintro ⟨named, single⟩
    have other := differs apart named single
    rw [written.elsewhere other] at single
    exact ⟨written.names_before opened.single named other, single⟩
  · rintro ⟨named, single⟩
    have other := differs apart named single
    rcases written.names_after opened.single named other with named | ⟨⟨target, link⟩, -⟩
    · rw [← written.elsewhere other] at single
      exact ⟨named, single⟩
    · have free := opened.free
      rw [Listing.item?_of_at? link] at free
      cases free

theorem moveFile_alters (moved : filled.moveFile file.path target disk = .ok after) :
    disk.noRename = none ∧ ∃ there, tree.Names target there ∧
      tree.top.item? there ≠ some .directory ∧ there ≠ file.place ∧
        tree.Alters after there (some (.file content)) := by
  obtain ⟨there, named, single, moved⟩ := (moveFile_ok_iff (opened.resolve written)).mp moved
  obtain ⟨accepts, rfl⟩ := transfer_ok_iff.mp moved
  have other := differs apart named single
  obtain ⟨named', single'⟩ := (names_iff opened written apart).mp ⟨named, single⟩
  exact ⟨accepts, there, named', single', other, opened.moved written named single other⟩

end Target

end Opened

end FileTree

end LineSieve
