import LineSieve.Proofs.Folders.Totals

/- Folding is a partition. The entries can be gathered with a table of their positions in place of a
   search, and sorting them only puts them into order, so each file is in the entry of its folder
   and in no other, and the entries add up to the total, whatever the order of the files was. -/
namespace LineSieve

open LineCounts (wrapped wrapped_perm)

section Positions

/-- The entries in the making, with a table of their positions. -/
structure Gathering where
  folders : Array FolderTotals := #[]
  positions : Std.HashMap String Nat := {}
  total : GrandTotal := {}

def Gathering.add (gathering : Gathering) (file : FileSummary) : Gathering :=
  let key := folderOf file.path
  let total := gathering.total.addFile file.counts
  match gathering.positions[key]? with
  | some position =>
    { gathering with
      folders := gathering.folders.modify position (·.addFile file.counts)
      total := total }
  | none =>
    let position := gathering.folders.size
    { folders := (gathering.folders.push { folder := key }).modify position
        (·.addFile file.counts)
      positions := gathering.positions.insert key position
      total := total }

def gather (files : List FileSummary) : Gathering := files.foldl Gathering.add {}

/-- The entries are those of the files so far, and the table knows the position of each. -/
structure Gathering.Holds (gathering : Gathering) (files : List FileSummary) : Prop where
  folders : gathering.folders.toList = folderTotals files
  positions : ∀ (key : String) (position : Nat), gathering.positions[key]? = some position ↔
    (folderKeys files)[position]? = some key
  total : gathering.total = grandTotal files

variable {gathering : Gathering} {files : List FileSummary}

theorem Gathering.Holds.known (holds : gathering.Holds files) {key : String} :
    (∃ position, gathering.positions[key]? = some position) ↔ key ∈ folderKeys files := by
  simp only [holds.positions, List.mem_iff_getElem?]

theorem modify_folder {position : Nat} {file : FileSummary}
    (there : (folderKeys files)[position]? = some (folderOf file.path)) :
    ((folderKeys files).map (FolderTotals.ofFiles files)).modify position
        (·.addFile file.counts) =
      (folderKeys files).map (FolderTotals.ofFiles (files ++ [file])) := by
  apply List.ext_getElem?
  intro number
  rw [List.getElem?_modify, List.getElem?_map, List.getElem?_map]
  cases found : (folderKeys files)[number]? with
  | none => split <;> rfl
  | some key =>
    split
    · rename_i same
      subst same
      obtain rfl := Option.some.inj (found.symm.trans there)
      simp only [Option.map_eq_map, Option.map_some, FolderTotals.ofFiles_here]
    · rename_i differs
      -- A key has one position only.
      have other : folderOf file.path ≠ key := by
        rintro rfl
        obtain ⟨inside, here⟩ := List.getElem?_eq_some_iff.mp there
        obtain ⟨inside', here'⟩ := List.getElem?_eq_some_iff.mp found
        exact differs ((folderKeys_nodup files).getElem_inj_iff.mp (here.trans here'.symm))
      simp only [Option.map_eq_map, Option.map_some, FolderTotals.ofFiles_other other]

theorem modify_last {α : Type} (items : List α) (last : α) (f : α → α) :
    (items ++ [last]).modify items.length f = items ++ [f last] := by
  induction items with
  | nil => rfl
  | cons first items ih =>
    rw [List.cons_append, List.length_cons, List.modify_succ_cons, ih, List.cons_append]

theorem concat_position_iff {keys : List String} {last key : String} {position : Nat} :
    (keys ++ [last])[position]? = some key ↔
      keys[position]? = some key ∨ last = key ∧ position = keys.length := by
  rw [List.getElem?_append]
  by_cases inside : position < keys.length
  · rw [if_pos inside]
    have differs : position ≠ keys.length := Nat.ne_of_lt inside
    simp [differs]
  · have absent : keys[position]? = none := List.getElem?_eq_none (Nat.not_lt.mp inside)
    rw [if_neg inside, absent, List.getElem?_singleton]
    have first : position - keys.length = 0 ↔ position = keys.length := by omega
    simp [first, and_comm]

theorem Gathering.Holds.add_known (holds : gathering.Holds files) {file : FileSummary}
    {position : Nat} (found : gathering.positions[folderOf file.path]? = some position) :
    (gathering.add file).Holds (files ++ [file]) := by
  have keys := folderKeys_concat files file
  rw [if_pos (holds.known.mp ⟨position, found⟩)] at keys
  have entries := holds.folders
  rw [folderTotals_eq] at entries
  simp only [Gathering.add, found]
  refine ⟨?_, ?_, ?_⟩
  · rw [folderTotals_eq, keys, Array.toList_modify, entries,
      modify_folder ((holds.positions _ _).mp found)]
  · rw [keys]
    exact holds.positions
  · rw [holds.total, grandTotal_concat]

theorem Gathering.Holds.add_new (holds : gathering.Holds files) {file : FileSummary}
    (found : gathering.positions[folderOf file.path]? = none) :
    (gathering.add file).Holds (files ++ [file]) := by
  have fresh : folderOf file.path ∉ folderKeys files := by
    rw [← holds.known, found]
    simp
  have keys := folderKeys_concat files file
  rw [if_neg fresh] at keys
  have entries := holds.folders
  rw [folderTotals_eq] at entries
  have size : gathering.folders.size = (folderKeys files).length := by
    rw [← Array.length_toList, entries, List.length_map]
  simp only [Gathering.add, found]
  refine ⟨?_, fun key position => ?_, ?_⟩
  · rw [folderTotals_eq, keys, List.map_append, ofFiles_known fresh, List.map_singleton,
      FolderTotals.ofFiles_here, FolderTotals.ofFiles_new fresh, Array.toList_modify,
      Array.toList_push, entries, size, ← List.length_map (FolderTotals.ofFiles files),
      modify_last]
  · rw [keys, size, concat_position_iff]
    by_cases same : folderOf file.path = key
    · -- The new key is at no old position.
      have absent : (folderKeys files)[position]? ≠ some key := fun there =>
        fresh (same ▸ List.mem_of_getElem? there)
      simp [same, absent, eq_comm]
    · simp [Std.HashMap.getElem?_insert, same, holds.positions]
  · rw [holds.total, grandTotal_concat]

theorem gather_holds (files : List FileSummary) : (gather files).Holds files := by
  unfold gather
  induction files using List.reverseRecOn with
  | nil => exact ⟨rfl, by simp [folderKeys], rfl⟩
  | append_singleton files file ih =>
    rw [List.foldl_concat]
    cases found : (files.foldl Gathering.add {}).positions[folderOf file.path]? with
    | some position => exact ih.add_known found
    | none => exact ih.add_new found

end Positions

/-- What folding comes to: one entry for each folder that a file lies in, of exactly the files with
its key, and all of them add up to the total. The entries are in descending order of their effective
lines, and equal ones in the order of their first files. -/
structure Folds (files : List FileSummary) (folders : List FolderTotals) (total : GrandTotal) :
    Prop where
  once : (folders.map (·.folder)).Nodup
  occurs : ∀ key, key ∈ folders.map (·.folder) ↔ ∃ file ∈ files, folderOf file.path = key
  entries : ∀ folder ∈ folders,
    folder.files = Int64.ofNat (inFolder folder.folder files).length ∧
      folder.counts = wrapped ((inFolder folder.folder files).map (·.counts))
  grand : total.files = Int64.ofNat files.length ∧ total.counts = wrapped (files.map (·.counts))
  sums : wrappedSum (folders.map (·.files)) = total.files ∧
    wrapped (folders.map (·.counts)) = total.counts
  order : folders.Pairwise fun one two =>
    two.counts.total < one.counts.total ∨ two.counts.total = one.counts.total ∧
      firstInFolder files one.folder < firstInFolder files two.folder

section Sorted

variable {files : List FileSummary}

theorem sortFolders_perm (files : List FileSummary) :
    (sortFolders (folderTotals files)).Perm
      ((folderKeys files).map (FolderTotals.ofFiles files)) := by
  rw [← folderTotals_eq]
  exact descending_perm _ _

theorem folders_keys (files : List FileSummary) :
    ((sortFolders (folderTotals files)).map (·.folder)).Perm (folderKeys files) := by
  have perm := (sortFolders_perm files).map FolderTotals.folder
  rwa [List.map_map, List.map_id''] at perm
  exact fun _ => rfl

theorem folders_ordered (files : List FileSummary) :
    (sortFolders (folderTotals files)).Pairwise fun one two =>
      two.counts.total < one.counts.total ∨ two.counts.total = one.counts.total ∧
        firstInFolder files one.folder < firstInFolder files two.folder := by
  refine descending_order _ ?_
  rw [folderTotals_eq]
  exact List.pairwise_map.mpr (folderKeys_ordered files)

theorem aggregate_folds (files : List FileSummary) :
    Folds files (aggregate files).1 (aggregate files).2 := by
  have perm := descending_perm (fun folder : FolderTotals => folder.counts.total)
    (folderTotals files)
  obtain ⟨numbers, counts⟩ := folderTotals_sums files
  refine ⟨?_, ?_, ?_, ?_, ⟨?_, ?_⟩, folders_ordered files⟩
  · exact (folders_keys files).nodup_iff.mpr (folderKeys_nodup files)
  · intro key
    exact (folders_keys files).mem_iff.trans mem_folderKeys
  · intro folder listed
    obtain ⟨key, -, rfl⟩ := List.mem_map.mp ((sortFolders_perm files).mem_iff.mp listed)
    exact ⟨rfl, rfl⟩
  · rw [aggregate, grandTotal_eq]
    exact ⟨rfl, rfl⟩
  · exact (wrappedSum_perm (perm.map _)).trans numbers
  · exact (wrapped_perm (perm.map _)).trans counts

theorem aggregate_perm {others : List FileSummary} (perm : others.Perm files) :
    (aggregate others).2 = (aggregate files).2 ∧
      (aggregate others).1.Perm (aggregate files).1 := by
  constructor
  · rw [aggregate, aggregate, grandTotal_eq, grandTotal_eq, perm.length_eq,
      wrapped_perm (perm.map _)]
  · refine (sortFolders_perm others).trans (.trans ?_ (sortFolders_perm files).symm)
    rw [FolderTotals.ofFiles_perm perm]
    exact (folderKeys_perm perm).map _

end Sorted

/-- Folding the files is an exact partition into folders, and a table of positions leads to the same
entries. Sorting the files only puts them into descending order of their effective lines, equal ones
as they were. The order of the files changes neither the total nor any entry. -/
theorem aggregate_partition (files : List FileSummary) :
    Folds files (aggregate files).1 (aggregate files).2 ∧
      aggregate files = (sortFolders (gather files).folders.toList, (gather files).total) ∧
      ((sortFiles files).Perm files ∧
        (sortFiles files).Pairwise (fun one two => two.counts.total ≤ one.counts.total) ∧
        ∀ total, (sortFiles files).filter (fun file => file.counts.total = total) =
          files.filter fun file => file.counts.total = total) ∧
      ∀ others, others.Perm files → (aggregate others).2 = (aggregate files).2 ∧
        (aggregate others).1.Perm (aggregate files).1 := by
  refine ⟨aggregate_folds files, ?_, ⟨?_, ?_, ?_⟩, fun others perm => aggregate_perm perm⟩
  · rw [(gather_holds files).folders, (gather_holds files).total, aggregate]
  · exact descending_perm _ files
  · exact descending_sorted _ files
  · exact fun total => descending_stable _ files total

def FileSummary.brimming : List FileSummary :=
  [("core/a.lua", Int64.maxValue), ("gui/b.lua", 5), ("core/c.lua", 1)].map fun (path, lines) =>
    { path, dialect := "lua", encoding := "utf-8", counts := { total := lines, code := lines } }

theorem folderTotals_brimming : folderTotals FileSummary.brimming =
    [⟨"core", 2, { total := Int64.minValue, code := Int64.minValue }⟩,
      ⟨"gui", 1, { total := 5, code := 5 }⟩] := by
  decide +kernel

theorem aggregate_partition_brimming :
    let files := FileSummary.brimming
    files.reverse.Perm files ∧
      (aggregate files).1.map (fun folder => (folder.folder, folder.files, folder.counts.total)) =
        [("gui", 1, 5), ("core", 2, Int64.minValue)] ∧
      Folds files (aggregate files).1 (aggregate files).2 ∧
      (aggregate files.reverse).2 = (aggregate files).2 ∧
      (aggregate files.reverse).1.Perm (aggregate files).1 := by
  intro files
  have perm : files.reverse.Perm files := List.reverse_perm files
  obtain ⟨folds, -, -, reordered⟩ := aggregate_partition files
  have falls : ¬ (5 : Int64) ≤ Int64.minValue := by decide
  refine ⟨perm, ?_, folds, reordered files.reverse perm⟩
  simp [files, aggregate, folderTotals_brimming, sortFolders, List.mergeSort, falls]

end LineSieve
