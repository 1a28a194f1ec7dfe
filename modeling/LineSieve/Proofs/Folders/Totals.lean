import LineSieve.Proofs.Aggregate
import Mathlib

/- What folding file summaries comes to. Every folder that a file lies in has one entry, with the
   number of its files and the sums of their counts, and until they are sorted the entries stand in
   the order of their first files. A sum is the sum of the integers, wrapped to 64 bits. -/
namespace LineSieve

def wrappedSum (values : List Int64) : Int64 := Int64.ofInt (values.map Int64.toInt).sum

theorem wrappedSum_cons (value : Int64) (values : List Int64) :
    wrappedSum (value :: values) = value + wrappedSum values := by
  simp [wrappedSum]

theorem wrappedSum_append (one two : List Int64) :
    wrappedSum (one ++ two) = wrappedSum one + wrappedSum two := by
  simp [wrappedSum]

theorem wrappedSum_perm {one two : List Int64} (perm : one.Perm two) :
    wrappedSum one = wrappedSum two := by
  rw [wrappedSum, wrappedSum, (perm.map Int64.toInt).sum_eq]

namespace LineCounts

/-- Each of the counts summed up by itself. -/
def wrapped (parts : List LineCounts) : LineCounts where
  physical := wrappedSum (parts.map (·.physical))
  total := wrappedSum (parts.map (·.total))
  code := wrappedSum (parts.map (·.code))
  annotated := wrappedSum (parts.map (·.annotated))
  comment := wrappedSum (parts.map (·.comment))
  license := wrappedSum (parts.map (·.license))
  blank := wrappedSum (parts.map (·.blank))
  forbidden := wrappedSum (parts.map (·.forbidden))

theorem wrapped_nil : wrapped [] = {} := rfl

theorem add_eq (a b : LineCounts) : a + b = a.add b := rfl

theorem wrapped_cons (counts : LineCounts) (parts : List LineCounts) :
    wrapped (counts :: parts) = counts + wrapped parts := by
  simp only [wrapped, List.map_cons, wrappedSum_cons, add_eq, add]

theorem wrapped_append (one two : List LineCounts) :
    wrapped (one ++ two) = wrapped one + wrapped two := by
  simp only [wrapped, List.map_append, wrappedSum_append, add_eq, add]

theorem wrapped_perm {one two : List LineCounts} (perm : one.Perm two) :
    wrapped one = wrapped two := by
  simp only [wrapped, wrappedSum_perm (perm.map _)]

theorem add_assoc (a b c : LineCounts) : a + b + c = a + (b + c) := by
  simp only [add_eq, add, Int64.add_assoc]

theorem add_comm (a b : LineCounts) : a + b = b + a := by
  simp only [add_eq, add, Int64.add_comm]

theorem add_zero (a : LineCounts) : a + {} = a := by
  simp only [add_eq, add, Int64.add_zero]

theorem zero_add (a : LineCounts) : {} + a = a := by
  rw [add_comm, add_zero]

theorem wrapped_singleton (counts : LineCounts) : wrapped [counts] = counts := by
  rw [wrapped_cons, wrapped_nil, add_zero]

end LineCounts

open LineCounts (wrapped wrapped_append wrapped_cons wrapped_perm wrapped_singleton)

theorem grandTotal_concat (files : List FileSummary) (file : FileSummary) :
    grandTotal (files ++ [file]) = (grandTotal files).addFile file.counts :=
  List.foldl_concat ..

theorem grandTotal_eq (files : List FileSummary) :
    grandTotal files = ⟨Int64.ofNat files.length, wrapped (files.map (·.counts))⟩ := by
  induction files using List.reverseRecOn with
  | nil => rfl
  | append_singleton files file ih =>
    rw [grandTotal_concat, ih, GrandTotal.addFile, List.map_append, wrapped_append,
      List.map_singleton, wrapped_singleton, List.length_append, Int64.ofNat_add]
    rfl

section Keys

/-- The keys of the folders that files lie in, each where it occurs first. -/
def folderKeys (files : List FileSummary) : List String :=
  (files.map fun file => folderOf file.path).eraseDups

def firstInFolder (files : List FileSummary) (key : String) : Nat :=
  (files.map fun file => folderOf file.path).idxOf key

variable {files : List FileSummary} {file : FileSummary} {key : String}

theorem mem_folderKeys : key ∈ folderKeys files ↔ ∃ file ∈ files, folderOf file.path = key := by
  rw [folderKeys, List.mem_eraseDups, List.mem_map]

theorem folderKeys_concat (files : List FileSummary) (file : FileSummary) :
    folderKeys (files ++ [file]) =
      if folderOf file.path ∈ folderKeys files then folderKeys files
      else folderKeys files ++ [folderOf file.path] := by
  unfold folderKeys
  rw [List.map_append, List.eraseDups_append, List.map_singleton]
  generalize files.map (fun file => folderOf file.path) = keys
  by_cases known : folderOf file.path ∈ keys
  · simp [List.removeAll, known]
  · simp [List.removeAll, List.eraseDups_cons, known]

theorem firstInFolder_concat (known : key ∈ folderKeys files) :
    firstInFolder (files ++ [file]) key = firstInFolder files key := by
  rw [folderKeys, List.mem_eraseDups] at known
  rw [firstInFolder, List.map_append, List.idxOf_append_of_mem known, firstInFolder]

theorem folderKeys_ordered (files : List FileSummary) :
    (folderKeys files).Pairwise fun one two =>
      firstInFolder files one < firstInFolder files two := by
  induction files using List.reverseRecOn with
  | nil => exact .nil
  | append_singleton files file ih =>
    have before : (folderKeys files).Pairwise fun one two =>
        firstInFolder (files ++ [file]) one < firstInFolder (files ++ [file]) two := by
      refine ih.imp_of_mem fun one two less => ?_
      rwa [firstInFolder_concat one, firstInFolder_concat two]
    rw [folderKeys_concat]
    split
    · exact before
    · rename_i fresh
      refine List.pairwise_append.mpr
        ⟨before, List.pairwise_singleton _ _, fun one known two new => ?_⟩
      obtain rfl := List.mem_singleton.mp new
      rw [firstInFolder_concat known]
      -- An old key has its first file among the old files, and the new one at their end.
      rw [folderKeys, List.mem_eraseDups] at known fresh
      have inside := List.idxOf_lt_length_of_mem known
      rw [firstInFolder, firstInFolder, List.map_append, List.idxOf_append_of_notMem fresh]
      omega

theorem folderKeys_nodup (files : List FileSummary) : (folderKeys files).Nodup :=
  (folderKeys_ordered files).imp fun less => by
    rintro rfl
    exact Nat.lt_irrefl _ less

end Keys

section Entries

def inFolder (key : String) (files : List FileSummary) : List FileSummary :=
  files.filter fun file => folderOf file.path = key

def FolderTotals.ofFiles (files : List FileSummary) (key : String) : FolderTotals where
  folder := key
  files := Int64.ofNat (inFolder key files).length
  counts := wrapped ((inFolder key files).map (·.counts))

def FolderTotals.addFile (folder : FolderTotals) (counts : LineCounts) : FolderTotals :=
  { folder with files := folder.files + 1, counts := folder.counts + counts }

variable {files : List FileSummary} {file : FileSummary} {key : String}

theorem FolderTotals.ofFiles_here (files : List FileSummary) (file : FileSummary) :
    ofFiles (files ++ [file]) (folderOf file.path) =
      (ofFiles files (folderOf file.path)).addFile file.counts := by
  simp only [ofFiles, addFile, inFolder, List.filter_append, List.filter_cons, decide_true,
    ↓reduceIte, List.filter_nil, List.map_append, List.map_cons, List.map_nil, wrapped_append,
    wrapped_singleton, List.length_append, List.length_singleton, Int64.ofNat_add]
  rfl

theorem FolderTotals.ofFiles_other (other : folderOf file.path ≠ key) :
    ofFiles (files ++ [file]) key = ofFiles files key := by
  simp [ofFiles, inFolder, other]

theorem FolderTotals.ofFiles_new (fresh : key ∉ folderKeys files) :
    ofFiles files key = { folder := key } := by
  have none : inFolder key files = [] := by
    refine List.filter_eq_nil_iff.mpr fun file listed => ?_
    rw [decide_eq_true_iff]
    exact fun same => fresh (mem_folderKeys.mpr ⟨file, listed, same⟩)
  rw [ofFiles, none]
  rfl

theorem FolderTotals.addFile_new (key : String) (counts : LineCounts) :
    ({ folder := key } : FolderTotals).addFile counts = ⟨key, 1, counts⟩ := by
  simp only [addFile, LineCounts.zero_add, Int64.zero_add]

theorem addToFolder_map {entry : String → FolderTotals} (named : ∀ key, (entry key).folder = key)
    (counts : LineCounts) {keys : List String} (nodup : keys.Nodup) :
    addToFolder key counts (keys.map entry) =
      if key ∈ keys then
        keys.map fun one => if one = key then (entry one).addFile counts else entry one
      else keys.map entry ++ [⟨key, 1, counts⟩] := by
  induction keys with
  | nil => rfl
  | cons first keys ih =>
    obtain ⟨fresh, later⟩ := List.nodup_cons.mp nodup
    rw [List.map_cons, addToFolder, named, ih later]
    by_cases same : first = key
    · subst same
      have rest : keys.map (fun one => if one = first then (entry one).addFile counts
          else entry one) = keys.map entry :=
        List.map_congr_left fun one listed => if_neg fun same : one = first => fresh (same ▸ listed)
      rw [if_pos rfl, if_pos List.mem_cons_self, List.map_cons, if_pos rfl, rest,
        FolderTotals.addFile, named]
    · rw [if_neg same, List.map_cons, if_neg same]
      by_cases known : key ∈ keys
      · rw [if_pos known, if_pos (List.mem_cons_of_mem _ known)]
      · have fresh' : key ∉ first :: keys := by simp [known, Ne.symm same]
        rw [if_neg known, if_neg fresh', List.cons_append]

theorem folderTotals_concat (files : List FileSummary) (file : FileSummary) :
    folderTotals (files ++ [file]) =
      addToFolder (folderOf file.path) file.counts (folderTotals files) :=
  List.foldl_concat ..

theorem ofFiles_known (fresh : folderOf file.path ∉ folderKeys files) :
    (folderKeys files).map (FolderTotals.ofFiles (files ++ [file])) =
      (folderKeys files).map (FolderTotals.ofFiles files) :=
  List.map_congr_left fun key known =>
    FolderTotals.ofFiles_other fun same : folderOf file.path = key => fresh (same ▸ known)

theorem folderTotals_eq (files : List FileSummary) :
    folderTotals files = (folderKeys files).map (FolderTotals.ofFiles files) := by
  induction files using List.reverseRecOn with
  | nil => rfl
  | append_singleton files file ih =>
    rw [folderTotals_concat, ih, addToFolder_map (fun _ => rfl) _ (folderKeys_nodup files),
      folderKeys_concat]
    split
    · refine List.map_congr_left fun key _ => ?_
      split
      · rename_i same
        rw [same, FolderTotals.ofFiles_here]
      · rename_i other
        rw [FolderTotals.ofFiles_other (Ne.symm other)]
    · rename_i fresh
      rw [List.map_append, ofFiles_known fresh, List.map_singleton, FolderTotals.ofFiles_here,
        FolderTotals.ofFiles_new fresh, FolderTotals.addFile_new]

theorem addToFolder_sums (key : String) (counts : LineCounts) (folders : List FolderTotals) :
    wrappedSum ((addToFolder key counts folders).map (·.files)) =
        wrappedSum (folders.map (·.files)) + 1 ∧
      wrapped ((addToFolder key counts folders).map (·.counts)) =
        wrapped (folders.map (·.counts)) + counts := by
  induction folders with
  | nil => exact ⟨rfl, (wrapped_singleton counts).trans (LineCounts.zero_add counts).symm⟩
  | cons folder folders ih =>
    obtain ⟨files, sums⟩ := ih
    rw [addToFolder]
    split
    · simp only [List.map_cons, wrappedSum_cons, wrapped_cons]
      constructor
      · rw [Int64.add_assoc, Int64.add_comm 1, Int64.add_assoc]
      · rw [LineCounts.add_assoc, LineCounts.add_comm counts, LineCounts.add_assoc]
    · simp only [List.map_cons, wrappedSum_cons, wrapped_cons, files, sums]
      exact ⟨(Int64.add_assoc ..).symm, (LineCounts.add_assoc ..).symm⟩

theorem folderTotals_sums (files : List FileSummary) :
    wrappedSum ((folderTotals files).map (·.files)) = (grandTotal files).files ∧
      wrapped ((folderTotals files).map (·.counts)) = (grandTotal files).counts := by
  induction files using List.reverseRecOn with
  | nil => exact ⟨rfl, rfl⟩
  | append_singleton files file ih =>
    obtain ⟨number, counts⟩ := ih
    obtain ⟨number', counts'⟩ := addToFolder_sums (folderOf file.path) file.counts
      (folderTotals files)
    rw [folderTotals_concat, grandTotal_concat, number', counts', number, counts]
    exact ⟨rfl, rfl⟩

theorem folderKeys_perm {others : List FileSummary} (perm : others.Perm files) :
    (folderKeys others).Perm (folderKeys files) := by
  refine (List.perm_ext_iff_of_nodup (folderKeys_nodup _) (folderKeys_nodup _)).mpr fun key => ?_
  simp only [mem_folderKeys, perm.mem_iff]

theorem FolderTotals.ofFiles_perm {others : List FileSummary} (perm : others.Perm files) :
    ofFiles others = ofFiles files := by
  funext key
  have members : (inFolder key others).Perm (inFolder key files) := perm.filter _
  rw [ofFiles, ofFiles, members.length_eq, wrapped_perm (members.map _)]

end Entries

end LineSieve
