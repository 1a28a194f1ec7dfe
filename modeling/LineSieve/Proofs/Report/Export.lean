import LineSieve.Proofs.FileTree.Temporary
import LineSieve.Proofs.Report.Document
import LineSieve.Proofs.Text.Glyphs
import LineSieve.Report.Export

/- Exporting a report takes effect as a whole or not at all. Apart from the directories it makes,
   the tree after an export differs from the one before in the file that the path names, or nowhere.
   -/
namespace LineSieve

open FileTree (lastName)

namespace Report

/-- The tree with the directories that an export to a path needs, and why they cannot be made. -/
def prepared (tree : FileTree) (path : String) (disk : Disk) : FileTree × Option FileError :=
  tree.makeDirectories (String.ofList (Path.directory path.toList)) disk

/-- What an export comes to: nothing, the content at the place that the path names, or, where the
disk refuses to remove a file, the temporary file. -/
inductive Ends (made : FileTree) (path : String) (content : ByteArray) (disk : Disk) :
    FileTree → Option Fault → Prop where
  | stopped {now : FileTree} {fault : Fault} (same : made.Matches now) :
      Ends made path content disk now (some fault)
  | left {now : FileTree} {fault : Fault} {place : List String} {number : Nat} {bytes : ByteArray}
      (refused : disk.noRemove ≠ none) (free : made.top.item? place = none)
      (last : place.getLast? = some (temporaryFront path ++ toString number))
      (alters : made.Alters now place (some (.file bytes))) :
      Ends made path content disk now (some fault)
  | written {now : FileTree} {place : List String} (named : made.Names path place)
      (single : made.top.item? place ≠ some .directory)
      (alters : made.Alters now place (some (.file content))) :
      Ends made path content disk now none

theorem temporaryFront_length (path : String) :
    (temporaryFront path).length = (Path.base path.toList).length + 2 := by
  rw [temporaryFront, ← String.length_toList]
  have dot : ".".toList.length = 1 := rfl
  simp only [String.toList_append, String.toList_ofList, List.length_append, dot]
  omega

theorem temporary_apart (path : String) (number : Nat) :
    temporaryFront path ++ toString number ≠ lastName path := by
  -- The name of a temporary file is longer than the last name of the path.
  intro same
  have lengths := congrArg String.length same
  rw [String.length_append, temporaryFront_length, lastName, String.length_ofList] at lengths
  rcases Path.afterSlash_base path.toList with nothing | base
  · rw [nothing, List.length_nil] at lengths
    omega
  · rw [base] at lengths
    omega

theorem opened_of_created {made now : FileTree} {temporary : OpenFile} {directory path : String}
    {disk : Disk}
    (created : made.createTemporary directory (temporaryFront path) disk = .ok (now, temporary)) :
    made.Opened now temporary ∧
      (∃ number : Nat, temporary.place.getLast? = some (temporaryFront path ++ toString number)) ∧
      temporary.place.getLast? ≠ some (lastName path) := by
  obtain ⟨⟨number, last⟩, opened⟩ := FileTree.createTemporary_opened created
  refine ⟨opened, ⟨number, last⟩, ?_⟩
  rw [last]
  exact fun same => temporary_apart path number (Option.some.inj same)

section Install

variable {made now : FileTree} {temporary : OpenFile} {path : String} {content : ByteArray}
  {disk : Disk}

theorem discard_ends (opened : made.Opened now temporary)
    (numbered : ∃ number : Nat,
      temporary.place.getLast? = some (temporaryFront path ++ toString number))
    {filled : FileTree} {bytes : ByteArray}
    (written : made.Alters filled temporary.place (some (.file bytes))) (fault : Fault) :
    Ends made path content disk (filled.discard temporary.path disk) (some fault) := by
  obtain ⟨number, last⟩ := numbered
  by_cases removes : disk.noRemove = none
  · exact .stopped (opened.discard_restores written removes)
  · rw [FileTree.discard_refused (opened.resolve written) removes]
    exact .left removes opened.free last written

theorem install_ends (opened : made.Opened now temporary)
    (numbered : ∃ number : Nat,
      temporary.place.getLast? = some (temporaryFront path ++ toString number))
    (apart : temporary.place.getLast? ≠ some (lastName path)) (context : Cause → Fault) :
    Ends made path content disk
      ((install now temporary path content disk).1.discard temporary.path disk)
      ((install now temporary path content disk).2.map context) := by
  obtain ⟨bytes, written, complete⟩ := opened.fill content disk
  unfold install
  split
  · rename_i filled e result
    rw [result] at written
    exact discard_ends opened numbered written _
  · rename_i filled result
    rw [result] at written complete
    obtain rfl := complete rfl
    split
    · rename_i moved result
      obtain ⟨-, place, named, single, differs, alters⟩ :=
        opened.moveFile_alters written apart result
      rw [opened.discard_moved alters single differs]
      exact .written named single alters
    · exact discard_ends opened numbered written _

end Install

variable (report : Report) (tree : FileTree) (path : String) (disk : Disk)

theorem writeFile_ends : Ends (prepared tree path disk).1 path (Text.encode report.document) disk
    (report.writeFile tree path disk).1 (report.writeFile tree path disk).2 := by
  unfold writeFile prepared
  simp only
  split
  · rename_i made e result
    rw [result]
    exact .stopped ⟨rfl, rfl⟩
  · rename_i made result
    rw [result]
    split
    · exact .stopped ⟨rfl, rfl⟩
    · rename_i now temporary created
      obtain ⟨opened, numbered, apart⟩ := opened_of_created created
      exact install_ends opened numbered apart _

theorem writeFile_grows : tree.Grows (report.writeFile tree path disk).1 := by
  have made : tree.Grows (prepared tree path disk).1 := tree.makeDirectories_grows _ disk
  have ends := report.writeFile_ends tree path disk
  generalize (report.writeFile tree path disk).2 = failure at ends
  cases ends with
  | stopped same => exact made.trans same.grows
  | left _ free _ alters => exact made.trans (alters.grows (by simp [free]))
  | written named single alters => exact made.trans (alters.grows single)

end Report

end LineSieve
