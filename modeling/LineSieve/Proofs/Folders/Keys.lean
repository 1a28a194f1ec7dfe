import LineSieve.Aggregate
import LineSieve.Proofs.Selection.Shown
import LineSieve.Proofs.Selection.Under

/- The keys of folders. A key is the cleaned path of a folder, and cleaned paths differ where what
   is left of the paths differs. One key is taken twice: the one of the files above all folders is
   also the path of a folder. Backslashes count as slashes, so that a name with one in it reads as a
   way through folders. -/
namespace LineSieve

namespace Path

variable {path one two : List Char}

theorem isRooted_clean_eq (path : List Char) : isRooted (clean path) = isRooted path := by
  cases rooted : isRooted path with
  | true => exact isRooted_clean rooted
  | false => exact isRooted_clean_relative rooted

theorem fold_up (height above : Nat) :
    (List.replicate height up).foldl (pushPart false) (List.replicate above up) =
      List.replicate (height + above) up := by
  induction height generalizing above with
  | zero =>
    rw [Nat.zero_add]
    rfl
  | succ height ih =>
    have step : pushPart false (List.replicate above up) up = List.replicate (above + 1) up := by
      cases above <;> rfl
    rw [List.replicate_succ, List.foldl_cons, step, ih, Nat.add_right_comm, Nat.add_assoc]

theorem kept_clean_eq (path : List Char) : kept (clean path) = kept path := by
  cases rooted : isRooted path with
  | true => exact kept_clean rooted
  | false =>
    rw [kept, isRooted_clean_eq, rooted, parts_clean_relative rooted]
    split
    · rename_i none
      rw [none]
      rfl
    · obtain ⟨names, height, named, shape, -⟩ := kept_lifts [] (by simp) rooted
      have low : (List.replicate height up).foldl (pushPart false) [] = List.replicate height up :=
        fold_up height 0
      rw [shape, List.reverse_reverse, List.foldl_append, low, fold_named named,
        List.reverse_append, List.reverse_replicate]

theorem clean_eq_iff : clean one = clean two ↔ isRooted one = isRooted two ∧ kept one = kept two := by
  constructor
  · intro same
    rw [← isRooted_clean_eq one, ← kept_clean_eq one, same, isRooted_clean_eq, kept_clean_eq]
    exact ⟨rfl, rfl⟩
  · rintro ⟨rooted, left⟩
    rw [clean_eq, clean_eq, rooted, left]

theorem clean_top_iff : clean path = ['.'] ∨ clean path = ['/'] ↔ kept path = [] := by
  constructor
  · rintro (here | top)
    · rw [← kept_clean_eq, here]
      rfl
    · rw [← kept_clean_eq, top]
      rfl
  · intro none
    rw [clean_eq, none]
    cases isRooted path with
    | true => exact .inr rfl
    | false => exact .inl rfl

theorem parts_throughSlash (path : List Char) :
    parts (throughSlash path) = (parts path).dropLast ++ [[]] := by
  have split : throughSlash path ++ afterSlash path = path := by
    rw [throughSlash, afterSlash, ← List.reverse_append, List.takeWhile_append_dropWhile,
      List.reverse_reverse]
  have clear := afterSlash_absent path
  cases front : path.reverse.dropWhile (· != '/') with
  | nil =>
    have none : throughSlash path = [] := by rw [throughSlash, front]; rfl
    rw [none, List.nil_append] at split
    rw [none, ← split, parts, parts, Text.splitOn_absent clear]
    rfl
  | cons c rest =>
    have slash : c = '/' := by
      have stopped := List.head_dropWhile_not (· != '/') (l := path.reverse) (by simp [front])
      simpa [front] using stopped
    have ends : throughSlash path = rest.reverse ++ '/' :: [] := by
      rw [throughSlash, front, slash, List.reverse_cons]
    have last : parts (afterSlash path) = [afterSlash path] := Text.splitOn_absent clear
    rw [ends, parts_append, ← split, ends, List.append_assoc, List.cons_append, List.nil_append,
      parts_append, last, List.dropLast_concat]
    rfl

theorem isRooted_of_parts {first : List Char} {rest : List (List Char)}
    (split : parts path = first :: rest) (proper : first ≠ []) : isRooted path = false := by
  cases path with
  | nil => rfl
  | cons c path =>
    by_cases slash : c = '/'
    · rw [slash, parts_root] at split
      exact absurd (List.cons.inj split).1.symm proper
    · simp [isRooted, slash]

end Path

/-- The text before the name of a file, with backslashes read as slashes. -/
def folderText (path : String) : List Char :=
  Path.throughSlash (path.toList.map fun c => if c == '\\' then '/' else c)

/-- Where the folder of a file lies: whether it is taken from the top, and the names on the way to
it. Without names both are the place above all folders. -/
def folderPlace (path : String) : Bool × List String :=
  let left := Path.kept (folderText path)
  (!left.isEmpty && Path.isRooted (folderText path), left.reverse.map String.ofList)

/-- The first file lies above all folders, and the second one in a folder whose path is the key of
such files. -/
def Lookalike (one two : String) : Prop :=
  folderPlace one = (false, []) ∧ folderPlace two = (false, [rootFolder])

instance (one two : String) : Decidable (Lookalike one two) :=
  inferInstanceAs (Decidable (_ ∧ _))

section Keys

variable {path one two : String}

theorem folderPlace_top_iff :
    folderPlace path = (false, []) ↔ Path.kept (folderText path) = [] := by
  cases left : Path.kept (folderText path) <;> simp [folderPlace, left]

theorem folderOf_eq (path : String) : folderOf path =
    if Path.kept (folderText path) = [] then rootFolder
    else String.ofList (Path.clean (folderText path)) := by
  have same : folderOf path =
      if Path.clean (folderText path) == ['.'] || Path.clean (folderText path) == ['/'] then
        rootFolder
      else String.ofList (Path.clean (folderText path)) := rfl
  simp only [same, Bool.or_eq_true, beq_iff_eq, Path.clean_top_iff]

theorem folderOf_top (top : folderPlace path = (false, [])) : folderOf path = rootFolder := by
  rw [folderOf_eq, if_pos (folderPlace_top_iff.mp top)]

theorem folderOf_below_iff (below : folderPlace one ≠ (false, []))
    (below' : folderPlace two ≠ (false, [])) :
    folderOf one = folderOf two ↔ folderPlace one = folderPlace two := by
  have left := mt folderPlace_top_iff.mpr below
  have left' := mt folderPlace_top_iff.mpr below'
  have injective : Function.Injective (List.map String.ofList) :=
    List.map_injective_iff.mpr fun _ _ same => String.ofList_inj.mp same
  have proper := List.isEmpty_eq_false_iff.mpr left
  have proper' := List.isEmpty_eq_false_iff.mpr left'
  rw [folderOf_eq, folderOf_eq, if_neg left, if_neg left', String.ofList_inj, Path.clean_eq_iff]
  simp [folderPlace, proper, proper', injective.eq_iff]

theorem folderOf_root_iff (below : folderPlace path ≠ (false, [])) :
    folderOf path = rootFolder ↔ folderPlace path = (false, [rootFolder]) := by
  have key : folderOf "root/" = rootFolder ∧ folderPlace "root/" = (false, [rootFolder]) := by
    decide +kernel
  rw [← key.2, ← key.1]
  exact folderOf_below_iff below (by rw [key.2]; decide)

theorem folderOf_eq_iff (one two : String) : folderOf one = folderOf two ↔
    folderPlace one = folderPlace two ∨ Lookalike one two ∨ Lookalike two one := by
  unfold Lookalike
  by_cases top : folderPlace one = (false, []) <;> by_cases top' : folderPlace two = (false, [])
  · simp [folderOf_top, top, top']
  · rw [folderOf_top top, eq_comm, folderOf_root_iff top']
    simp [top, top', eq_comm]
  · rw [folderOf_top top', folderOf_root_iff top]
    simp [top, top']
  · rw [folderOf_below_iff top top']
    simp [top, top']

theorem folderText_plain (plain : '\\' ∉ path.toList) :
    folderText path = Path.throughSlash path.toList := by
  have same : path.toList.map (fun c => if c == '\\' then '/' else c) = path.toList := by
    conv_rhs => rw [← List.map_id path.toList]
    refine List.map_congr_left fun c listed => if_neg fun slash => ?_
    exact plain (beq_iff_eq.mp slash ▸ listed)
  rw [folderText, same]

theorem folderPlace_plain (plain : '\\' ∉ path.toList)
    (named : ∀ name ∈ parentNames path, Path.Named name.toList) :
    folderPlace path = (false, parentNames path) := by
  let above := (Path.parts path.toList).dropLast
  have names : ∀ part ∈ above, Path.Named part := by
    intro part listed
    have shown : String.ofList part ∈ parentNames path := by
      rw [parentNames, FileTree.names, ← List.map_dropLast]
      exact List.mem_map_of_mem listed
    simpa using named _ shown
  have parts : Path.parts (folderText path) = above ++ [[]] := by
    rw [folderText_plain plain, Path.parts_throughSlash]
  have left : Path.kept (folderText path) = above.reverse := by
    rw [Path.kept, parts, List.foldl_append, Path.fold_named names, List.append_nil]
    rfl
  have shown : parentNames path = above.map String.ofList := by
    rw [parentNames, FileTree.names, ← List.map_dropLast]
  rw [folderPlace, left, List.reverse_reverse, shown]
  cases split : above with
  | nil => rfl
  | cons first rest =>
    rw [split, List.cons_append] at parts
    have proper := (names first (split ▸ List.mem_cons_self)).proper
    rw [Path.isRooted_of_parts parts proper, Bool.and_false]

end Keys

/-- Folder keys separate folders. The files may come from different walks; leaving aside a file
above all folders beside one in a folder that is named like the key of such files, they have one key
exactly if their folders are the same place. Of files without a backslash in their paths this says
that they are shown in the same directory, so none above all folders shares its key with one below.
-/
theorem folder_keys_separate {tree tree' : FileTree} {root root' : String}
    {selection selection' : Selection} {one two : Target} (proper : tree.Proper)
    (proper' : tree'.Proper) (listed : one ∈ (tree.select root selection).1)
    (listed' : two ∈ (tree'.select root' selection').1)
    (apart : ¬ Lookalike one.display two.display) (apart' : ¬ Lookalike two.display one.display) :
    (folderOf one.display = folderOf two.display ↔
      folderPlace one.display = folderPlace two.display) ∧
    ('\\' ∉ one.display.toList → '\\' ∉ two.display.toList →
      (folderOf one.display = folderOf two.display ↔
        parentNames one.display = parentNames two.display)) := by
  have keys : folderOf one.display = folderOf two.display ↔
      folderPlace one.display = folderPlace two.display := by
    rw [folderOf_eq_iff]
    simp [apart, apart']
  refine ⟨keys, fun plain plain' => ?_⟩
  have named := FileTree.select_shown proper listed
  have named' := FileTree.select_shown proper' listed'
  rw [keys, folderPlace_plain plain fun name among => (named name among).named,
    folderPlace_plain plain' fun name among => (named' name among).named]
  simp

def FileTree.homonyms : FileTree where
  top := .directory "a" (.file "y.lua" .empty .nil) (.file "a\\x.lua" .empty
    (.directory "root" (.file "z.lua" .empty .nil) (.file "x.lua" .empty .nil)))
  origin := []

theorem FileTree.proper_homonyms : homonyms.Proper := by
  have named : ProperName "a" ∧ ProperName "y.lua" ∧ ProperName "a\\x.lua" ∧ ProperName "root" ∧
      ProperName "z.lua" ∧ ProperName "x.lua" := by decide +kernel
  refine ⟨?_, _, rfl⟩
  simp [homonyms, Listing.Proper, Listing.find?, named]

def Target.plain (path : String) : Target := ⟨path, path, some .lua⟩

theorem FileTree.select_homonyms : homonyms.select "." {} =
    (["a/y.lua", "a\\x.lua", "root/z.lua", "x.lua"].map Target.plain, none) := by
  have entered : homonyms.linkStat "." = .ok (.directory homonyms.top) := by cbv
  simp only [select, walk, stat_of_linkStat entered, entered]
  cbv

theorem FileTree.listed_homonyms {path : String}
    (among : path ∈ ["a/y.lua", "a\\x.lua", "root/z.lua", "x.lua"]) :
    Target.plain path ∈ (homonyms.select "." {}).1 := by
  rw [select_homonyms]
  exact List.mem_map_of_mem among

theorem folder_keys_separate_homonyms :
    (Target.plain "a/y.lua" ∈ (FileTree.homonyms.select "." {}).1 ∧
      Target.plain "x.lua" ∈ (FileTree.homonyms.select "." {}).1) ∧
    (¬ Lookalike "a/y.lua" "x.lua" ∧ ¬ Lookalike "x.lua" "a/y.lua") ∧
    folderOf "a/y.lua" ≠ folderOf "x.lua" := by
  have listed : Target.plain "a/y.lua" ∈ (FileTree.homonyms.select "." {}).1 :=
    FileTree.listed_homonyms (by simp)
  have listed' : Target.plain "x.lua" ∈ (FileTree.homonyms.select "." {}).1 :=
    FileTree.listed_homonyms (by simp)
  have apart : ¬ Lookalike "a/y.lua" "x.lua" ∧ ¬ Lookalike "x.lua" "a/y.lua" := by decide +kernel
  have plain : '\\' ∉ "a/y.lua".toList ∧ '\\' ∉ "x.lua".toList := by decide +kernel
  have elsewhere : parentNames "a/y.lua" ≠ parentNames "x.lua" := by decide +kernel
  have separate := folder_keys_separate FileTree.proper_homonyms FileTree.proper_homonyms listed
    listed' apart.1 apart.2
  exact ⟨⟨listed, listed'⟩, apart, mt (separate.2 plain.1 plain.2).mp elsewhere⟩

/-- Keys do not separate the directories that files are shown in: a backslash in a name reads as a
slash, and the key of the files above all folders is that of a directory, too. -/
theorem folder_keys_collide :
    (¬ ∀ (tree : FileTree) (root : String) (selection : Selection) (one two : Target),
      tree.Proper → one ∈ (tree.select root selection).1 → two ∈ (tree.select root selection).1 →
      (folderOf one.display = folderOf two.display ↔
        parentNames one.display = parentNames two.display)) ∧
    ∃ one two : Target, one ∈ (FileTree.homonyms.select "." {}).1 ∧
      two ∈ (FileTree.homonyms.select "." {}).1 ∧
      ('\\' ∉ one.display.toList ∧ '\\' ∉ two.display.toList) ∧
      folderOf one.display = folderOf two.display ∧
      parentNames one.display = ["root"] ∧ parentNames two.display = [] := by
  constructor
  · intro separate
    have same := separate .homonyms "." {} (.plain "a/y.lua") (.plain "a\\x.lua")
      FileTree.proper_homonyms (FileTree.listed_homonyms (by simp))
      (FileTree.listed_homonyms (by simp))
    exact absurd (same.mp (by decide +kernel)) (by decide +kernel)
  · refine ⟨.plain "root/z.lua", .plain "x.lua", FileTree.listed_homonyms (by simp),
      FileTree.listed_homonyms (by simp), ?_⟩
    decide +kernel

end LineSieve
