import LineSieve.Proofs.FileTree.Level
import LineSieve.Proofs.Run.Outcome
import LineSieve.Proofs.Selection.Reach
import LineSieve.Proofs.Text.LetterCase
import LineSieve.Proofs.Verify

/- A selection by dialect against one by extension. On a tree that has grown, a check of the path
   comes to every file that the run selected under the rooted form of that path, if the two lead to
   the same place, the ignore file reads the same and the extensions cover the dialects. -/
namespace LineSieve

/-- Among the extensions are those of all dialects, without regard to case. -/
def CoversDialects (extensions : List String) : Prop :=
  ∀ dialect ∈ Dialect.all, ∀ extension ∈ dialect.extensions,
    ∃ item ∈ extensions, Text.equalFoldString item extension = true

instance (extensions : List String) : Decidable (CoversDialects extensions) :=
  inferInstanceAs (Decidable (∀ dialect ∈ Dialect.all, ∀ extension ∈ dialect.extensions,
    ∃ item ∈ extensions, Text.equalFoldString item extension = true))

namespace Dialect

def letters : List Nat := [46, 97, 108, 117]

theorem letters_fold : ∀ n ∈ letters, Text.Folds n := by
  decide +kernel

theorem extensions_letters : ∀ dialect ∈ all, ∀ extension ∈ dialect.extensions,
    (Text.lower extension.toList).map Char.toNat ⊆ letters := by
  decide +kernel

theorem extensions_fold : ∀ dialect ∈ all, ∀ extension ∈ dialect.extensions,
    ∀ c ∈ Text.lower extension.toList, Text.Folds c.toNat := by
  intro dialect listed extension among c letter
  have known := extensions_letters dialect listed extension among (List.mem_map_of_mem letter)
  exact letters_fold _ known

theorem forFile?_extension {path : String} {dialect : Dialect}
    (found : forFile? path = some dialect) : dialect ∈ all ∧ ∃ extension ∈ dialect.extensions,
      Text.equalFold extension.toList (Path.extension path.toList) = true := by
  have listed := List.mem_of_find?_eq_some found
  have known := List.find?_some found
  obtain ⟨extension, among, same⟩ := List.mem_map.mp (List.contains_iff_mem.mp known)
  have lowers : Text.lower (Path.extension path.toList) = Text.lower extension.toList := by
    simpa [Text.lowerString] using (congrArg String.toList same).symm
  have folds := Text.equalFold_of_lower (extensions_fold dialect listed extension among) lowers
  refine ⟨listed, extension, among, ?_⟩
  exact Text.equalFold_iff.mpr (Text.equalFold_iff.mp folds).symm

end Dialect

theorem CoversDialects.hasExtension {extensions : List String}
    (covers : CoversDialects extensions) {path : String}
    {dialect : Dialect} (found : Dialect.forFile? path = some dialect) :
    Selection.hasExtension path extensions = true := by
  obtain ⟨listed, extension, among, folds⟩ := Dialect.forFile?_extension found
  obtain ⟨item, given, same⟩ := covers dialect listed extension among
  refine List.any_eq_true.mpr ⟨item, given, ?_⟩
  have first := Text.equalFold_iff.mp same
  exact Text.equalFold_iff.mpr (first.trans (Text.equalFold_iff.mp folds))

section Child

variable {root path above : List Char} {name : String}

theorem afterSlash_child (proper : root ≠ []) (named : ProperName name) :
    Path.afterSlash (Path.join root (childPath above name)) = name.toList := by
  unfold childPath
  split
  · rw [Path.join_proper proper named.named.proper, Path.afterSlash_clean proper named.named]
  · have more : root ++ '/' :: above ≠ [] := List.append_ne_nil_of_left_ne_nil proper _
    rw [Path.join_proper proper (by simp), ← List.cons_append, ← List.append_assoc,
      Path.afterSlash_clean more named.named]

theorem childPath_proper (named : ProperName name) : childPath above name ≠ [] := by
  unfold childPath
  split
  · exact named.named.proper
  · simp

theorem forFile?_child (proper : root ≠ []) (proper' : path ≠ []) (named : ProperName name) :
    Dialect.forFile? (String.ofList (Path.join root (childPath above name))) =
      Dialect.forFile? (String.ofList (Path.join path (childPath above name))) := by
  simp only [Dialect.forFile?, String.toList_ofList]
  rw [Path.extension_congr
    ((afterSlash_child proper named).trans (afterSlash_child proper' named).symm)]

end Child

/-- Two targets at one path below two roots. -/
def Partners (root path : List Char) (one two : Target) : Prop :=
  ∃ rest, rest ≠ [] ∧ one.path = String.ofList (Path.join root rest) ∧
    two.path = String.ofList (Path.join path rest)

namespace Selection

variable {selection : Selection} {extensions : List String} {path display : String} {target : Target}

theorem target?_dialect (plain : selection.extensions = [])
    (found : selection.target? path display = some target) :
    target.path = path ∧ ∃ dialect, Dialect.forFile? path = some dialect := by
  refine ⟨congrArg Target.path (target?_eq found), ?_⟩
  unfold target? at found
  simp only [plain, List.isEmpty_nil, ↓reduceIte] at found
  split at found
  · cases found
  · rename_i dialect known
    exact ⟨dialect, known⟩

theorem target?_extensions (proper : extensions ≠ [])
    (has : hasExtension path extensions = true) :
    { selection with extensions }.target? path display =
      some ⟨path, display, Dialect.forFile? path⟩ := by
  simp only [target?, List.isEmpty_iff, proper, has, ↓reduceIte]

/-- Whether a file is left in whatever it is. -/
def Admits (selection : Selection) (ignored : List Char → Bool) (name : String)
    (path : List Char) : Prop :=
  ignored path = false ∧ (selection.excludeTests && isTestFile name) = false ∧
    selection.included path = true

theorem pick?_iff {ignored : List Char → Bool} {root path : List Char} {name : String} :
    selection.pick? ignored root name path = some target ↔ selection.Admits ignored name path ∧
      selection.target? (String.ofList (Path.join root path)) (String.ofList path) = some target := by
  unfold pick? Admits
  cases ignored path <;> cases selection.excludeTests && isTestFile name <;>
    cases selection.included path <;> simp

theorem pick?_follows (ignored : List Char → Bool) {root path : List Char}
    (plain : selection.extensions = []) (proper : extensions ≠ []) (covers : CoversDialects extensions)
    (rooted : root ≠ []) (placed : path ≠ []) :
    Follows (selection.pick? ignored root) ({ selection with extensions }.pick? ignored path)
      (Partners root path) := by
  intro above name target named picked
  obtain ⟨found, dialect, known⟩ := target?_dialect plain (pick?_eq picked)
  rw [forFile?_child rooted placed named] at known
  have again : { selection with extensions }.target?
      (String.ofList (Path.join path (childPath above name))) (String.ofList (childPath above name)) =
        some _ := target?_extensions proper (covers.hasExtension known)
  rw [known] at again
  have admits : { selection with extensions }.Admits ignored name (childPath above name) :=
    (pick?_iff.mp picked).1
  exact ⟨_, pick?_iff.mpr ⟨admits, again⟩, childPath above name, childPath_proper named, found, rfl⟩

theorem ignoreLines_ok {tree : FileTree} {root : String} {lines : List (List UInt8)}
    (read : selection.ignoreLines tree root = .ok lines) :
    lines = (if selection.useIgnoreFile then
        ((tree.readFile (String.ofList
          (Path.join root.toList ignoreFileName.toList))).toOption.map fun content =>
            Text.splitOn 10 content.toList).getD []
      else []) ++
        ((selection.excludes.map String.toList).filter (!Text.allBlank ·)).map Text.utf8 := by
  obtain ⟨front, made, rfl⟩ := map_eq_ok read
  congr 1
  split at made
  · rename_i used
    rw [if_pos used]
    split at made
    · rename_i content found
      cases made
      rw [found]
      rfl
    · rename_i e failed
      rw [failed]
      split at made
      · cases made
        rfl
      · cases made
  · rename_i unused
    cases made
    rw [if_neg unused]

end Selection

/-- What the second path leads to, the first one leads to as well; and if the second one is a link,
so is the first one. -/
structure Aligned (tree : FileTree) (root path : String) : Prop where
  stat : ∀ node, tree.stat path = .ok node → tree.stat root = .ok node
  link : ∀ target, tree.linkStat path = .ok (.link target) →
    ∃ other, tree.linkStat root = .ok (.link other)

/-- The ignore file of a run reads the same in both trees, if it is used. -/
def SameIgnoreFile (selection : Selection) (tree now : FileTree) (root : String) : Prop :=
  selection.useIgnoreFile = true →
    (tree.readFile (String.ofList
        (Path.join root.toList Selection.ignoreFileName.toList))).toOption =
      (now.readFile (String.ofList
        (Path.join root.toList Selection.ignoreFileName.toList))).toOption

section Partner

variable {tree now : FileTree} {path : String} {selection : Selection} {extensions : List String}
  {target : Target}

theorem root_eq (trimmed : Text.trim path.toList = path.toList) : (Service.root tree path).toList =
    Path.absolute (Service.rootedPath tree.origin).toList path.toList := by
  rw [Service.root, trimmed, String.toList_ofList]

theorem root_proper (tree : FileTree) (proper : path ≠ "")
    (trimmed : Text.trim path.toList = path.toList) :
    (Service.root tree path).toList ≠ [] := by
  rw [root_eq trimmed, Path.absolute]
  split
  · exact Path.clean_proper _
  · rw [Path.join_proper (by simp [FileTree.rootedPath_components]) (by simpa using proper)]
    exact Path.clean_proper _

theorem resolve_root (proper : tree.Proper) (grows : tree.Grows now) (given : path ≠ "")
    (trimmed : Text.trim path.toList = path.toList) (follow : Bool) {rest : List Char}
    (more : rest ≠ []) :
    now.resolve follow (String.ofList (Path.join (Service.root tree path).toList rest)) =
      now.resolve follow (String.ofList (Path.join path.toList rest)) := by
  rw [root_eq trimmed, ← grows.1]
  exact FileTree.resolve_absolute follow (proper.housed.grown grows) (by simpa using given) more

theorem aligned_of_level (proper : tree.Proper) (grows : tree.Grows now) (given : path ≠ "")
    (trimmed : Text.trim path.toList = path.toList) (level : Path.up ∉ Path.parts path.toList) :
    Aligned now (Service.root tree path) path := by
  have housed := proper.housed.grown grows
  have given' : path.toList ≠ [] := by simpa using given
  have rooted : String.ofList (Path.absolute (Service.rootedPath now.origin).toList path.toList) =
      Service.root tree path := by rw [Service.root, trimmed, grows.1]
  have leads {follow : Bool} {place : List String} {node : Node}
      (final : follow = true ∨ ∃ target, node = .link target)
      (led : now.resolve follow path = .ok (.found place node)) :
      now.resolve follow (Service.root tree path) = .ok (.found place node) := by
    rw [← rooted, FileTree.resolve_rooted housed given' follow]
    refine FileTree.resolve_clean housed given' level final ?_
    rw [String.ofList_toList]
    exact led
  constructor
  · intro node stat
    obtain ⟨place, led⟩ := FileTree.node_ok_iff.mp stat
    exact FileTree.node_ok_iff.mpr ⟨place, leads (.inl rfl) led⟩
  · intro target link
    obtain ⟨place, led⟩ := FileTree.node_ok_iff.mp link
    exact ⟨target, FileTree.node_ok_iff.mpr ⟨place, leads (.inr ⟨target, rfl⟩) led⟩⟩

theorem readFile_congr {tree : FileTree} {one two : String}
    (same : tree.resolve true one = tree.resolve true two) :
    (tree.readFile one).toOption = (tree.readFile two).toOption := by
  unfold FileTree.readFile FileTree.node
  rw [same]
  cases tree.resolve true two with
  | error fault => rfl
  | ok place =>
    cases place with
    | free parent name slash => rfl
    | found place node => cases node <;> rfl

theorem toOption_eq_some {ε α : Type} {result : Except ε α} {value : α} :
    result.toOption = some value ↔ result = .ok value := by
  cases result <;> simp [Except.toOption]

theorem openIn_ok {tree : FileTree} {root name : String} {entries : Listing}
    (opened : tree.openIn root name = .ok entries) :
    tree.readDirectory (String.ofList (Path.join root.toList name.toList)) = .ok entries := by
  unfold FileTree.openIn at opened
  cases read : tree.readDirectory (String.ofList (Path.join root.toList name.toList)) with
  | error e =>
    rw [read] at opened
    cases opened
  | ok inner =>
    rw [read] at opened
    exact congrArg _ (Except.ok.inj opened)

theorem linkStat_of_stat {tree : FileTree} {path : String} {node : Node}
    (stat : tree.stat path = .ok node) :
    tree.linkStat path = .ok node ∨ ∃ target, tree.linkStat path = .ok (.link target) := by
  by_cases linked : ∃ place target, tree.resolve false path = .ok (.found place (.link target))
  · obtain ⟨place, target, led⟩ := linked
    exact .inr ⟨target, FileTree.node_ok_iff.mpr ⟨place, led⟩⟩
  · obtain ⟨place, led⟩ := FileTree.node_ok_iff.mp stat
    rw [FileTree.resolve_unlinked fun place target led => linked ⟨place, target, led⟩] at led
    exact .inl (FileTree.node_ok_iff.mpr ⟨place, led⟩)

theorem select_lines {tree : FileTree} {root : String} {entries : Listing}
    (stat : tree.stat root = .ok (.directory entries))
    (finished : (tree.select root selection).2 = none) :
    ∃ lines, selection.ignoreLines tree root = .ok lines := by
  cases read : selection.ignoreLines tree root with
  | ok lines => exact ⟨lines, rfl⟩
  | error fault =>
    simp only [FileTree.select, FileTree.walk, stat, read] at finished
    cases finished

variable (proper : tree.Proper) (grows : tree.Grows now) (given : path ≠ "")
  (trimmed : Text.trim path.toList = path.toList)

include proper grows given trimmed

theorem reopened_root : Reopened (tree.openIn (Service.root tree path)) (now.openIn path) := by
  intro name entries others named opens reopens
  have opened := openIn_ok opens
  obtain ⟨place, led⟩ := FileTree.readDirectory_ok_iff.mp (openIn_ok reopens)
  rw [← resolve_root proper grows given trimmed true named.named.proper] at led
  obtain ⟨first, led'⟩ := FileTree.readDirectory_ok_iff.mp opened
  exact ⟨proper.resolve led',
    grows.readDirectory opened (FileTree.readDirectory_ok_iff.mpr ⟨place, led⟩)⟩

theorem same_lines (ignored : SameIgnoreFile selection tree now (Service.root tree path))
    {lines lines' : List (List UInt8)}
    (read : selection.ignoreLines tree (Service.root tree path) = .ok lines)
    (read' : { selection with extensions }.ignoreLines now path = .ok lines') :
    lines' = lines := by
  rw [Selection.ignoreLines_ok read, Selection.ignoreLines_ok read']
  have same := readFile_congr (resolve_root proper grows given trimmed true
    (show Selection.ignoreFileName.toList ≠ [] by decide))
  cases used : selection.useIgnoreFile with
  | false => simp only [Bool.false_eq_true, ↓reduceIte]
  | true => simp only [↓reduceIte, ignored used, same]

theorem check_walked (aligned : Aligned now (Service.root tree path) path)
    (ignored : SameIgnoreFile selection tree now (Service.root tree path))
    {lines : List (List UInt8)} {entries : Listing}
    (walked : tree.Walked (Service.root tree path) selection lines entries)
    (finished : (Verify.files now path extensions selection).2 = none) :
    ∃ others, Grown entries others ∧
      Verify.files now path extensions selection = now.select path { selection with extensions } ∧
      now.Walked path { selection with extensions } lines others := by
  obtain ⟨-, read, includes, entered⟩ := walked
  unfold Verify.files at finished ⊢
  cases stat : now.stat path with
  | error e =>
    rw [stat] at finished
    cases finished
  | ok node =>
    obtain ⟨others, rfl, entered', grown⟩ := grows.entered entered (aligned.stat node stat)
    rw [stat] at finished
    obtain ⟨lines', read'⟩ := select_lines stat finished
    obtain rfl := same_lines proper grows given trimmed ignored read read'
    refine ⟨others, grown, rfl, ⟨others, stat⟩, read', includes, ?_⟩
    rcases linkStat_of_stat stat with same | ⟨target, link⟩
    · exact same
    · obtain ⟨other, link'⟩ := aligned.link target link
      rw [entered'] at link'
      cases link'

/-- A check comes to a file of the same content for every file that the run selected. -/
theorem select_partner (plain : selection.extensions = []) (usable : extensions ≠ [])
    (covers : CoversDialects extensions) (aligned : Aligned now (Service.root tree path) path)
    (ignored : SameIgnoreFile selection tree now (Service.root tree path))
    (finished : (Verify.files now path extensions selection).2 = none)
    (listed : target ∈ (tree.select (Service.root tree path) selection).1) :
    ∃ other ∈ (Verify.files now path extensions selection).1, ∀ content,
      now.readFile other.path = .ok content → now.readFile target.path = .ok content := by
  rcases FileTree.select_cases listed with ⟨lines, entries, walked⟩ | ⟨⟨node, stat, single⟩, found⟩
  · obtain ⟨others, grown, checked, walked'⟩ :=
      check_walked proper grows given trimmed aligned ignored walked finished
    rw [checked, FileTree.select_walked walked'] at finished ⊢
    rw [FileTree.select_walked walked] at listed
    have follows := Selection.pick?_follows (selection.matching.leavesOut lines) plain usable covers
      (root_proper tree given trimmed) (by simpa using given : path.toList ≠ [])
    have entries_proper : entries.Proper :=
      have ⟨_, led⟩ := FileTree.node_ok_iff.mp walked.entered
      proper.resolve led
    obtain ⟨other, among, rest, more, here, there⟩ := follows.rootTargets
      (reopened_root proper grows given trimmed) entries_proper grown finished listed
    refine ⟨other, among, fun content read => ?_⟩
    have same := readFile_congr (resolve_root proper grows given trimmed true more)
    rw [here, ← toOption_eq_some, same, toOption_eq_some, ← there]
    exact read
  · have target_path := (Selection.target?_dialect plain found).1
    unfold Verify.files at finished ⊢
    cases stat' : now.stat path with
    | error e =>
      rw [stat'] at finished
      cases finished
    | ok node' =>
      have single' := grows.single stat single (aligned.stat node' stat')
      refine ⟨⟨path, String.ofList (Path.base path.toList), Dialect.forFile? path⟩, ?_, ?_⟩
      · cases node' with
        | directory entries => cases single'
        | file | link => exact List.mem_singleton_self _
      · intro content read
        obtain ⟨place, led⟩ := FileTree.readFile_ok_iff.mp read
        obtain ⟨place', led'⟩ :=
          FileTree.node_ok_iff.mp (aligned.stat _ (FileTree.node_ok_iff.mpr ⟨place, led⟩))
        rw [target_path]
        exact FileTree.readFile_ok_iff.mpr ⟨place', led'⟩

end Partner

end LineSieve
