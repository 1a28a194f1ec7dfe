import LineSieve.Proofs.Config.Default
import LineSieve.Proofs.Run.Schedule
import LineSieve.Proofs.Selection.Coverage

/- Dialects by name. Looking a name up takes the blanks off around it, and the selection compares
   the name as it is written. A name in any letter case selects the files of its dialect; with a
   blank at one of its ends it is a valid name all the same, and selects none. -/
namespace LineSieve

namespace Text

def blankPoints : List Nat :=
  [0x09, 0x0A, 0x0B, 0x0C, 0x0D, 0x20, 0x85, 0xA0, 0x1680, 0x2000, 0x2001, 0x2002, 0x2003, 0x2004,
    0x2005, 0x2006, 0x2007, 0x2008, 0x2009, 0x200A, 0x2028, 0x2029, 0x202F, 0x205F, 0x3000]

theorem blank_point {c : Char} (blank : isBlank c = true) : c.toNat ∈ blankPoints := by
  simp only [isBlank, Bool.or_eq_true, Bool.and_eq_true, decide_eq_true_eq, beq_iff_eq] at blank
  simp only [blankPoints, List.mem_cons, List.not_mem_nil, or_false]
  omega

theorem foldKey_blank : ∀ n ∈ blankPoints, foldKey n = n := by
  decide +kernel

theorem trim_visible {s : List Char} (visible : ∀ c ∈ s, isBlank c = false) : trim s = s := by
  have left : trimLeft s = s := by
    cases s with
    | nil => rfl
    | cons c s =>
      have first := visible c List.mem_cons_self
      exact List.dropWhile_cons_of_neg (by simp [first])
  rw [trim, left, trimRight_chars, dropTrailing_eq, List.rdropWhile_eq_self_iff]
  intro proper
  rw [visible _ (List.getLast_mem proper)]
  exact Bool.false_ne_true

theorem equalFold_visible {s t : List Char}
    (visible : ∀ key ∈ s.map (foldKey ·.toNat), key ∉ blankPoints) (same : equalFold s t = true) :
    ∀ c ∈ t, isBlank c = false := by
  intro c listed
  rw [Bool.eq_false_iff]
  intro blank
  have point := blank_point blank
  have key : foldKey c.toNat ∈ s.map (foldKey ·.toNat) := by
    rw [equalFold_iff.mp same]
    exact List.mem_map_of_mem listed
  rw [foldKey_blank _ point] at key
  exact visible _ key point

end Text

namespace Dialect

theorem names_visible : ∀ dialect ∈ all, ∀ key ∈ dialect.name.toList.map (Text.foldKey ·.toNat),
    key ∉ Text.blankPoints := by
  decide +kernel

theorem names_proper : ∀ dialect ∈ all, dialect.name ≠ "" := by
  decide

variable {name : String} {dialect : Dialect}

theorem trimString_alike (listed : dialect ∈ all)
    (alike : Text.equalFoldString dialect.name name = true) : Text.trimString name = name := by
  have visible := Text.equalFold_visible (names_visible dialect listed) alike
  rw [Text.trimString, Text.trim_visible visible, String.ofList_toList]

theorem lookup?_spec (known : lookup? name = some dialect) : dialect ∈ all ∧
    Text.equalFoldString dialect.name (Text.trimString name) = true := by
  have alike := List.find?_some known
  exact ⟨List.mem_of_find?_eq_some known, alike⟩

theorem lookup?_proper (known : lookup? name = some dialect) : name ≠ "" := by
  rintro rfl
  obtain ⟨listed, alike⟩ := lookup?_spec known
  have keys := Text.equalFold_iff.mp alike
  rw [show (Text.trimString "").toList = [] by decide, List.map_nil, List.map_eq_nil_iff] at keys
  exact names_proper dialect listed (String.toList_eq_nil_iff.mp keys)

end Dialect

namespace Selection

variable {selection : Selection} {name : String} {dialect : Dialect}

theorem target?_spelled (known : Dialect.lookup? name = some dialect)
    (whole : Text.trimString name = name) : { selection with dialect := name }.target? =
      { selection with dialect := dialect.name }.target? := by
  obtain ⟨listed, alike⟩ := Dialect.lookup?_spec known
  rw [whole] at alike
  have agree (found : Dialect) : Text.equalFoldString found.name name =
      Text.equalFoldString found.name dialect.name := by
    unfold Text.equalFoldString Text.equalFold
    rw [Text.equalFold_iff.mp alike]
  funext path display
  simp only [target?, agree, Dialect.lookup?_proper known, Dialect.names_proper dialect listed]

theorem target?_padded (known : Dialect.lookup? name = some dialect)
    (padded : Text.trimString name ≠ name) (plain : selection.extensions = [])
    (path display : String) : { selection with dialect := name }.target? path display = none := by
  simp only [target?, plain, List.isEmpty_nil, ↓reduceIte]
  cases found : Dialect.forFile? path with
  | none => rfl
  | some other =>
    have unlike : Text.equalFoldString other.name name = false := by
      rw [Bool.eq_false_iff]
      have known := (Dialect.forFile?_extension found).1
      exact fun alike => padded (Dialect.trimString_alike known alike)
    simp only [Dialect.lookup?_proper known, unlike, decide_false, Bool.or_self,
      Bool.false_eq_true, ↓reduceIte]

theorem target?_extended (extended : selection.extensions ≠ []) (one two : String) :
    { selection with dialect := one }.target? = { selection with dialect := two }.target? := by
  funext path display
  simp only [target?, List.isEmpty_iff, extended, ↓reduceIte]

end Selection

theorem Listing.rootTargets_fault {opens : String → Except Fault Listing}
    {skips : String → List Char → Bool} {pick? again? : String → List Char → Option Target}
    (listing : Listing) : (listing.rootTargets opens skips pick?).2 =
      (listing.rootTargets opens skips again?).2 := by
  induction listing using entries_induction with
  | nil => rfl
  | cons name node rest _ ih =>
    rw [rootTargets_cons, rootTargets_cons]
    cases node with
    | file | link => exact ih
    | directory entries =>
      simp only [Node.rootTargets]
      cases skips name (childPath [] name) with
      | true => exact ih
      | false =>
        cases opens name with
        | error fault => rfl
        | ok inner => exact ih

namespace FileTree

variable {tree : FileTree} {root one two : String} {selection : Selection}

theorem select_dialect (same : { selection with dialect := one }.target? =
    { selection with dialect := two }.target?) :
    tree.select root { selection with dialect := one } =
      tree.select root { selection with dialect := two } := by
  have picks (ignored : List Char → Bool) (root : List Char) :
      { selection with dialect := one }.pick? ignored root =
        { selection with dialect := two }.pick? ignored root := by
    funext name path
    simp only [Selection.pick?, same]
    rfl
  simp only [select, walk, picks, same]
  rfl

theorem select_missed (missed : ∀ path display, selection.target? path display = none) :
    (tree.select root selection).1 = [] := by
  rw [List.eq_nil_iff_forall_not_mem]
  intro target listed
  rcases select_cases listed with ⟨lines, entries, walked⟩ | ⟨-, found⟩
  · rw [select_walked walked] at listed
    obtain ⟨name, path, picked⟩ := Listing.mem_rootTargets listed
    have found := Selection.pick?_eq picked
    rw [missed] at found
    cases found
  · rw [missed] at found
    cases found

theorem select_unsupported {node : Node} (stat : tree.stat root = .ok node)
    (single : node.isDirectory = false) (empty : (tree.select root selection).1 = []) :
    tree.select root selection =
      ([], some (.detailed (.cause .unsupportedFile) (String.ofList (Path.base root.toList)))) := by
  cases found : selection.target? root (String.ofList (Path.base root.toList)) with
  | some target =>
    rw [select_single stat single found] at empty
    cases empty
  | none =>
    cases node with
    | directory entries => cases single
    | file | link => simp only [select, walk, stat, found, List.reverse_nil]

theorem select_fault {listing : Listing} (stat : tree.stat root = .ok (.directory listing)) :
    (tree.select root selection).2 =
      match selection.ignoreLines tree root, selection.checkIncludes with
      | .error fault, _ => some fault
      | .ok _, .error fault => some fault
      | .ok lines, .ok () =>
        match tree.linkStat root with
        | .ok (.directory entries) =>
          (entries.rootTargets (tree.openIn root)
            (selection.skips (selection.matching.leavesOut lines)) fun _ _ => none).2
        | _ => none := by
  cases read : selection.ignoreLines tree root with
  | error fault => simp only [select, walk, stat, read]
  | ok lines =>
    cases includes : selection.checkIncludes with
    | error fault => simp only [select, walk, stat, read, includes]
    | ok _ =>
      cases entered : tree.linkStat root with
      | error e => simp only [select, walk, stat, read, includes, entered]
      | ok node =>
        cases node with
        | file | link => simp only [select, walk, stat, read, includes, entered]
        | directory entries =>
          rw [select_walked ⟨⟨listing, stat⟩, read, includes, entered⟩]
          exact Listing.rootTargets_fault entries

theorem select_nothing (empty : (tree.select root { selection with dialect := one }).1 = [])
    (empty' : (tree.select root { selection with dialect := two }).1 = []) :
    tree.select root { selection with dialect := one } =
      tree.select root { selection with dialect := two } := by
  refine Prod.ext (empty.trans empty'.symm) ?_
  cases stat : tree.stat root with
  | error e => simp only [select, walk, stat]
  | ok node =>
    rcases node.single_or_directory with single | ⟨listing, rfl⟩
    · rw [select_unsupported stat single empty, select_unsupported stat single empty']
    · rw [select_fault stat, select_fault stat]
      rfl

end FileTree

namespace Config

theorem valid_spelled {name : String} (known : Dialect.lookup? name = some .lua) :
    { usual with dialect := name }.validate = .ok () := by
  have lua : Dialect.lookup? usual.dialect = some .lua := by decide +kernel
  have compiled : { usual with dialect := name }.compileRules = usual.compileRules := by
    simp only [compileRules, known, lua]
  unfold validate
  rw [compiled]
  exact validate_usual

theorem validate_known {μ α : Type} [Spelling μ α] [Text.Alphabet α] {config : Config μ}
    {library : Encoding.Library} (valid : config.validate library = .ok ()) :
    ∃ dialect, Dialect.lookup? config.dialect = some dialect := by
  cases found : Dialect.lookup? config.dialect with
  | some dialect => exact ⟨dialect, rfl⟩
  | none =>
    have failed : config.compileRules =
        .error (.cause (.config (.unknownDialect config.dialect))) := by
      simp only [compileRules, found]
    simp only [validate, failed] at valid
    split at valid
    · cases valid
    · split at valid
      · cases valid
      · cases decoder : config.decoder library <;> rw [decoder] at valid <;> cases valid

end Config

/-- A valid configuration names a dialect, and its files are selected by the name as it is written
exactly if the name has no blanks around it, the selection is by extensions or there are no such
files. A name with blanks around it selects nothing. -/
theorem dialect_spelling_selects_iff (config : Config (List UInt8)) (library : Encoding.Library)
    (valid : config.validate library = .ok ()) (tree : FileTree) (root : String)
    (selection : Selection) :
    ∃ dialect, Dialect.lookup? config.dialect = some dialect ∧
      let spelled := tree.select root { selection with dialect := config.dialect }
      let named := tree.select root { selection with dialect := dialect.name }
      (spelled = named ↔ Text.trimString config.dialect = config.dialect ∨
        selection.extensions ≠ [] ∨ named.1 = []) ∧
      (Text.trimString config.dialect ≠ config.dialect → selection.extensions = [] →
        spelled.1 = []) := by
  obtain ⟨dialect, known⟩ := Config.validate_known valid
  have missed (padded : Text.trimString config.dialect ≠ config.dialect)
      (plain : selection.extensions = []) :
      (tree.select root { selection with dialect := config.dialect }).1 = [] :=
    FileTree.select_missed (Selection.target?_padded known padded plain)
  refine ⟨dialect, known, ⟨fun same => ?_, ?_⟩, missed⟩
  · by_contra other
    simp only [not_or, not_not] at other
    obtain ⟨padded, plain, some⟩ := other
    exact some (same ▸ missed padded plain)
  · rintro (whole | extended | empty)
    · exact FileTree.select_dialect (Selection.target?_spelled known whole)
    · exact FileTree.select_dialect (Selection.target?_extended extended _ _)
    · by_cases whole : Text.trimString config.dialect = config.dialect
      · exact FileTree.select_dialect (Selection.target?_spelled known whole)
      · by_cases plain : selection.extensions = []
        · exact FileTree.select_nothing (missed whole plain) empty
        · exact FileTree.select_dialect (Selection.target?_extended plain _ _)

theorem dialect_spelling_selects_iff_capital :
    let config := { Config.usual with dialect := "LUA" }
    let tree := FileTree.pair (Text.encode "x = 1\n".toList) (Text.encode "y = 2\n".toList)
    config.validate = .ok () ∧ ∃ dialect, Dialect.lookup? config.dialect = some dialect ∧
      let spelled := tree.select "/" { config.selection with dialect := config.dialect }
      let named := tree.select "/" { config.selection with dialect := dialect.name }
      (spelled = named ↔ Text.trimString config.dialect = config.dialect ∨
        config.selection.extensions ≠ [] ∨ named.1 = []) ∧
      (Text.trimString config.dialect ≠ config.dialect → config.selection.extensions = [] →
        spelled.1 = []) := by
  intro config tree
  have known : Dialect.lookup? "LUA" = some .lua := by decide +kernel
  have valid := Config.valid_spelled known
  exact ⟨valid, dialect_spelling_selects_iff config .standard valid tree "/" config.selection⟩

/-- A valid name of a dialect does not always select its files: with blanks around it, it selects
none of them. -/
theorem dialect_spelling_selects_none :
    ¬ ∀ config : Config (List UInt8), config.validate = .ok () →
      ∀ (tree : FileTree) (root : String) (selection : Selection),
        ∃ dialect, Dialect.lookup? config.dialect = some dialect ∧
          tree.select root { selection with dialect := config.dialect } =
            tree.select root { selection with dialect := dialect.name } := by
  intro same
  have known : Dialect.lookup? " lua " = some .lua := by decide +kernel
  have valid := Config.valid_spelled known
  obtain ⟨dialect, found, equal⟩ := same _ valid (.pair .empty .empty) "/" {}
  obtain rfl := Option.some.inj (known.symm.trans found)
  have padded : Text.trimString " lua " ≠ " lua " := by decide +kernel
  have spelled : ((FileTree.pair .empty .empty).select "/" { dialect := " lua " }).1 = [] :=
    FileTree.select_missed (@Selection.target?_padded {} " lua " .lua known padded rfl)
  have named : (FileTree.pair .empty .empty).select "/" { dialect := Dialect.lua.name } =
      (Target.topPair, none) := by cbv
  rw [equal, named] at spelled
  cases spelled

end LineSieve
