import LineSieve.Proofs.Run.Schedule
import LineSieve.Proofs.Selection.Places
import LineSieve.Proofs.Selection.Under

/- What a walk selects. Whatever the matchers answer, it selects the files that no directory on
   their way and nothing about themselves leaves out, each of them once and in the order of the
   names. A visitor sees them in this order until it ends the walk. -/
namespace LineSieve

namespace Selection

variable (selection : Selection) (lines : List (List UInt8))

/-- What is asked of the directory `name` in `above` before it is entered. -/
structure Enters (above : List String) (name : String) : Prop where
  common : name ∉ ignoredDirectories
  untested : selection.excludeTests = true → Text.lowerString name ∉ testDirectories
  kept : selection.matching.leavesOut lines (relativePath (above ++ [name]) ++ ['/']) = false

/-- The extension of a file is wanted, or without extensions its dialect is. -/
def Wants (path : String) : Prop :=
  selection.extensions ≠ [] ∧ hasExtension path selection.extensions = true ∨
    selection.extensions = [] ∧ ∃ dialect, Dialect.forFile? path = some dialect ∧
      (selection.dialect = "" ∨ Text.equalFoldString dialect.name selection.dialect = true)

end Selection

def Target.below (root : String) (place : List String) : Target :=
  let path := String.ofList (Path.join root.toList (relativePath place))
  ⟨path, String.ofList (relativePath place), Dialect.forFile? path⟩

/-- What is asked of the file at a place to be selected. -/
structure Selection.Selects (selection : Selection) (lines : List (List UInt8)) (listing : Listing)
    (root : String) (place : List String) : Prop where
  file : ∃ node, listing.at? place = some node ∧ node.isDirectory = false
  entered : ∀ above name below, below ≠ [] → place = above ++ name :: below →
    selection.Enters lines above name
  kept : selection.matching.leavesOut lines (relativePath place) = false
  untested : selection.excludeTests = true → isTestFile (place.getLastD "") = false
  included : selection.includes = [] ∨ ∃ pattern ∈ selection.includes,
    selection.matching.glob pattern.toList (relativePath place) = .ok true
  wanted : selection.Wants (Target.below root place).path

namespace Selection

variable {selection : Selection} {lines : List (List UInt8)}

theorem skips_eq_false_iff {above : List String} {name : String} :
    selection.skips (selection.matching.leavesOut lines) name
        (relativePath (above ++ [name])) = false ↔ selection.Enters lines above name := by
  constructor
  · intro entered
    simp only [skips, Bool.or_eq_false_iff, Bool.and_eq_false_imp] at entered
    obtain ⟨⟨common, untested⟩, kept⟩ := entered
    exact ⟨by simpa using common, fun tests => by simpa using untested tests, kept⟩
  · rintro ⟨common, untested, kept⟩
    simp only [skips, Bool.or_eq_false_iff, Bool.and_eq_false_imp]
    exact ⟨⟨by simpa using common, fun tests => by simpa using untested tests⟩, kept⟩

theorem included_iff {path : List Char} : selection.included path = true ↔
    selection.includes = [] ∨ ∃ pattern ∈ selection.includes,
      selection.matching.glob pattern.toList path = .ok true := by
  have answers (pattern : String) :
      ((selection.matching.glob pattern.toList path).toOption == some true) = true ↔
        selection.matching.glob pattern.toList path = .ok true := by
    rw [beq_iff_eq, toOption_eq_some]
  simp only [included, Bool.or_eq_true, List.isEmpty_iff, List.any_eq_true, answers]

theorem target?_iff {path display : String} {target : Target} :
    selection.target? path display = some target ↔
      selection.Wants path ∧ target = ⟨path, display, Dialect.forFile? path⟩ := by
  unfold target? Wants
  rw [@eq_comm _ target]
  by_cases plain : selection.extensions = []
  · cases known : Dialect.forFile? path with
    | none => simp [plain]
    | some dialect => simp [plain, Option.ite_none_right_eq_some]
  · simp [plain, Option.ite_none_right_eq_some]

theorem pick?_place_iff {root : String} {place : List String} {target : Target} :
    selection.pick? (selection.matching.leavesOut lines) root.toList (place.getLastD "")
        (relativePath place) = some target ↔
      selection.Admits (selection.matching.leavesOut lines) (place.getLastD "")
        (relativePath place) ∧ selection.Wants (Target.below root place).path ∧
          target = .below root place := by
  rw [pick?_iff, target?_iff]
  rfl

theorem ignoreLines_readable {tree : FileTree} {root : String}
    (readable : selection.useIgnoreFile = true → ∀ e, tree.readFile (String.ofList
      (Path.join root.toList ignoreFileName.toList)) = .error e → e.fault = .notFound) :
    ∃ lines, selection.ignoreLines tree root = .ok lines := by
  unfold ignoreLines
  cases used : selection.useIgnoreFile with
  | false => exact ⟨_, rfl⟩
  | true =>
    simp only [↓reduceIte]
    cases read : tree.readFile (String.ofList (Path.join root.toList ignoreFileName.toList)) with
    | ok content => exact ⟨_, rfl⟩
    | error e =>
      simp only [readable used e read, ↓reduceIte]
      exact ⟨_, rfl⟩

theorem checkIncludes_ok (valid : ∀ pattern ∈ selection.includes, ∃ answer,
    selection.matching.glob pattern.toList [] = .ok answer) :
    selection.checkIncludes = .ok () := by
  have none_malformed : selection.includes.find? (fun pattern =>
      (selection.matching.glob pattern.toList []).toOption.isNone) = none := by
    refine List.find?_eq_none.mpr fun pattern listed => ?_
    obtain ⟨answer, answered⟩ := valid pattern listed
    simp [answered, Except.toOption]
  simp only [checkIncludes, none_malformed]

end Selection

def Visitor.recording (answer : List Target → Option Fault) : Visitor (List Target) :=
  fun seen target => (seen ++ [target], answer (seen ++ [target]))

theorem offerAll_recording {answer : List Target → Option Fault} {fault : Fault}
    {seen targets : List Target} {n : Nat} (positive : 0 < n) (within : n ≤ targets.length)
    (silent : ∀ k, 0 < k → k < n → answer (seen ++ targets.take k) = none)
    (fails : answer (seen ++ targets.take n) = some fault) :
    offerAll (.recording answer) targets seen = (seen ++ targets.take n, some fault) := by
  induction targets generalizing seen n with
  | nil => exact absurd (Nat.lt_of_lt_of_le positive within) (Nat.lt_irrefl 0)
  | cons target targets ih =>
    obtain ⟨m, rfl⟩ := Nat.exists_eq_add_one.mpr positive
    rw [List.take_succ_cons, List.append_cons] at fails ⊢
    rw [offerAll, Visitor.recording]
    cases m with
    | zero =>
      rw [List.take_zero, List.append_nil] at fails ⊢
      rw [fails]
      rfl
    | succ m =>
      have first : answer (seen ++ [target]) = none := silent 1 Nat.one_pos (by omega)
      rw [first]
      refine ih (Nat.succ_pos m) (by simpa using within) (fun k low high => ?_) fails
      have later := silent (k + 1) (Nat.succ_pos k) (by omega)
      rwa [List.take_succ_cons, List.append_cons] at later

section Walk

variable {tree : FileTree} {root : String} {selection : Selection}
  {listing : Listing} {lines : List (List UInt8)}

def Selection.places (selection : Selection) (lines : List (List UInt8))
    (listing : Listing) (root : String) : List (List String) :=
  (listing.reached (selection.skips (selection.matching.leavesOut lines)) []).filter fun place =>
    (selection.pick? (selection.matching.leavesOut lines) root.toList (place.getLastD "")
      (relativePath place)).isSome

theorem Selection.mem_places (proper : listing.Proper) {place : List String} :
    place ∈ selection.places lines listing root ↔
      selection.Selects lines listing root place := by
  have reached : place ∈ listing.reached (selection.skips (selection.matching.leavesOut lines)) [] ↔
      listing.Reaches (selection.skips (selection.matching.leavesOut lines)) [] place := by
    rw [Listing.mem_reached proper]
    simp
  rw [places, List.mem_filter, reached, Option.isSome_iff_exists]
  simp only [pick?_place_iff]
  constructor
  · rintro ⟨⟨file, entered⟩, _, ⟨kept, untested, included⟩, wanted, -⟩
    exact ⟨file, fun above name below more split =>
      skips_eq_false_iff.mp (entered above name below more split), kept,
      Bool.and_eq_false_imp.mp untested, included_iff.mp included, wanted⟩
  · rintro ⟨file, entered, kept, untested, included, wanted⟩
    exact ⟨⟨file, fun above name below more split =>
      skips_eq_false_iff.mpr (entered above name below more split)⟩, _,
      ⟨kept, Bool.and_eq_false_imp.mpr untested, included_iff.mpr included⟩, wanted, rfl⟩

theorem Selection.targets_places (proper : listing.Proper) :
    listing.targets (selection.skips (selection.matching.leavesOut lines))
        (selection.pick? (selection.matching.leavesOut lines) root.toList) [] =
      (selection.places lines listing root).map (Target.below root) := by
  have named : ∀ name ∈ ([] : List String), ProperName name := nofun
  refine (Listing.targets_reached proper named).trans ?_
  rw [places]
  generalize listing.reached (selection.skips (selection.matching.leavesOut lines)) [] = places
  induction places with
  | nil => rfl
  | cons place places ih =>
    cases picked : selection.pick? (selection.matching.leavesOut lines) root.toList
        (place.getLastD "") (relativePath place) with
    | none => simp only [List.filterMap_cons, List.filter_cons, picked, ih]; rfl
    | some target =>
      have same := (pick?_place_iff.mp picked).2.2
      simp only [List.filterMap_cons, List.filter_cons, picked, ih, same]
      rfl

theorem FileTree.walk_places (tidy : tree.Tidy)
    (entered : tree.linkStat root = .ok (.directory listing))
    (opened : listing.Opened (tree.openIn root))
    (read : selection.ignoreLines tree root = .ok lines)
    (valid : selection.checkIncludes = .ok ()) {σ : Type} (visitor : Visitor σ)
    (start : σ) : tree.walk root selection visitor start =
      offerAll visitor
        ((selection.places lines listing root).map (Target.below root)) start := by
  obtain ⟨proper, -⟩ := tidy.listing entered
  simp only [walk, stat_of_linkStat entered, read, valid, entered, Listing.visitRoot_eq,
    Listing.rootTargets_opened proper opened, Selection.targets_places proper]
  exact Visited.andThen_idle _

end Walk

/-- Selecting is exact. Under a real directory, its ignore file readable or absent and the include
patterns valid, whatever the matchers answer: the targets are those of the places of files that
nothing leaves out, each of them once and in ascending order of their names. Every visitor is
offered them in this order; one that fails at the one with number `n` has seen the first `n` of
them, and the walk ends with its fault. Where the path of the root has double dots, its directories
have to be what their cleaned paths lead to. -/
theorem walk_exact (tree : FileTree) (root : String) (selection : Selection)
    (listing : Listing) (tidy : tree.Tidy)
    (entered : tree.linkStat root = .ok (.directory listing))
    (opened : Path.up ∉ Path.parts root.toList ∨ listing.Opened (tree.openIn root))
    (readable : selection.useIgnoreFile = true → ∀ e, tree.readFile (String.ofList
      (Path.join root.toList Selection.ignoreFileName.toList)) = .error e → e.fault = .notFound)
    (valid : ∀ pattern ∈ selection.includes, ∃ answer,
      selection.matching.glob pattern.toList [] = .ok answer) :
    ∃ (lines : List (List UInt8)) (places : List (List String)),
      selection.ignoreLines tree root = .ok lines ∧
      (∀ place, place ∈ places ↔ selection.Selects lines listing root place) ∧
      places.Pairwise (· < ·) ∧
      let targets := places.map (Target.below root)
      tree.select root selection = (targets, none) ∧
      (∀ (σ : Type) (visitor : Visitor σ) (start : σ),
        tree.walk root selection visitor start = offerAll visitor targets start) ∧
      (∀ (answer : List Target → Option Fault) (n : Nat) (fault : Fault),
        0 < n → n ≤ targets.length → (∀ k, 0 < k → k < n → answer (targets.take k) = none) →
        answer (targets.take n) = some fault →
        tree.walk root selection (.recording answer) [] =
          (targets.take n, some fault)) := by
  obtain ⟨lines, read⟩ := Selection.ignoreLines_readable readable
  obtain ⟨proper, ordered⟩ := tidy.listing entered
  have inside : listing.Opened (tree.openIn root) :=
    opened.elim (fun level => FileTree.openIn_level tidy.proper level entered) id
  have checked := Selection.checkIncludes_ok valid
  have walked {σ : Type} (visitor : Visitor σ) (start : σ) :=
    FileTree.walk_places tidy entered inside read checked visitor start
  have selected : tree.select root selection =
      ((selection.places lines listing root).map (Target.below root), none) := by
    rw [FileTree.select, walked, offerAll_collect]
    simp
  refine ⟨lines, selection.places lines listing root, read,
    fun place => Selection.mem_places proper, (Listing.reached_ascending proper ordered).filter _,
    selected, fun σ visitor start => walked visitor start, ?_⟩
  intro answer n fault positive within silent fails
  rw [walked]
  exact offerAll_recording positive within silent fails

def FileTree.twinned : FileTree where
  top := .link "l" "p/vendor" (.directory "p" (.directory "sub" (.file "c.lua" .empty .nil)
    (.directory "vendor" .nil .nil)) (.directory "sub" (.file "b.lua" .empty .nil) .nil))
  origin := []

theorem FileTree.tidy_twinned : twinned.Tidy := by
  have named : ProperName "l" ∧ ProperName "p" ∧ ProperName "sub" ∧ ProperName "vendor" ∧
      ProperName "b.lua" ∧ ProperName "c.lua" := by decide +kernel
  refine ⟨⟨?_, _, rfl⟩, ?_⟩
  · simp [twinned, Listing.Proper, Listing.find?, named]
  · have empty : ∀ entries, Node.directory .nil = .directory entries → entries.Ordered := by
      rintro _ ⟨⟩
      trivial
    have single : ∀ entries, Node.file .empty = .directory entries → entries.Ordered := by
      rintro _ ⟨⟩
    have start : Listing.nil.Ordered := trivial
    have linked : (Listing.nil.putAt ["l"] (.link "p/vendor")).Ordered := by
      refine start.putAt ["l"] ?_
      rintro _ ⟨⟩
    have above := ((linked.putAt ["p"] empty).putAt ["p", "vendor"] empty).putAt ["p", "sub"] empty
    have beside := (above.putAt ["p", "sub", "c.lua"] single).putAt ["sub"] empty
    refine Eq.mp (congrArg Listing.Ordered ?_) (beside.putAt ["sub", "b.lua"] single)
    cbv

def Listing.twin : Listing :=
  .directory "sub" (.file "c.lua" .empty .nil) (.directory "vendor" .nil .nil)

theorem FileTree.resolve_twinned :
    twinned.resolve false "p" = .ok (.found ["p"] (.directory .twin)) ∧
    twinned.resolve false "l/.." = .ok (.found ["p"] (.directory .twin)) ∧
    twinned.resolve true "p/.gitignore" = .ok (.free ["p"] ".gitignore" false) := by
  have parts : names "p" = ["p"] ∧ names "l/.." = ["l", ".."] ∧ names "p/vendor" = ["p", "vendor"] ∧
      names "p/.gitignore" = ["p", ".gitignore"] := by decide +kernel
  have relative : isRooted "p" = false ∧ isRooted "l/.." = false ∧ isRooted "p/vendor" = false ∧
      isRooted "p/.gitignore" = false := by decide +kernel
  have short : ∀ name ∈ ["l", "p", "sub", "vendor", ".gitignore"],
      ¬ maxNameBytes < name.utf8ByteSize := by decide +kernel
  simp only [List.forall_mem_cons] at short
  refine ⟨?_, ?_, ?_⟩ <;>
    simp [resolve, twinned, Listing.twin, parts, relative, resolveFrom, Listing.at?, Listing.find?,
      short, maxLinks]

theorem FileTree.linkStat_twinned : twinned.linkStat "p" = .ok (.directory .twin) ∧
    twinned.linkStat "l/.." = .ok (.directory .twin) :=
  ⟨node_ok_iff.mpr ⟨_, resolve_twinned.1⟩, node_ok_iff.mpr ⟨_, resolve_twinned.2.1⟩⟩

theorem FileTree.select_twinned :
    twinned.select "l/.." {} = ([⟨"sub/b.lua", "sub/b.lua", some .lua⟩], none) := by
  have stat := stat_of_linkStat linkStat_twinned.2
  have opened : twinned.openIn "l/.." "sub" = .ok (.file "b.lua" .empty .nil) := by cbv
  simp only [select, walk, stat, linkStat_twinned.2, Listing.visitRoot, opened, Listing.twin]
  cbv

theorem walk_exact_twinned :
    let selection : Selection :=
      { includes := ["sub/*.lua"], excludeTests := true, useIgnoreFile := true }
    FileTree.twinned.linkStat "p" = .ok (.directory .twin) ∧
      ∃ (lines : List (List UInt8)) (places : List (List String)),
        selection.ignoreLines .twinned "p" = .ok lines ∧
        (∀ place, place ∈ places ↔ selection.Selects lines .twin "p" place) ∧
        places.Pairwise (· < ·) ∧
        FileTree.twinned.select "p" selection = (places.map (Target.below "p"), none) := by
  intro selection
  have missing : FileTree.twinned.readFile "p/.gitignore" =
      .error ⟨"open", "p/.gitignore", .notFound⟩ := by
    simp only [FileTree.readFile, FileTree.node, FileTree.resolve_twinned.2.2]
  have ignored : String.ofList (Path.join "p".toList Selection.ignoreFileName.toList) =
      "p/.gitignore" := by decide +kernel
  have readable : selection.useIgnoreFile = true → ∀ e, FileTree.twinned.readFile (String.ofList
      (Path.join "p".toList Selection.ignoreFileName.toList)) = .error e → e.fault = .notFound := by
    rintro - e failed
    rw [ignored, missing] at failed
    cases failed
    rfl
  have matched : Glob.matches "sub/*.lua".toList [] = .ok false := by cbv
  have valid : ∀ pattern ∈ selection.includes, ∃ answer,
      selection.matching.glob pattern.toList [] = .ok answer := by
    intro pattern listed
    obtain rfl := List.mem_singleton.mp listed
    exact ⟨false, matched⟩
  obtain ⟨lines, places, read, exact', ascending, selected, -⟩ :=
    walk_exact .twinned "p" selection .twin FileTree.tidy_twinned
      FileTree.linkStat_twinned.1 (.inl (by decide +kernel)) readable valid
  exact ⟨FileTree.linkStat_twinned.1, lines, places, read, exact', ascending, selected⟩

/-- Without the condition on double dots a walk does not select exactly: behind a link they lead to
one directory, and the cleaned path to another. -/
theorem select_beside_root : ¬ ∀ (tree : FileTree) (root : String) (listing : Listing),
    tree.Tidy → tree.linkStat root = .ok (.directory listing) → ∃ places : List (List String),
      (∀ place, place ∈ places ↔ Selection.Selects {} [] listing root place) ∧
        tree.select root {} = (places.map (Target.below root), none) := by
  intro selects
  obtain ⟨places, exact', selected⟩ :=
    selects .twinned "l/.." .twin FileTree.tidy_twinned FileTree.linkStat_twinned.2
  have wanted : Selection.Wants {} (Target.below "l/.." ["sub", "c.lua"]).path :=
    .inr ⟨rfl, .lua, by decide +kernel, .inl rfl⟩
  have inside : ["sub", "c.lua"] ∈ places := by
    refine (exact' _).mpr ⟨⟨.file .empty, rfl, rfl⟩, ?_, rfl, nofun, .inl rfl, wanted⟩
    intro above name below more split
    have short : above.length + 2 ≤ 2 := length_inside more split
    obtain rfl := List.length_eq_zero_iff.mp (Nat.le_zero.mp (Nat.le_of_add_le_add_right short))
    obtain ⟨rfl, -⟩ := List.cons.inj split
    exact ⟨by decide +kernel, nofun, rfl⟩
  have listed : Target.below "l/.." ["sub", "c.lua"] ∈ places.map (Target.below "l/..") :=
    List.mem_map_of_mem inside
  have only := (Prod.mk.inj (selected.symm.trans FileTree.select_twinned)).1
  rw [only, List.mem_singleton] at listed
  exact absurd (congrArg Target.display listed) (by decide +kernel)

end LineSieve
