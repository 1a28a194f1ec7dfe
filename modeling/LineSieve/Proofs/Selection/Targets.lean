import LineSieve.Selection.Walk

/- The targets of a walk as a list. Which files a walk offers does not depend on its visitor: the
   visitor sees the targets one after another until it ends the walk. A target is determined by the
   path it is shown with. -/
namespace LineSieve

def Visited.andThen {σ : Type} (visited : Visited σ) (next : σ → Visited σ) : Visited σ :=
  match visited with
  | (gathered, none) => next gathered
  | ended => ended

theorem Visited.andThen_assoc {σ : Type} (visited : Visited σ) (next last : σ → Visited σ) :
    (visited.andThen next).andThen last =
      visited.andThen fun gathered => (next gathered).andThen last := by
  obtain ⟨gathered, _ | fault⟩ := visited <;> rfl

theorem Visited.andThen_idle {σ : Type} (visited : Visited σ) :
    (visited.andThen fun gathered => (gathered, none)) = visited := by
  obtain ⟨gathered, _ | fault⟩ := visited <;> rfl

def offerAll {σ : Type} (visitor : Visitor σ) : List Target → σ → Visited σ
  | [], gathered => (gathered, none)
  | target :: rest, gathered => (visitor gathered target).andThen (offerAll visitor rest)

theorem offerAll_append {σ : Type} (visitor : Visitor σ) (one two : List Target) (gathered : σ) :
    offerAll visitor (one ++ two) gathered =
      (offerAll visitor one gathered).andThen (offerAll visitor two) := by
  induction one generalizing gathered with
  | nil => rfl
  | cons target one ih =>
    rw [List.cons_append, offerAll, offerAll, Visited.andThen_assoc]
    exact congrArg _ (funext ih)

theorem offerAll_singleton {σ : Type} (visitor : Visitor σ) (target : Target) (gathered : σ) :
    offerAll visitor [target] gathered = visitor gathered target :=
  Visited.andThen_idle _

theorem offerAll_collect (targets gathered : List Target) :
    offerAll (fun gathered target => (target :: gathered, none)) targets gathered =
      (targets.reverse ++ gathered, none) := by
  induction targets generalizing gathered with
  | nil => rfl
  | cons target targets ih => simp [offerAll, Visited.andThen, ih]

def Listing.targets (skips : String → List Char → Bool)
    (pick? : String → List Char → Option Target) (above : List Char) : Listing → List Target
  | .nil => []
  | .file name _ rest => (pick? name (childPath above name)).toList ++ rest.targets skips pick? above
  | .link name _ rest => (pick? name (childPath above name)).toList ++ rest.targets skips pick? above
  | .directory name entries rest =>
    (if skips name (childPath above name) then []
      else entries.targets skips pick? (childPath above name)) ++ rest.targets skips pick? above

section Visit

variable {σ : Type} {skips : String → List Char → Bool} {pick? : String → List Char → Option Target}
  {visitor : Visitor σ}

theorem offer_eq (above : List Char) (name : String) (gathered : σ) :
    Listing.visit.offer pick? visitor above name gathered =
      offerAll visitor (pick? name (childPath above name)).toList gathered := by
  unfold Listing.visit.offer
  cases pick? name (childPath above name) with
  | none => rfl
  | some target => exact (offerAll_singleton visitor target gathered).symm

theorem Listing.visit_eq (listing : Listing) (above : List Char) (gathered : σ) :
    listing.visit skips pick? visitor above gathered =
      offerAll visitor (listing.targets skips pick? above) gathered := by
  induction listing generalizing above gathered with
  | nil => rfl
  | file name _ rest ih | link name _ rest ih =>
    rw [targets, offerAll_append, ← offer_eq, ← funext (ih above)]
    rfl
  | directory name entries rest inside ih =>
    rw [targets, offerAll_append, ← funext (ih above)]
    cases skipped : skips name (childPath above name) with
    | true =>
      simp only [visit, skipped, ↓reduceIte]
      rfl
    | false =>
      simp only [visit, skipped, Bool.false_eq_true, ↓reduceIte, ← inside]
      rfl

/-- The targets under a root, up to a directory in it that cannot be opened. -/
def Listing.rootTargets (opens : String → Except Fault Listing)
    (skips : String → List Char → Bool) (pick? : String → List Char → Option Target) :
    Listing → Visited (List Target)
  | .nil => ([], none)
  | .file name _ rest =>
    let (later, fault) := rest.rootTargets opens skips pick?
    ((pick? name (childPath [] name)).toList ++ later, fault)
  | .link name _ rest =>
    let (later, fault) := rest.rootTargets opens skips pick?
    ((pick? name (childPath [] name)).toList ++ later, fault)
  | .directory name _ rest =>
    let (later, fault) := rest.rootTargets opens skips pick?
    if skips name (childPath [] name) then (later, fault)
    else
      match opens name with
      | .ok entries => (entries.targets skips pick? (childPath [] name) ++ later, fault)
      | .error fault => ([], some fault)

def Visited.offered (targets : Visited (List Target)) (visitor : Visitor σ) (gathered : σ) :
    Visited σ :=
  Visited.andThen (offerAll visitor targets.1 gathered) fun gathered => (gathered, targets.2)

theorem offered_append (front later : List Target) (fault : Option Fault) (gathered : σ) :
    Visited.offered (front ++ later, fault) visitor gathered =
      (offerAll visitor front gathered).andThen (Visited.offered (later, fault) visitor) := by
  rw [Visited.offered, offerAll_append, Visited.andThen_assoc]
  rfl

theorem Listing.visitRoot_eq {opens : String → Except Fault Listing} (listing : Listing)
    (gathered : σ) :
    listing.visitRoot opens skips pick? visitor gathered =
      Visited.offered (listing.rootTargets opens skips pick?) visitor gathered := by
  induction listing generalizing gathered with
  | nil => rfl
  | file name _ rest ih | link name _ rest ih =>
    rw [rootTargets, offered_append, ← offer_eq, ← funext ih]
    rfl
  | directory name entries rest _ ih =>
    cases skipped : skips name (childPath [] name) with
    | true =>
      simp only [visitRoot, rootTargets, skipped, ↓reduceIte, ih]
    | false =>
      cases opened : opens name with
      | error fault =>
        simp only [visitRoot, rootTargets, skipped, opened, Bool.false_eq_true, ↓reduceIte]
        rfl
      | ok inner =>
        simp only [visitRoot, rootTargets, skipped, opened, Bool.false_eq_true, ↓reduceIte,
          offered_append, visit_eq, ← funext ih]
        rfl

end Visit

namespace FileTree

theorem walk_eq {σ : Type} (tree : FileTree) (root : String) (selection : Selection)
    (visitor : Visitor σ) (start : σ) :
    tree.walk root selection visitor start =
      Visited.offered (tree.select root selection) visitor start := by
  unfold select walk
  cases tree.stat root with
  | error e => rfl
  | ok node =>
    cases node with
    | directory listing =>
      cases selection.ignoreLines tree root with
      | error fault => rfl
      | ok lines =>
        cases selection.checkIncludes with
        | error fault => rfl
        | ok _ =>
          cases tree.linkStat root with
          | error e => rfl
          | ok node =>
            cases node with
            | directory entries =>
              simp only [Listing.visitRoot_eq, Visited.offered, offerAll_collect, List.append_nil,
                Visited.andThen, List.reverse_reverse]
            | file | link => rfl
    | file | link =>
      cases found : selection.target? root (String.ofList (Path.base root.toList)) with
      | none => simp only [found]; rfl
      | some target =>
        simp only [found, List.reverse_singleton, Visited.offered, offerAll_singleton,
          Visited.andThen_idle]

end FileTree

theorem Selection.target?_eq {selection : Selection} {path display : String} {target : Target}
    (found : selection.target? path display = some target) :
    target = ⟨path, display, Dialect.forFile? path⟩ := by
  simp only [target?] at found
  split at found
  · split at found
    · cases found
    · split at found
      · exact (Option.some.inj found).symm
      · cases found
  · split at found
    · exact (Option.some.inj found).symm
    · cases found

theorem Selection.pick?_eq {selection : Selection} {ignored : List Char → Bool}
    {root path : List Char} {name : String} {target : Target}
    (picked : selection.pick? ignored root name path = some target) :
    selection.target? (String.ofList (Path.join root path)) (String.ofList path) = some target := by
  unfold pick? at picked
  split at picked
  · cases picked
  · split at picked
    · cases picked
    · split at picked
      · cases picked
      · exact picked

theorem Listing.mem_targets {skips : String → List Char → Bool}
    {pick? : String → List Char → Option Target} {listing : Listing} {above : List Char}
    {target : Target} (listed : target ∈ listing.targets skips pick? above) :
    ∃ name path, pick? name path = some target := by
  induction listing generalizing above with
  | nil => cases listed
  | file name _ rest ih | link name _ rest ih =>
    rcases List.mem_append.mp listed with here | later
    · exact ⟨name, _, Option.mem_toList.mp here⟩
    · exact ih later
  | directory name entries rest inside ih =>
    rcases List.mem_append.mp listed with here | later
    · split at here
      · cases here
      · exact inside here
    · exact ih later

theorem Listing.mem_rootTargets {opens : String → Except Fault Listing}
    {skips : String → List Char → Bool} {pick? : String → List Char → Option Target}
    {listing : Listing} {target : Target}
    (listed : target ∈ (listing.rootTargets opens skips pick?).1) :
    ∃ name path, pick? name path = some target := by
  induction listing with
  | nil => cases listed
  | file name _ rest ih | link name _ rest ih =>
    rcases List.mem_append.mp listed with here | later
    · exact ⟨name, _, Option.mem_toList.mp here⟩
    · exact ih later
  | directory name entries rest _ ih =>
    simp only [rootTargets] at listed
    split at listed
    · exact ih listed
    · split at listed
      · rcases List.mem_append.mp listed with here | later
        · exact mem_targets here
        · exact ih later
      · cases listed

namespace FileTree

/-- The path of a target from the path it is shown with: the root itself if it is no directory. -/
def located (tree : FileTree) (root display : String) : String :=
  match tree.stat root with
  | .ok (.directory _) => String.ofList (Path.join root.toList display.toList)
  | _ => root

/-- What is selected under a directory, the lines to ignore and the listing of it being known. -/
structure Walked (tree : FileTree) (root : String) (selection : Selection)
    (lines : List (List UInt8)) (entries : Listing) : Prop where
  stat : ∃ listing, tree.stat root = .ok (.directory listing)
  lines : selection.ignoreLines tree root = .ok lines
  includes : selection.checkIncludes = .ok ()
  entered : tree.linkStat root = .ok (.directory entries)

theorem select_walked {tree : FileTree} {root : String} {selection : Selection}
    {lines : List (List UInt8)} {entries : Listing}
    (walked : tree.Walked root selection lines entries) :
    tree.select root selection =
      entries.rootTargets (tree.openIn root) (selection.skips (selection.matching.leavesOut lines))
        (selection.pick? (selection.matching.leavesOut lines) root.toList) := by
  obtain ⟨⟨listing, stat⟩, read, includes, entered⟩ := walked
  simp only [select, walk, stat, read, includes, entered, Listing.visitRoot_eq, Visited.offered,
    offerAll_collect, List.append_nil, Visited.andThen, List.reverse_reverse]

theorem select_single {tree : FileTree} {root : String} {selection : Selection} {node : Node}
    (stat : tree.stat root = .ok node) (single : node.isDirectory = false) {target : Target}
    (found : selection.target? root (String.ofList (Path.base root.toList)) = some target) :
    tree.select root selection = ([target], none) := by
  cases node with
  | directory entries => cases single
  | file | link =>
    simp only [select, walk, stat, found]
    rfl

theorem select_cases {tree : FileTree} {root : String} {selection : Selection} {target : Target}
    (listed : target ∈ (tree.select root selection).1) :
    (∃ lines entries, tree.Walked root selection lines entries) ∨
      (∃ node, tree.stat root = .ok node ∧ node.isDirectory = false) ∧
        selection.target? root (String.ofList (Path.base root.toList)) = some target := by
  unfold select walk at listed
  split at listed
  rename_i reversed fault walked
  split at walked
  · cases walked
    cases listed
  · rename_i listing stat
    split at walked
    · cases walked
      cases listed
    · cases walked
      cases listed
    · rename_i lines read includes
      split at walked
      · rename_i entries entered
        exact .inl ⟨lines, entries, ⟨⟨listing, stat⟩, read, includes, entered⟩⟩
      · cases walked
        cases listed
  · rename_i node other stat
    have single : node.isDirectory = false := by
      cases node with
      | directory entries => exact absurd rfl (other entries)
      | file | link => rfl
    simp only at walked
    split at walked
    · rename_i found
      cases walked
      rw [List.reverse_singleton, List.mem_singleton] at listed
      exact .inr ⟨⟨node, stat, single⟩, listed ▸ found⟩
    · cases walked
      cases listed

theorem select_located {tree : FileTree} {root : String} {selection : Selection} {target : Target}
    (listed : target ∈ (tree.select root selection).1) :
    target = ⟨tree.located root target.display, target.display,
      Dialect.forFile? (tree.located root target.display)⟩ := by
  unfold located
  rcases select_cases listed with ⟨lines, entries, walked⟩ | ⟨⟨node, stat, single⟩, found⟩
  · obtain ⟨listing, stat⟩ := walked.stat
    rw [select_walked walked] at listed
    obtain ⟨name, path, picked⟩ := Listing.mem_rootTargets listed
    have found := Selection.target?_eq (Selection.pick?_eq picked)
    rw [stat, found, String.toList_ofList]
  · have same := Selection.target?_eq found
    rw [stat]
    cases node with
    | directory entries => cases single
    | file content => rw [same]
    | link link => rw [same]

theorem select_display {tree : FileTree} {root : String} {selection : Selection} {one two : Target}
    (listed : one ∈ (tree.select root selection).1) (listed' : two ∈ (tree.select root selection).1)
    (same : one.display = two.display) : one = two := by
  rw [select_located listed, select_located listed', same]

end FileTree

end LineSieve
