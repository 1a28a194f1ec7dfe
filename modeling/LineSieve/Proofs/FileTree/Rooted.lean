import LineSieve.Proofs.FileTree.Growth
import LineSieve.Proofs.Path
import LineSieve.Run.Service

/- Paths and their rooted forms. A path may be cleaned and taken from the top instead of the
   directory that paths start from: what is joined to the two forms leads to the same place. That
   the paths themselves do so is another matter, if links stand before double dots. -/
namespace LineSieve

structure ProperName (name : String) : Prop where
  named : Path.Named name.toList
  short : name.utf8ByteSize ≤ FileTree.maxNameBytes

instance (name : String) : Decidable (ProperName name) :=
  decidable_of_iff (Path.Named name.toList ∧ name.utf8ByteSize ≤ FileTree.maxNameBytes)
    ⟨fun ⟨named, short⟩ => ⟨named, short⟩, fun proper => ⟨proper.named, proper.short⟩⟩

theorem ProperName.plain {name : String} (proper : ProperName name) : PlainName name := by
  refine ⟨?_, ?_, Nat.not_lt.mpr proper.short⟩
  · unfold Idle
    rw [Bool.or_eq_true, decide_eq_true_eq, decide_eq_true_eq]
    rintro (rfl | rfl)
    · exact proper.named.proper rfl
    · exact proper.named.here rfl
  · rintro rfl
    exact proper.named.up rfl

structure FileTree.Housed (tree : FileTree) : Prop where
  names : ∀ name ∈ tree.origin, ProperName name
  directory : ∃ entries, tree.top.at? tree.origin = some (.directory entries)

theorem FileTree.Housed.grown {tree now : FileTree} (housed : tree.Housed) (grows : tree.Grows now) :
    now.Housed := by
  obtain ⟨names, entries, held⟩ := housed
  refine ⟨grows.1 ▸ names, ?_⟩
  rw [grows.1]
  exact grows.2.directory held

def Listing.Proper : Listing → Prop
  | .nil => True
  | .file name _ rest => ProperName name ∧ rest.find? name = none ∧ rest.Proper
  | .link name _ rest => ProperName name ∧ rest.find? name = none ∧ rest.Proper
  | .directory name entries rest =>
    ProperName name ∧ rest.find? name = none ∧ rest.Proper ∧ entries.Proper

namespace Listing

theorem proper_cons {name : String} {node : Node} {rest : Listing} :
    (node.cons name rest).Proper ↔ ProperName name ∧ rest.find? name = none ∧ rest.Proper ∧
      ∀ entries, node = .directory entries → entries.Proper := by
  cases node <;> simp [Node.cons, Proper]

theorem Proper.find? {listing : Listing} (proper : listing.Proper) {name : String} {node : Node}
    (found : listing.find? name = some node) :
    ProperName name ∧ ∀ entries, node = .directory entries → entries.Proper := by
  induction listing using entries_induction with
  | nil => cases found
  | cons n first rest inside ih =>
    obtain ⟨named, -, later, deeper⟩ := proper_cons.mp proper
    rw [find?_cons] at found
    split at found
    · next same =>
      cases found
      exact ⟨same ▸ named, deeper⟩
    · exact ih later found

theorem Proper.at? {top : Listing} (proper : top.Proper) {place : List String} {node : Node}
    (held : top.at? place = some node) : (∀ name ∈ place, ProperName name) ∧
      ∀ entries, node = .directory entries → entries.Proper := by
  induction held using at?_induction with
  | root held same =>
    subst same
    refine ⟨nofun, ?_⟩
    rintro entries ⟨⟩
    exact proper
  | entry found =>
    obtain ⟨named, inside⟩ := proper.find? found
    exact ⟨List.forall_mem_singleton.mpr named, inside⟩
  | @deeper top name entries rest found below _ ih =>
    obtain ⟨named, inside⟩ := proper.find? found
    obtain ⟨names, deeper⟩ := ih (inside entries rfl)
    exact ⟨List.forall_mem_cons.mpr ⟨named, names⟩, deeper⟩

theorem at?_take {top entries : Listing} {here : List String}
    (held : top.at? here = some (.directory entries)) (length : Nat) :
    ∃ entries, top.at? (here.take length) = some (.directory entries) := by
  by_cases short : here.length ≤ length
  · rw [List.take_of_length_le short]
    exact ⟨entries, held⟩
  · rw [← List.take_append_drop length here] at held
    refine at?_above (fun none => ?_) held
    exact short (List.drop_eq_nil_iff.mp none)

end Listing

namespace FileTree

/-- A tree as a file system holds it: names are proper, and paths start from a directory. -/
structure Proper (tree : FileTree) : Prop where
  top : tree.top.Proper
  origin : ∃ entries, tree.top.at? tree.origin = some (.directory entries)

theorem Proper.housed {tree : FileTree} (proper : tree.Proper) : tree.Housed :=
  have ⟨_, held⟩ := proper.origin
  ⟨(proper.top.at? held).1, proper.origin⟩

theorem Proper.resolve {tree : FileTree} (proper : tree.Proper) {follow : Bool} {path : String}
    {place : List String} {entries : Listing}
    (led : tree.resolve follow path = .ok (.found place (.directory entries))) : entries.Proper :=
  (proper.top.at? (resolve_found led)).2 entries rfl

section Steps

variable {top entries : Listing} {follow : Bool} {links : Nat} {here names rest : List String}
  {name : String} {result : Except FileFault Place}

theorem resolveFrom_idle (held : top.at? here = some (.directory entries)) (idle : Idle name) :
    resolveFrom top follow links here (name :: rest) = resolveFrom top follow links here rest :=
  (Routed.idle held idle (routed top follow links here rest)).eq

theorem Routed.climb (held : top.at? here = some (.directory entries)) (height : Nat)
    (later : Routed top follow links (here.take (here.length - height)) rest result) :
    Routed top follow links here (List.replicate height ".." ++ rest) result := by
  induction height generalizing here entries with
  | zero => simpa using later
  | succ height ih =>
    obtain ⟨others, held'⟩ := Listing.at?_take held (here.length - 1)
    rw [← List.dropLast_eq_take] at held'
    refine .rise held (ih held' ?_)
    rw [List.dropLast_eq_take, List.take_take, List.length_take]
    convert later using 2
    omega

theorem Routed.dive (proper : ∀ name ∈ names, ProperName name)
    (held : top.at? (here ++ names) = some (.directory entries))
    (later : Routed top follow links (here ++ names) rest result) :
    Routed top follow links here (names ++ rest) result := by
  induction names generalizing here with
  | nil => simpa using later
  | cons name names ih =>
    obtain ⟨above, found⟩ := Listing.at?_above (List.cons_ne_nil name names) held
    rw [List.append_cons] at held later
    obtain ⟨inner, entered⟩ : ∃ inner, top.at? (here ++ [name]) = some (.directory inner) := by
      by_cases last : names = []
      · rw [last, List.append_nil] at held
        exact ⟨entries, held⟩
      · exact Listing.at?_above last held
    obtain ⟨here', below⟩ := List.forall_mem_cons.mp proper
    have entry := (Listing.at?_concat found name).symm.trans entered
    exact .descend found here'.plain entry nofun (ih below held later)

theorem resolveFrom_shown (held : top.at? here = some (.directory entries))
    {components : List (List Char)} {filler : List Char} (idle : filler = [] ∨ filler = ['.']) :
    resolveFrom top follow links here
        ((if components = [] then [filler] else components).map String.ofList) =
      resolveFrom top follow links here (components.map String.ofList) := by
  split
  · rename_i none
    rw [none, List.map_singleton, resolveFrom_idle held (by rcases idle with rfl | rfl <;> decide)]
    rfl
  · rfl

end Steps

theorem rootedPath_components (names : List String) :
    (Service.rootedPath names).toList = '/' :: Text.join ['/'] (names.map String.toList) := by
  have joined (components : List (List Char)) :
      ['/'].intercalate components = Text.join ['/'] components := by
    induction components with
    | nil => rfl
    | cons first rest ih =>
      cases rest with
      | nil => simp [Text.join]
      | cons second rest => rw [Text.join, ← ih, List.intercalate_cons_cons]
  rw [Service.rootedPath, String.toList_append, String.toList_intercalate]
  exact congrArg ('/' :: ·) (joined _)

section Clean

variable {tree : FileTree} {path : List Char} (follow : Bool)

theorem resolve_clean_rooted (rooted : Path.isRooted path = true) :
    tree.resolve follow (String.ofList (Path.clean path)) =
      resolveFrom tree.top follow maxLinks [] ((Path.kept path).reverse.map String.ofList) := by
  have proper : String.ofList (Path.clean path) ≠ "" := by simpa using Path.clean_proper path
  rw [resolve, if_neg proper, isRooted, names, String.toList_ofList, Path.isRooted_clean rooted,
    if_pos rfl, Path.parts_clean_rooted rooted, List.map_cons, resolveFrom_idle rfl (by decide)]
  simp only [← @List.reverse_eq_nil_iff _ (Path.kept path)]
  exact resolveFrom_shown rfl (.inl rfl)

theorem resolve_clean_relative (housed : tree.Housed) (relative : Path.isRooted path = false) :
    tree.resolve follow (String.ofList (Path.clean path)) =
      resolveFrom tree.top follow maxLinks tree.origin
        ((Path.kept path).reverse.map String.ofList) := by
  obtain ⟨-, entries, held⟩ := housed
  have proper : String.ofList (Path.clean path) ≠ "" := by simpa using Path.clean_proper path
  rw [resolve, if_neg proper, isRooted, names, String.toList_ofList,
    Path.isRooted_clean_relative relative, if_neg Bool.false_ne_true,
    Path.parts_clean_relative relative]
  simp only [← @List.reverse_eq_nil_iff _ (Path.kept path)]
  exact resolveFrom_shown held (.inr rfl)

theorem resolve_lifts (housed : tree.Housed) (relative : Path.isRooted path = false) :
    tree.resolve follow
        (String.ofList (Path.clean ((Service.rootedPath tree.origin).toList ++ '/' :: path))) =
      tree.resolve follow (String.ofList (Path.clean path)) := by
  have proper := housed.names
  obtain ⟨entries, held⟩ := housed.directory
  have origin : ∀ part ∈ tree.origin.map String.toList, Path.Named part := by
    intro part listed
    obtain ⟨name, among, rfl⟩ := List.mem_map.mp listed
    exact (proper name among).named
  obtain ⟨names, height, -, low, high⟩ := Path.kept_lifts _ origin relative
  obtain ⟨above, held'⟩ := Listing.at?_take held (tree.origin.length - height)
  have back : (tree.origin.map String.toList).map String.ofList = tree.origin := by simp
  rw [rootedPath_components, resolve_clean_rooted follow rfl, high,
    resolve_clean_relative follow housed relative, low, List.reverse_reverse, List.reverse_reverse,
    List.map_append, List.map_append, List.map_take, List.map_replicate, back, List.length_map]
  calc
    _ = resolveFrom tree.top follow maxLinks (tree.origin.take (tree.origin.length - height))
          (names.map String.ofList) :=
      (Routed.dive (fun name listed => proper name (List.take_subset _ _ listed)) held'
        (routed _ _ _ _ _)).eq
    _ = _ := (Routed.climb held height (routed _ _ _ _ _)).eq.symm

theorem resolve_absolute (housed : tree.Housed) (proper : path ≠ []) {rest : List Char}
    (more : rest ≠ []) :
    tree.resolve follow (String.ofList
        (Path.join (Path.absolute (Service.rootedPath tree.origin).toList path) rest)) =
      tree.resolve follow (String.ofList (Path.join path rest)) := by
  unfold Path.absolute
  split
  · rename_i rooted
    rw [Path.clean_join rooted more]
  · rename_i relative
    rw [Bool.not_eq_true] at relative
    have top : (Service.rootedPath tree.origin).toList ≠ [] := by simp [rootedPath_components]
    have rooted : Path.isRooted ((Service.rootedPath tree.origin).toList ++ '/' :: path) = true := by
      rw [rootedPath_components]
      rfl
    rw [Path.join_proper top proper, Path.clean_join rooted more,
      Path.join_proper (List.append_ne_nil_of_left_ne_nil top _) more, List.append_assoc,
      Path.join_proper proper more]
    exact resolve_lifts follow housed ((Path.isRooted_append proper _).trans relative)

end Clean

end FileTree

end LineSieve
