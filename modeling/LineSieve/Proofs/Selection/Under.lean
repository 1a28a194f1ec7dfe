import LineSieve.Proofs.FileTree.Ordered
import LineSieve.Proofs.Selection.Coverage

/- The tree under a root. A walk lists the root and opens each directory of it by the path of the
   root with the name behind it. Where the path of the root has no double dots, it comes to the
   directory that is there. -/
namespace LineSieve

/-- Each directory of a listing is what its name opens. -/
def Listing.Opened (opens : String → Except Fault Listing) (listing : Listing) : Prop :=
  ∀ name inner, listing.find? name = some (.directory inner) → opens name = .ok inner

theorem Listing.rootTargets_opened {opens : String → Except Fault Listing} {listing : Listing}
    {skips : String → List Char → Bool} {pick? : String → List Char → Option Target}
    (proper : listing.Proper) (opened : listing.Opened opens) :
    listing.rootTargets opens skips pick? = (listing.targets skips pick? [], none) := by
  induction listing using entries_induction with
  | nil => rfl
  | cons name node rest _ ih =>
    obtain ⟨-, fresh, later, -⟩ := proper_cons.mp proper
    have behind := ih later fun other inner found => by
      apply opened
      rw [find?_cons, if_neg, found]
      rintro rfl
      cases fresh.symm.trans found
    rw [rootTargets_cons, targets_cons, behind]
    rcases node.single_or_directory with single | ⟨inner, rfl⟩
    · rw [Node.rootTargets_single single, Node.targets_single single]
    · rw [Node.rootTargets, Node.targets, opened name inner (by rw [find?_cons, if_pos rfl])]
      cases skips name (childPath [] name) <;> rfl

namespace FileTree

/-- A tree whose names are in order. -/
structure Tidy (tree : FileTree) : Prop where
  proper : tree.Proper
  ordered : tree.top.Ordered

variable {tree : FileTree} {root name : String} {top entries inner : Listing} {links : Nat}
  {here todo place : List String}

theorem Tidy.listing (tidy : tree.Tidy) (entered : tree.linkStat root = .ok (.directory entries)) :
    entries.Proper ∧ entries.Ordered := by
  obtain ⟨place, led⟩ := node_ok_iff.mp entered
  exact ⟨tidy.proper.resolve led, tidy.ordered.at? (resolve_found led)⟩

theorem stat_of_linkStat (entered : tree.linkStat root = .ok (.directory entries)) :
    tree.stat root = .ok (.directory entries) := by
  obtain ⟨place, led⟩ := node_ok_iff.mp entered
  refine node_ok_iff.mpr ⟨place, ?_⟩
  rw [resolve_unlinked (by simp [led]), led]

theorem Routed.enter (named : ProperName name)
    (routed : Routed top true links here todo (.ok (.found place (.directory entries))))
    (found : entries.find? name = some (.directory inner)) :
    Routed top true links here (todo ++ [name])
      (.ok (.found (place ++ [name]) (.directory inner))) := by
  generalize ended : Except.ok (Place.found place (.directory entries)) = result at routed
  induction routed with
  | lost | blocked | long | vacant | absent | kept | hollow | exhausted => cases ended
  | arrived held =>
    cases ended
    have inside := (Listing.at?_concat held name).trans found
    exact .descend held named.plain found nofun (.arrived inside)
  | idle held idle later ih => exact .idle held idle (ih ended)
  | rise held later ih => exact .rise held (ih ended)
  | turn held plain link followed proper later ih =>
    have onward := ih ended
    rw [List.append_assoc] at onward
    exact .turn held plain link (.inr rfl) proper onward
  | descend held plain entry unlinked later ih =>
    exact .descend held plain entry unlinked (ih ended)

/-- In a real directory whose path has no double dots, each directory is opened by its path. -/
theorem openIn_level (proper : tree.Proper) (level : Path.up ∉ Path.parts root.toList)
    (entered : tree.linkStat root = .ok (.directory entries)) :
    entries.Opened (tree.openIn root) := by
  intro name inner found
  obtain ⟨place, led⟩ := node_ok_iff.mp entered
  have given : root ≠ "" := by
    rintro rfl
    cases led
  have named := ((proper.resolve led).find? found).1
  have parts : Path.parts (root.toList ++ '/' :: name.toList) =
      Path.parts root.toList ++ [name.toList] := by
    rw [Path.parts_append]
    exact congrArg _ (Text.splitOn_absent named.named.clear)
  have given' : root.toList ≠ [] := by simpa using given
  have below : tree.resolve true (String.ofList (root.toList ++ '/' :: name.toList)) =
      .ok (.found (place ++ [name]) (.directory inner)) := by
    rw [← resolve_unlinked (by simp [led]), resolve, if_neg given] at led
    rw [resolve, if_neg (by simp), names, isRooted, String.toList_ofList,
      Path.isRooted_append given', parts, List.map_append, List.map_singleton,
      String.ofList_toList]
    exact ((routed_iff.mpr led).enter named found).eq
  have cleaned := resolve_clean proper.housed (by simp) (by
    rw [parts, List.mem_append, List.mem_singleton]
    rintro (outer | last)
    · exact level outer
    · exact named.named.up last.symm) (.inl rfl) below
  rw [openIn, Path.join_proper given' named.named.proper, readDirectory_ok_iff.mpr ⟨_, cleaned⟩]
  rfl

end FileTree

end LineSieve
