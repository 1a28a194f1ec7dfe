import LineSieve.Proofs.Selection.Coverage
import LineSieve.Proofs.Selection.Places

/- The paths that targets are shown with. Under a directory they are places, so their components
   are names of entries; a root that is a file itself is shown without its directories. -/
namespace LineSieve

def parentNames (path : String) : List String := (FileTree.names path).dropLast

section Names

variable {place : List String} {path : List Char}

theorem names_relativePath (named : ∀ name ∈ place, ProperName name) (more : place ≠ []) :
    FileTree.names (String.ofList (relativePath place)) = place := by
  have clear : ∀ part ∈ place.map String.toList, '/' ∉ part := by
    intro part listed
    obtain ⟨name, among, rfl⟩ := List.mem_map.mp listed
    exact (named name among).named.clear
  rw [FileTree.names, String.toList_ofList, relativePath,
    Path.parts_join clear (mt List.map_eq_nil_iff.mp more)]
  simp

theorem parentNames_relativePath (named : ∀ name ∈ place, ProperName name) (more : place ≠ []) :
    parentNames (String.ofList (relativePath place)) = place.dropLast := by
  rw [parentNames, names_relativePath named more]

theorem parentNames_clear (clear : '/' ∉ path) : parentNames (String.ofList path) = [] := by
  rw [parentNames, FileTree.names, String.toList_ofList, Path.parts, Text.splitOn_absent clear]
  rfl

end Names

section Base

theorem Path.afterSlash_absent (path : List Char) : '/' ∉ afterSlash path := by
  intro listed
  have passed := List.mem_takeWhile_imp (List.mem_reverse.mp listed)
  exact absurd passed (by decide)

theorem Path.base_clear (path : List Char) :
    '/' ∉ base path ∨ path ≠ [] ∧ ∀ c ∈ path, c = '/' := by
  by_cases empty : path = []
  · subst empty
    exact .inl (by decide)
  · by_cases slashes : path.reverse.dropWhile (· == '/') = []
    · refine .inr ⟨empty, fun c listed => ?_⟩
      simpa using List.dropWhile_eq_nil_iff.mp slashes c (List.mem_reverse.mpr listed)
    · refine .inl ?_
      simp only [base, List.isEmpty_iff, List.reverse_eq_nil_iff, if_neg empty,
        if_neg slashes]
      exact afterSlash_absent _

theorem FileTree.stat_slashes {tree : FileTree} {root : String} (given : root.toList ≠ [])
    (slashes : ∀ c ∈ root.toList, c = '/') : tree.stat root = .ok (.directory tree.top) := by
  have idle (count : Nat) : resolveFrom tree.top true maxLinks []
      ((Path.parts (List.replicate count '/')).map String.ofList) =
        .ok (.found [] (.directory tree.top)) := by
    induction count with
    | zero =>
      change resolveFrom tree.top true maxLinks [] [""] = _
      exact (Routed.idle rfl (by decide) (.arrived rfl)).eq
    | succ count ih =>
      rw [List.replicate_succ, Path.parts_root, List.map_cons,
        resolveFrom_idle rfl (by decide), ih]
  have same := List.eq_replicate_of_mem slashes
  have proper : root ≠ "" := by simpa using given
  have rooted : isRooted root = true := by
    obtain ⟨first, rest, split⟩ := List.exists_cons_of_ne_nil given
    rw [isRooted, Path.isRooted, split, slashes first (split ▸ List.mem_cons_self)]
    rfl
  refine node_ok_iff.mpr ⟨[], ?_⟩
  rw [resolve, if_neg proper, rooted, if_pos rfl, names, same]
  exact idle _

end Base

section Walk

variable {skips : String → List Char → Bool} {pick? : String → List Char → Option Target}
  {opens : String → Except Fault Listing} {above : List String} {name : String} {node : Node}
  {listing : Listing} {target : Target}

theorem Listing.mem_targets_place (proper : listing.Proper)
    (named : ∀ name ∈ above, ProperName name)
    (listed : target ∈ listing.targets skips pick? (relativePath above)) :
    ∃ place, place ≠ [] ∧ (∀ name ∈ place, ProperName name) ∧
      pick? (place.getLastD "") (relativePath place) = some target := by
  rw [targets_reached proper named] at listed
  obtain ⟨place, reached, picked⟩ := List.mem_filterMap.mp listed
  obtain ⟨first, more, -, split, -⟩ := reached_head proper reached
  obtain ⟨below, rfl, ⟨held, found, -⟩, -⟩ := (mem_reached proper).mp reached
  refine ⟨above ++ below, by rw [split]; simp, fun inner among => ?_, picked⟩
  rcases List.mem_append.mp among with outer | inside
  · exact named inner outer
  · exact (proper.at? found).1 inner inside

theorem Node.mem_rootTargets_place (named : ProperName name)
    (proper : ∀ entries, opens name = .ok entries → entries.Proper) {targets : List Target}
    (opened : node.rootTargets opens skips pick? name = .ok targets) (listed : target ∈ targets) :
    ∃ place, place ≠ [] ∧ (∀ name ∈ place, ProperName name) ∧
      pick? (place.getLastD "") (relativePath place) = some target := by
  have alone : ∀ inner ∈ [name], ProperName inner := List.forall_mem_singleton.mpr named
  rcases node.single_or_directory with single | ⟨entries, rfl⟩
  · rw [Node.rootTargets_single single] at opened
    cases opened
    exact ⟨[name], List.cons_ne_nil _ _, alone, Option.mem_toList.mp listed⟩
  · rw [Node.rootTargets] at opened
    split at opened
    · cases opened
      cases listed
    · obtain ⟨inner, opens', rfl⟩ := map_eq_ok opened
      exact Listing.mem_targets_place (proper inner opens') alone listed

theorem Listing.mem_rootTargets_place (proper : listing.Proper)
    (opened : ∀ name entries, opens name = .ok entries → entries.Proper)
    (listed : target ∈ (listing.rootTargets opens skips pick?).1) :
    ∃ place, place ≠ [] ∧ (∀ name ∈ place, ProperName name) ∧
      pick? (place.getLastD "") (relativePath place) = some target := by
  induction listing using entries_induction with
  | nil => cases listed
  | cons name node rest _ ih =>
    obtain ⟨named, -, later, -⟩ := proper_cons.mp proper
    rw [rootTargets_cons] at listed
    cases found : node.rootTargets opens skips pick? name with
    | error fault =>
      rw [found] at listed
      cases listed
    | ok targets =>
      rw [found] at listed
      rcases List.mem_append.mp listed with here | behind
      · exact Node.mem_rootTargets_place named (opened name) found here
      · exact ih later behind

theorem FileTree.select_shown {tree : FileTree} {root : String} {selection : Selection}
    (proper : tree.Proper) (listed : target ∈ (tree.select root selection).1) :
    ∀ name ∈ parentNames target.display, ProperName name := by
  rcases select_cases listed with ⟨ignore, entries, walked⟩ | ⟨⟨node, stat, single⟩, found⟩
  · rw [select_walked walked] at listed
    have entered : entries.Proper :=
      have ⟨_, led⟩ := node_ok_iff.mp walked.entered
      proper.resolve led
    have opened (name : String) (inner : Listing) (opens : tree.openIn root name = .ok inner) :
        inner.Proper :=
      have ⟨_, led⟩ := readDirectory_ok_iff.mp (openIn_ok opens)
      proper.resolve led
    obtain ⟨place, more, named, picked⟩ := Listing.mem_rootTargets_place entered opened listed
    rw [Selection.target?_eq (Selection.pick?_eq picked), parentNames_relativePath named more]
    exact fun name among => named name (List.dropLast_subset place among)
  · rw [Selection.target?_eq found]
    rcases Path.base_clear root.toList with clear | ⟨given, slashes⟩
    · rw [parentNames_clear clear]
      exact nofun
    · rw [stat_slashes given slashes] at stat
      cases stat
      cases single

end Walk

end LineSieve
