import LineSieve.Proofs.FileTree.Ordered
import LineSieve.Proofs.Selection.Reach

/- The places that a walk comes to. A place is the list of names on the way from the root. A walk
   comes to those of the files and links, in the order of the names, and to no place in a directory
   that it skips. -/
namespace LineSieve

def relativePath (place : List String) : List Char := Text.join ['/'] (place.map String.toList)

theorem relativePath_concat {above : List String} (more : above ≠ []) (name : String) :
    relativePath (above ++ [name]) = relativePath above ++ '/' :: name.toList := by
  unfold relativePath
  induction above with
  | nil => exact absurd rfl more
  | cons first above ih =>
    cases above with
    | nil => simp [Text.join]
    | cons second above =>
      have later := ih (List.cons_ne_nil _ _)
      simp only [List.cons_append, List.map_cons, Text.join] at later ⊢
      rw [later]
      simp only [List.append_assoc]

theorem childPath_relativePath {above : List String} (named : ∀ name ∈ above, ProperName name)
    (name : String) : childPath (relativePath above) name = relativePath (above ++ [name]) := by
  by_cases top : above = []
  · subst top
    rfl
  · have proper : relativePath above ≠ [] := by
      have parts : ∀ part ∈ above.map String.toList, part ≠ [] := by
        intro part listed
        obtain ⟨name, among, rfl⟩ := List.mem_map.mp listed
        exact (named name among).named.proper
      exact mt (Path.join_eq_nil_iff parts).mp (mt List.map_eq_nil_iff.mp top)
    rw [childPath, if_neg (by simpa using proper), relativePath_concat top]

def Listing.reached (skips : String → List Char → Bool) (above : List String) :
    Listing → List (List String)
  | .nil => []
  | .file name _ rest => (above ++ [name]) :: rest.reached skips above
  | .link name _ rest => (above ++ [name]) :: rest.reached skips above
  | .directory name entries rest =>
    (if skips name (relativePath (above ++ [name])) then []
      else entries.reached skips (above ++ [name]))
      ++ rest.reached skips above

def Node.reached (skips : String → List Char → Bool) (above : List String) (name : String) :
    Node → List (List String)
  | .directory entries =>
    if skips name (relativePath (above ++ [name])) then []
    else entries.reached skips (above ++ [name])
  | _ => [above ++ [name]]

/-- Below `above` there is a file or a link, and no directory on the way to it is skipped. -/
def Listing.Reaches (listing : Listing) (skips : String → List Char → Bool)
    (above below : List String) : Prop :=
  (∃ node, listing.at? below = some node ∧ node.isDirectory = false) ∧
    ∀ front name rest, rest ≠ [] → below = front ++ name :: rest →
      skips name (relativePath (above ++ front ++ [name])) = false

section Places

variable {skips : String → List Char → Bool} {above below place : List String} {name : String}
  {node : Node} {listing rest entries : Listing}

theorem Node.reached_single (single : node.isDirectory = false) :
    node.reached skips above name = [above ++ [name]] := by
  cases node with
  | directory entries => cases single
  | file | link => rfl

theorem Listing.reached_cons : (node.cons name rest).reached skips above =
    node.reached skips above name ++ rest.reached skips above := by
  cases node <;> rfl

theorem Listing.at?_cons_other {first : String} (differs : name ≠ first) (more : List String) :
    (node.cons name rest).at? (first :: more) = rest.at? (first :: more) :=
  at?_congr first (by rw [find?_cons, if_neg differs]) more

theorem Listing.find?_of_at? {more : List String} {held : Node}
    (found : listing.at? (name :: more) = some held) : ∃ node, listing.find? name = some node := by
  cases more with
  | nil => exact ⟨held, found⟩
  | cons second more =>
    obtain ⟨entries, found, -⟩ := at?_inside found (List.cons_ne_nil _ _)
    exact ⟨_, found⟩

theorem length_inside (more : below ≠ []) (split : place = above ++ name :: below) :
    above.length + 2 ≤ place.length := by
  have positive := List.length_pos_iff.mpr more
  rw [split, List.length_append, List.length_cons]
  omega

theorem Listing.Reaches.of_single (single : node.isDirectory = false) :
    (node.cons name rest).Reaches skips above [name] := by
  refine ⟨⟨node, ?_, single⟩, fun front inner behind more split => ?_⟩
  · rw [at?, find?_cons, if_pos rfl]
  · have short : front.length + 2 ≤ 1 := length_inside more split
    omega

theorem Listing.Reaches.of_inside (reaches : entries.Reaches skips (above ++ [name]) below)
    (entered : skips name (relativePath (above ++ [name])) = false) :
    ((Node.directory entries).cons name rest).Reaches skips above (name :: below) := by
  obtain ⟨⟨held, found, single⟩, between⟩ := reaches
  have inside : ((Node.directory entries).cons name rest).find? name =
      some (.directory entries) := by
    rw [find?_cons, if_pos rfl]
  refine ⟨⟨held, (at?_directory inside below).trans found, single⟩,
    fun front inner behind more split => ?_⟩
  cases front with
  | nil =>
    obtain ⟨rfl, -⟩ := List.cons.inj split
    rw [List.append_nil]
    exact entered
  | cons first front =>
    obtain ⟨rfl, later⟩ := List.cons.inj split
    rw [List.append_cons above]
    exact between front inner behind more later

theorem Listing.Reaches.of_later (fresh : rest.find? name = none)
    (reaches : rest.Reaches skips above below) :
    (node.cons name rest).Reaches skips above below := by
  obtain ⟨⟨held, found, single⟩, between⟩ := reaches
  refine ⟨⟨held, ?_, single⟩, between⟩
  cases below with
  | nil =>
    cases found
    cases single
  | cons first more =>
    obtain ⟨_, there⟩ := find?_of_at? found
    have differs : name ≠ first := by
      rintro rfl
      cases fresh.symm.trans there
    rw [at?_cons_other differs]
    exact found

theorem Listing.Reaches.cases (reaches : (node.cons name rest).Reaches skips above below) :
    node.isDirectory = false ∧ below = [name] ∨
      (∃ entries inner, node = .directory entries ∧ below = name :: inner ∧
        skips name (relativePath (above ++ [name])) = false ∧
        entries.Reaches skips (above ++ [name]) inner) ∨
      rest.Reaches skips above below := by
  obtain ⟨⟨held, found, single⟩, between⟩ := reaches
  cases below with
  | nil =>
    cases found
    cases single
  | cons first more =>
    by_cases same : name = first
    · subst same
      have here : (node.cons name rest).find? name = some node := by rw [find?_cons, if_pos rfl]
      by_cases last : more = []
      · subst last
        obtain rfl := Option.some.inj (here.symm.trans found)
        exact .inl ⟨single, rfl⟩
      · obtain ⟨entries, there, deeper⟩ := at?_inside found last
        obtain rfl := Option.some.inj (here.symm.trans there)
        refine .inr (.inl ⟨entries, more, rfl, rfl, ?_, ⟨held, deeper, single⟩, ?_⟩)
        · simpa using between [] name more last rfl
        · intro front inner behind proper split
          rw [← List.append_cons]
          exact between (name :: front) inner behind proper (by rw [split, List.cons_append])
    · rw [at?_cons_other same] at found
      exact .inr (.inr ⟨⟨held, found, single⟩, between⟩)

theorem Listing.mem_reached (proper : listing.Proper) : place ∈ listing.reached skips above ↔
    ∃ below, place = above ++ below ∧ listing.Reaches skips above below := by
  induction listing using entries_induction generalizing above with
  | nil =>
    refine ⟨nofun, ?_⟩
    rintro ⟨below, -, ⟨held, found, single⟩, -⟩
    cases below with
    | nil =>
      cases found
      cases single
    | cons first more =>
      obtain ⟨_, there⟩ := find?_of_at? found
      cases there
  | cons name node rest inside ih =>
    obtain ⟨-, fresh, later, deeper⟩ := proper_cons.mp proper
    rw [reached_cons, List.mem_append, ih later]
    constructor
    · rintro (here | ⟨below, rfl, reaches⟩)
      · rcases node.single_or_directory with single | ⟨entries, rfl⟩
        · rw [Node.reached_single single, List.mem_singleton] at here
          exact ⟨[name], here, .of_single single⟩
        · rw [Node.reached] at here
          split at here
          · cases here
          · rename_i entered
            obtain ⟨below, rfl, reaches⟩ := (inside entries rfl (deeper entries rfl)).mp here
            exact ⟨name :: below, (List.append_cons _ _ _).symm,
              reaches.of_inside (Bool.eq_false_iff.mpr entered)⟩
      · exact ⟨below, rfl, reaches.of_later fresh⟩
    · rintro ⟨below, rfl, reaches⟩
      rcases reaches.cases with
        ⟨single, rfl⟩ | ⟨entries, inner, rfl, rfl, entered, reaches⟩ | reaches
      · rw [Node.reached_single single]
        exact .inl (List.mem_singleton_self _)
      · refine .inl ?_
        rw [Node.reached, entered, if_neg Bool.false_ne_true,
          inside entries rfl (deeper entries rfl)]
        exact ⟨inner, List.append_cons _ _ _, reaches⟩
      · exact .inr ⟨below, rfl, reaches⟩

theorem Node.reached_head (proper : ∀ entries, node = .directory entries → entries.Proper)
    (listed : place ∈ node.reached skips above name) : ∃ more, place = above ++ name :: more := by
  rcases node.single_or_directory with single | ⟨entries, rfl⟩
  · rw [Node.reached_single single, List.mem_singleton] at listed
    exact ⟨[], listed⟩
  · rw [Node.reached] at listed
    split at listed
    · cases listed
    · obtain ⟨below, rfl, -⟩ := (Listing.mem_reached (proper entries rfl)).mp listed
      exact ⟨below, (List.append_cons _ _ _).symm⟩

theorem Listing.reached_head (proper : listing.Proper)
    (listed : place ∈ listing.reached skips above) :
    ∃ first more node, place = above ++ first :: more ∧ listing.find? first = some node := by
  obtain ⟨below, rfl, ⟨held, found, single⟩, -⟩ := (mem_reached proper).mp listed
  cases below with
  | nil =>
    cases found
    cases single
  | cons first more =>
    obtain ⟨node, there⟩ := find?_of_at? found
    exact ⟨first, more, node, rfl, there⟩

theorem Listing.reached_ascending (proper : listing.Proper) (ordered : listing.Ordered) :
    (listing.reached skips above).Pairwise (· < ·) := by
  induction listing using entries_induction generalizing above with
  | nil => exact .nil
  | cons name node rest inside ih =>
    obtain ⟨-, -, later, deeper⟩ := proper_cons.mp proper
    obtain ⟨less, behind, below⟩ := ordered_cons.mp ordered
    rw [reached_cons, List.pairwise_append]
    refine ⟨?_, ih later behind, fun one here two there => ?_⟩
    · rcases node.single_or_directory with single | ⟨entries, rfl⟩
      · rw [Node.reached_single single]
        exact List.pairwise_singleton _ _
      · rw [Node.reached]
        split
        · exact .nil
        · exact inside entries rfl (deeper entries rfl) (below entries rfl)
    · obtain ⟨more, rfl⟩ := Node.reached_head deeper here
      obtain ⟨first, more', held, rfl, found⟩ := reached_head later there
      exact List.append_left_lt (List.cons_lt_cons_iff.mpr (.inl (less first held found)))

theorem Listing.targets_reached {pick? : String → List Char → Option Target}
    (proper : listing.Proper) (named : ∀ name ∈ above, ProperName name) :
    listing.targets skips pick? (relativePath above) =
      (listing.reached skips above).filterMap fun place =>
        pick? (place.getLastD "") (relativePath place) := by
  induction listing using entries_induction generalizing above with
  | nil => rfl
  | cons name node rest inside ih =>
    obtain ⟨here, -, later, deeper⟩ := proper_cons.mp proper
    rw [targets_cons, reached_cons, List.filterMap_append, ih later named]
    congr 1
    rcases node.single_or_directory with single | ⟨entries, rfl⟩
    · rw [Node.targets_single single, Node.reached_single single, childPath_relativePath named]
      cases picked : pick? name (relativePath (above ++ [name])) with
      | none => simp [picked]
      | some target => simp [picked]
    · rw [Node.targets, Node.reached, childPath_relativePath named]
      split
      · rfl
      · refine inside entries rfl (deeper entries rfl) fun inner listed => ?_
        rcases List.mem_append.mp listed with outer | last
        · exact named inner outer
        · exact List.mem_singleton.mp last ▸ here

end Places

end LineSieve
