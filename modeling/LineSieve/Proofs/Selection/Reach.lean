import LineSieve.Proofs.FileTree.Rooted
import LineSieve.Proofs.Selection.Targets

/- Walks over trees that have grown. A walk that picks at least what another one picks, in the same
   directories of a tree that has grown since, comes to a partner of every target of the other. -/
namespace LineSieve

theorem Node.isDirectory_iff {node : Node} :
    node.isDirectory = true ↔ ∃ entries, node = .directory entries := by
  cases node <;> simp [isDirectory]

theorem Node.single_or_directory (node : Node) :
    node.isDirectory = false ∨ ∃ entries, node = .directory entries := by
  cases node <;> simp [isDirectory]

theorem map_eq_ok {α β ε : Type} {result : Except ε α} {f : α → β} {value : β}
    (mapped : result.map f = .ok value) : ∃ inner, result = .ok inner ∧ f inner = value := by
  cases result with
  | error e => cases mapped
  | ok inner => exact ⟨inner, rfl, Except.ok.inj mapped⟩

theorem Grown.tail {name : String} {node : Node} {rest two : Listing}
    (grown : Grown (node.cons name rest) two) (fresh : rest.find? name = none) : Grown rest two := by
  intro here other held
  cases here with
  | nil =>
    cases held
    exact ⟨.directory two, rfl, .inl rfl⟩
  | cons first below =>
    have differs : name ≠ first := by
      rintro rfl
      cases below with
      | nil => exact nomatch fresh.symm.trans held
      | cons second below => simp [Listing.at?, fresh] at held
    have same : (node.cons name rest).find? first = rest.find? first := by
      rw [Listing.find?_cons, if_neg differs]
    exact grown (first :: below) other ((Listing.at?_congr first same below).trans held)

theorem Grown.head {name : String} {node : Node} {rest two : Listing}
    (grown : Grown (node.cons name rest) two) : ∃ now, two.find? name = some now ∧
      now.isDirectory = node.isDirectory ∧
      ∀ entries others, node = .directory entries → now = .directory others →
        Grown entries others := by
  have found : (node.cons name rest).find? name = some node := by
    rw [Listing.find?_cons, if_pos rfl]
  obtain ⟨now, there, kinds⟩ := grown [name] node found
  refine ⟨now, there, isDirectory_of_kinds kinds, ?_⟩
  rintro entries others rfl rfl
  have held : (Node.cons name (.directory entries) rest).at? [name] = some (.directory entries) :=
    found
  exact grown.below held there

section Targets

variable {skips : String → List Char → Bool} {pick? again? : String → List Char → Option Target}
  {opens reopens : String → Except Fault Listing} {above : List Char} {name : String} {node now : Node}
  {listing one two rest : Listing} {target : Target}

def Node.targets (skips : String → List Char → Bool) (pick? : String → List Char → Option Target)
    (above : List Char) (name : String) : Node → List Target
  | .directory entries =>
    if skips name (childPath above name) then []
    else entries.targets skips pick? (childPath above name)
  | _ => (pick? name (childPath above name)).toList

/-- The targets at one entry of a root, if it can be opened where that is due. -/
def Node.rootTargets (opens : String → Except Fault Listing) (skips : String → List Char → Bool)
    (pick? : String → List Char → Option Target) (name : String) : Node → Except Fault (List Target)
  | .directory _ =>
    if skips name (childPath [] name) then .ok []
    else (opens name).map fun entries => entries.targets skips pick? (childPath [] name)
  | _ => .ok (pick? name (childPath [] name)).toList

theorem Node.targets_single (single : node.isDirectory = false) :
    node.targets skips pick? above name = (pick? name (childPath above name)).toList := by
  cases node with
  | directory entries => cases single
  | file | link => rfl

theorem Node.rootTargets_single (single : node.isDirectory = false) :
    node.rootTargets opens skips pick? name = .ok (pick? name (childPath [] name)).toList := by
  cases node with
  | directory entries => cases single
  | file | link => rfl

theorem Listing.targets_cons : (node.cons name rest).targets skips pick? above =
    node.targets skips pick? above name ++ rest.targets skips pick? above := by
  cases node <;> rfl

theorem Listing.rootTargets_cons : (node.cons name rest).rootTargets opens skips pick? =
    match node.rootTargets opens skips pick? name with
    | .ok found => (found ++ (rest.rootTargets opens skips pick?).1,
        (rest.rootTargets opens skips pick?).2)
    | .error fault => ([], some fault) := by
  cases node with
  | file | link => rfl
  | directory entries =>
    simp only [Node.cons, rootTargets, Node.rootTargets]
    split
    · rfl
    · cases opens name <;> rfl

theorem Listing.targets_of_find? (found : listing.find? name = some node) :
    node.targets skips pick? above name ⊆ listing.targets skips pick? above := by
  induction listing using entries_induction with
  | nil => cases found
  | cons n first rest _ ih =>
    rw [find?_cons] at found
    rw [targets_cons]
    split at found
    · rename_i same
      cases found
      exact same ▸ List.subset_append_left _ _
    · exact List.subset_append_of_subset_right _ (ih found)

theorem Listing.rootTargets_of_find? (found : listing.find? name = some node)
    (finished : (listing.rootTargets opens skips pick?).2 = none) :
    ∃ targets, node.rootTargets opens skips pick? name = .ok targets ∧
      targets ⊆ (listing.rootTargets opens skips pick?).1 := by
  induction listing using entries_induction with
  | nil => cases found
  | cons n first rest _ ih =>
    rw [rootTargets_cons] at finished ⊢
    rw [find?_cons] at found
    cases opened : first.rootTargets opens skips pick? n with
    | error fault =>
      rw [opened] at finished
      cases finished
    | ok here =>
      rw [opened] at finished
      split at found
      · rename_i same
        cases found
        exact ⟨here, same ▸ opened, List.subset_append_left _ _⟩
      · obtain ⟨targets, later, part⟩ := ih found finished
        exact ⟨targets, later, List.subset_append_of_subset_right _ part⟩

/-- The second pick follows the first one: it picks a partner of whatever the first one picks. -/
def Follows (pick? again? : String → List Char → Option Target) (partner : Target → Target → Prop) :
    Prop :=
  ∀ above name target, ProperName name → pick? name (childPath above name) = some target →
    ∃ other, again? name (childPath above name) = some other ∧ partner target other

variable {partner : Target → Target → Prop}

theorem Follows.single (follows : Follows pick? again? partner) (named : ProperName name)
    (listed : target ∈ (pick? name (childPath above name)).toList) :
    ∃ other ∈ (again? name (childPath above name)).toList, partner target other := by
  obtain ⟨other, picked, matched⟩ := follows above name target named (Option.mem_toList.mp listed)
  exact ⟨other, Option.mem_toList.mpr picked, matched⟩

theorem Follows.targets (follows : Follows pick? again? partner) (proper : one.Proper)
    (grown : Grown one two) (listed : target ∈ one.targets skips pick? above) :
    ∃ other ∈ two.targets skips again? above, partner target other := by
  induction one using Listing.entries_induction generalizing two above with
  | nil => cases listed
  | cons name node rest inside ih =>
    obtain ⟨named, fresh, later, deeper⟩ := Listing.proper_cons.mp proper
    rw [Listing.targets_cons] at listed
    rcases List.mem_append.mp listed with here | listed
    · obtain ⟨now, found, kind, below⟩ := grown.head
      suffices part : ∃ other ∈ now.targets skips again? above name, partner target other by
        obtain ⟨other, among, matched⟩ := part
        exact ⟨other, Listing.targets_of_find? found among, matched⟩
      rcases node.single_or_directory with single | ⟨entries, rfl⟩
      · rw [Node.targets_single single] at here
        rw [Node.targets_single (kind.trans single)]
        exact follows.single named here
      · obtain ⟨others, rfl⟩ := Node.isDirectory_iff.mp kind
        rw [Node.targets] at here ⊢
        split at here
        · cases here
        · rename_i entered
          rw [if_neg entered]
          exact inside entries rfl (deeper entries rfl) (below entries others rfl rfl) here
    · exact ih later (grown.tail fresh) listed

/-- What a directory in the first tree holds has grown in the second one. -/
def Reopened (opens reopens : String → Except Fault Listing) : Prop :=
  ∀ name entries others, ProperName name → opens name = .ok entries → reopens name = .ok others →
    entries.Proper ∧ Grown entries others

theorem Follows.rootTargets (follows : Follows pick? again? partner)
    (reopened : Reopened opens reopens) (proper : one.Proper) (grown : Grown one two)
    (finished : (two.rootTargets reopens skips again?).2 = none)
    (listed : target ∈ (one.rootTargets opens skips pick?).1) :
    ∃ other ∈ (two.rootTargets reopens skips again?).1, partner target other := by
  induction one using Listing.entries_induction with
  | nil => cases listed
  | cons name node rest _ ih =>
    obtain ⟨named, fresh, later, -⟩ := Listing.proper_cons.mp proper
    rw [Listing.rootTargets_cons] at listed
    cases opened : node.rootTargets opens skips pick? name with
    | error fault =>
      rw [opened] at listed
      cases listed
    | ok targets =>
      rw [opened] at listed
      rcases List.mem_append.mp listed with here | listed
      · obtain ⟨now, found, kind, -⟩ := grown.head
        obtain ⟨again, now_opened, part⟩ := Listing.rootTargets_of_find? found finished
        suffices among : ∃ other ∈ again, partner target other by
          obtain ⟨other, among, matched⟩ := among
          exact ⟨other, part among, matched⟩
        rcases node.single_or_directory with single | ⟨entries, rfl⟩
        · rw [Node.rootTargets_single single] at opened
          rw [Node.rootTargets_single (kind.trans single)] at now_opened
          cases opened
          cases now_opened
          exact follows.single named here
        · obtain ⟨others, rfl⟩ := Node.isDirectory_iff.mp kind
          rw [Node.rootTargets] at opened now_opened
          split at opened
          · cases opened
            cases here
          · rename_i entered
            rw [if_neg entered] at now_opened
            obtain ⟨entries', opens', rfl⟩ := map_eq_ok opened
            obtain ⟨others', reopens', rfl⟩ := map_eq_ok now_opened
            obtain ⟨proper', grown'⟩ := reopened name entries' others' named opens' reopens'
            exact follows.targets proper' grown' here
      · exact ih later (grown.tail fresh) listed

end Targets

end LineSieve
