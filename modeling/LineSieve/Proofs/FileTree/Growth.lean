import LineSieve.Proofs.FileTree.Updates

/- Trees that only grow. Sieving files and exporting a report leave every directory where it was and
   add to what is there, but that a link may give way to a file; so a path that leads to a directory
   leads there still, or nowhere. -/
namespace LineSieve

/-- Whatever is in the first tree is in the second one, but that links may have become files. -/
def Grown (one two : Listing) : Prop :=
  ∀ here node, one.at? here = some node → ∃ now, two.at? here = some now ∧
    (now.kind = node.kind ∨ (∃ target, node = .link target) ∧ now.kind = .file)

namespace Grown

variable {one two three : Listing}

theorem refl (top : Listing) : Grown top top := fun _ node held => ⟨node, held, .inl rfl⟩

theorem trans (first : Grown one two) (second : Grown two three) : Grown one three := by
  intro here node held
  obtain ⟨now, there, kinds⟩ := first here node held
  obtain ⟨last, after, kinds'⟩ := second here now there
  refine ⟨last, after, ?_⟩
  rcases kinds with same | ⟨link, file⟩
  · rcases kinds' with same' | ⟨⟨target, rfl⟩, file⟩
    · exact .inl (same'.trans same)
    · exact .inr ⟨⟨target, Node.kind_eq_link.mp same.symm⟩, file⟩
  · rcases kinds' with same' | ⟨⟨target, rfl⟩, -⟩
    · exact .inr ⟨link, same'.trans file⟩
    · cases file

theorem of_alike (alike : FileTree.Alike one two) : Grown one two := by
  intro here node held
  have kind := alike here
  rw [held] at kind
  obtain ⟨now, there, same⟩ := Option.map_eq_some_iff.mp kind
  exact ⟨now, there, .inl same⟩

theorem directory (grown : Grown one two) {here : List String} {entries : Listing}
    (held : one.at? here = some (.directory entries)) :
    ∃ others, two.at? here = some (.directory others) := by
  obtain ⟨now, there, same | ⟨⟨target, link⟩, -⟩⟩ := grown here _ held
  · obtain ⟨others, rfl⟩ := Node.kind_eq_directory.mp same
    exact ⟨others, there⟩
  · cases link

end Grown

theorem isDirectory_of_kinds {node now : Node}
    (kinds : now.kind = node.kind ∨ (∃ target, node = .link target) ∧ now.kind = .file) :
    now.isDirectory = node.isDirectory := by
  rcases kinds with same | ⟨⟨target, rfl⟩, file⟩
  · cases now <;> cases node <;> first | rfl | cases same
  · obtain ⟨content, rfl⟩ := Node.kind_eq_file.mp file
    rfl

namespace Listing

theorem grown_put {top : Listing} {name : String} {node : Node}
    (inside : ∀ rest old, top.at? (name :: rest) = some old →
      ∃ now, (top.put name node).at? (name :: rest) = some now ∧
        (now.kind = old.kind ∨ (∃ target, old = .link target) ∧ now.kind = .file)) :
    Grown top (top.put name node) := by
  intro here old held
  rcases at?_put_cases top name node here with rfl | ⟨rest, rfl⟩ | same
  · cases held
    exact ⟨_, rfl, .inl rfl⟩
  · exact inside rest old held
  · exact ⟨old, same.trans held, .inl rfl⟩

theorem grown_putAt {top : Listing} {place : List String} {node : Node}
    (free : ∀ old, top.at? place = some old → old.isDirectory = false ∧ node.kind = .file) :
    Grown top (top.putAt place node) := by
  induction top, place using place_induction with
  | root top => exact Grown.refl top
  | entry top name =>
    refine grown_put fun rest old held => ?_
    by_cases last : rest = []
    · subst last
      obtain ⟨single, file⟩ := free old held
      refine ⟨node, find?_put_self top name node, ?_⟩
      cases old with
      | directory entries => cases single
      | file content => exact .inl file
      | link target => exact .inr ⟨⟨target, rfl⟩, file⟩
    · -- What is below the name is in a directory.
      obtain ⟨entries, found, -⟩ := at?_inside held last
      cases (free (.directory entries) found).1
  | deeper top name entries rest found proper ih =>
    rw [putAt_deeper found proper]
    have grown : Grown entries (entries.putAt rest node) := ih fun old there =>
      free old ((at?_directory found rest).trans there)
    refine grown_put fun more old held => ?_
    rw [at?_directory found] at held
    rw [at?_directory (find?_put_self top name _)]
    exact grown more old held
  | stopped top name rest stopped proper =>
    rw [putAt_stopped stopped proper]
    exact Grown.refl top

end Listing

theorem Grown.below {one two : Listing} (grown : Grown one two) {here : List String}
    {entries others : Listing} (held : one.at? here = some (.directory entries))
    (there : two.at? here = some (.directory others)) : Grown entries others := by
  intro rest node found
  rw [← Listing.at?_append held] at found
  obtain ⟨now, after, kinds⟩ := grown _ node found
  rw [Listing.at?_append there] at after
  exact ⟨now, after, kinds⟩

namespace FileTree

/-- What an operation leaves of a tree: it has grown, and paths start where they did. -/
def Grows (tree now : FileTree) : Prop := now.origin = tree.origin ∧ Grown tree.top now.top

theorem Grows.refl (tree : FileTree) : tree.Grows tree := ⟨rfl, Grown.refl _⟩

theorem Grows.trans {one two three : FileTree} (first : one.Grows two) (second : two.Grows three) :
    one.Grows three := ⟨second.1.trans first.1, first.2.trans second.2⟩

theorem Routed.free {top : Listing} {follow slash : Bool} {links : Nat}
    {here todo parent : List String} {name : String}
    (routed : Routed top follow links here todo (.ok (.free parent name slash))) :
    ∃ entries, top.at? parent = some (.directory entries) ∧ entries.find? name = none := by
  generalize ended : Except.ok (Place.free parent name slash) = result at routed
  induction routed with
  | vacant held plain missing ends =>
    cases ended
    exact ⟨_, held, missing⟩
  | idle _ _ _ ih | rise _ _ ih | turn _ _ _ _ _ _ ih | descend _ _ _ _ _ ih => exact ih ended
  | arrived | lost | blocked | long | absent | kept | hollow | exhausted => cases ended

theorem resolve_free {tree : FileTree} {follow slash : Bool} {path name : String}
    {parent : List String} (led : tree.resolve follow path = .ok (.free parent name slash)) :
    ∃ entries, tree.top.at? parent = some (.directory entries) ∧ entries.find? name = none := by
  unfold resolve at led
  split at led
  · cases led
  · exact (routed_iff.mpr led).free

theorem grows_putAt_free {tree : FileTree} {follow slash : Bool} {path name : String}
    {parent : List String} (led : tree.resolve follow path = .ok (.free parent name slash))
    (node : Node) : tree.Grows { tree with top := tree.top.putAt (parent ++ [name]) node } := by
  refine ⟨rfl, Listing.grown_putAt fun old held => ?_⟩
  obtain ⟨entries, above, missing⟩ := resolve_free led
  rw [Listing.at?_concat above, missing] at held
  cases held

theorem makeDirectory_ok {tree now : FileTree} {path : String} {disk : Disk}
    (made : tree.makeDirectory path disk = .ok now) : ∃ parent name slash,
      tree.resolve false path = .ok (.free parent name slash) ∧
        now = { tree with top := tree.top.putAt (parent ++ [name]) (.directory .nil) } := by
  unfold makeDirectory at made
  split at made
  · next parent name slash led =>
    split at made
    · cases made
    · exact ⟨parent, name, slash, led, (Except.ok.inj made).symm⟩
  · cases made
  · split at made <;> cases made
  · cases made

theorem makeDirectory_grows {tree now : FileTree} {path : String} {disk : Disk}
    (made : tree.makeDirectory path disk = .ok now) : tree.Grows now := by
  obtain ⟨parent, name, slash, led, rfl⟩ := makeDirectory_ok made
  exact grows_putAt_free led _

theorem makeDirectories_induction {motive : FileTree → FileTree → Prop} {disk : Disk}
    (refl : ∀ tree, motive tree tree)
    (trans : ∀ {one two three}, motive one two → motive two three → motive one three)
    (step : ∀ {tree now path}, makeDirectory tree path disk = .ok now → motive tree now)
    (tree : FileTree) (path : String) : motive tree (tree.makeDirectories path disk).1 := by
  have branch {condition : Prop} [Decidable condition] {tree now : FileTree}
      {made : FileTree × Option FileError} {failure : Option FileError}
      (above : condition → motive tree made.1)
      (result : (if _h : condition then made else (tree, none)) = (now, failure)) :
      motive tree now := by
    split at result
    · next holds =>
      rw [result] at above
      exact above holds
    · cases result
      exact refl tree
  fun_induction makeDirectories tree path disk with
  | case1 | case2 => exact refl _
  | case3 | case5 | case6 =>
    rename_i above ih
    exact branch ih above
  | case4 =>
    rename_i made above ih
    exact trans (branch ih above) (step made)

theorem makeDirectories_grows (tree : FileTree) (path : String) (disk : Disk) :
    tree.Grows (tree.makeDirectories path disk).1 :=
  makeDirectories_induction Grows.refl Grows.trans makeDirectory_grows tree path

end FileTree

section Resolution

theorem Grown.entry {one two entries others : Listing} (grown : Grown one two) {here : List String}
    (held : one.at? here = some (.directory entries))
    (there : two.at? here = some (.directory others)) {name : String} {node : Node}
    (entry : entries.find? name = some node) : ∃ now, others.find? name = some now ∧
      (now.kind = node.kind ∨ (∃ target, node = .link target) ∧ now.kind = .file) := by
  rw [← Listing.at?_concat held] at entry
  obtain ⟨now, after, kinds⟩ := grown _ node entry
  rw [Listing.at?_concat there] at after
  exact ⟨now, after, kinds⟩

theorem Grown.link {one two entries others : Listing} (grown : Grown one two) {here : List String}
    (held : one.at? here = some (.directory entries))
    (there : two.at? here = some (.directory others)) {name target : String}
    (entry : entries.find? name = some (.link target)) :
    others.find? name = some (.link target) ∨ ∃ content, others.find? name = some (.file content) := by
  obtain ⟨now, found, same | ⟨-, file⟩⟩ := grown.entry held there entry
  · obtain rfl := Node.kind_eq_link.mp same
    exact .inl found
  · obtain ⟨content, rfl⟩ := Node.kind_eq_file.mp file
    exact .inr ⟨content, found⟩

namespace FileTree

theorem Routed.of_file {top : Listing} {follow : Bool} {links : Nat} {here : List String}
    {content : ByteArray} (held : top.at? here = some (.file content)) (todo : List String) :
    Routed top follow links here todo
      (if todo = [] then .ok (.found here (.file content)) else .error .notDirectory) := by
  cases todo with
  | nil => exact .arrived held
  | cons name rest => exact .blocked (by simp [held])

/-- A path that leads somewhere leads there in a grown tree, or nowhere, or to a file that took the
place of a link on it. -/
theorem Routed.grown {one two : Listing} (grown : Grown one two) {follow : Bool} {links : Nat}
    {here todo place : List String} {node : Node}
    (routed : Routed one follow links here todo (.ok (.found place node))) :
    ∃ after, Routed two follow links here todo after ∧
      ((∃ now, after = .ok (.found place now)) ∨ (∃ fault, after = .error fault) ∨
        follow = true ∧ ∃ other content, after = .ok (.found other (.file content))) := by
  generalize ended : Except.ok (Place.found place node) = result at routed
  induction routed with
  | lost | blocked | long | vacant | absent | hollow | exhausted => cases ended
  | arrived held =>
    cases ended
    obtain ⟨now, there, -⟩ := grown _ _ held
    exact ⟨_, .arrived there, .inl ⟨now, rfl⟩⟩
  | idle held idle later ih =>
    obtain ⟨others, found⟩ := grown.directory held
    obtain ⟨after, later, ends⟩ := ih ended
    exact ⟨after, .idle found idle later, ends⟩
  | rise held later ih =>
    obtain ⟨others, found⟩ := grown.directory held
    obtain ⟨after, later, ends⟩ := ih ended
    exact ⟨after, .rise found later, ends⟩
  | kept held plain link lax =>
    cases ended
    obtain ⟨others, found⟩ := grown.directory held
    rcases grown.link held found link with same | ⟨content, replaced⟩
    · exact ⟨_, .kept found plain same lax, .inl ⟨_, rfl⟩⟩
    · have file := (Listing.at?_concat found _).trans replaced
      exact ⟨_, .descend found plain replaced nofun (.arrived file), .inl ⟨_, rfl⟩⟩
  | @turn links here rest name target entries result held plain link followed proper later ih =>
    obtain ⟨others, found⟩ := grown.directory held
    rcases grown.link held found link with same | ⟨content, replaced⟩
    · obtain ⟨after, later, ends⟩ := ih ended
      exact ⟨after, .turn found plain same followed proper later, ends⟩
    · have file := (Listing.at?_concat found _).trans replaced
      refine ⟨_, .descend found plain replaced nofun (.of_file file rest), .inr ?_⟩
      by_cases last : rest = []
      · -- The link would have been followed to the end of the path.
        rw [if_pos last]
        exact .inr ⟨followed.resolve_left (absurd last), _, _, rfl⟩
      · rw [if_neg last]
        exact .inl ⟨_, rfl⟩
  | descend held plain entry unlinked later ih =>
    obtain ⟨others, found⟩ := grown.directory held
    obtain ⟨now, there, same | ⟨⟨target, link⟩, -⟩⟩ := grown.entry held found entry
    · have unlinked' : ∀ target, now ≠ .link target := by
        rintro target rfl
        exact unlinked target (Node.kind_eq_link.mp same.symm)
      obtain ⟨after, later, ends⟩ := ih ended
      exact ⟨after, .descend found plain there unlinked' later, ends⟩
    · exact absurd link (unlinked target)

theorem Routed.unlinked {top : Listing} {links : Nat} {here todo : List String}
    {result : Except FileFault Place} (routed : Routed top false links here todo result)
    (unlinked : ∀ place target, result ≠ .ok (.found place (.link target))) :
    Routed top true links here todo result := by
  induction routed with
  | arrived held => exact .arrived held
  | lost missing => exact .lost missing
  | blocked single => exact .blocked single
  | idle held idle later ih => exact .idle held idle (ih unlinked)
  | rise held later ih => exact .rise held (ih unlinked)
  | long held busy level long => exact .long held busy level long
  | vacant held plain missing ends => exact .vacant held plain missing ends
  | absent held plain missing more => exact .absent held plain missing more
  | kept held plain link lax => exact absurd rfl (unlinked _ _)
  | hollow held plain link followed => exact .hollow held plain link (.inr rfl)
  | exhausted held plain link followed proper => exact .exhausted held plain link (.inr rfl) proper
  | turn held plain link followed proper later ih =>
    exact .turn held plain link (.inr rfl) proper (ih unlinked)
  | descend held plain entry free later ih => exact .descend held plain entry free (ih unlinked)

variable {tree now : FileTree} {path : String} {node : Node}

theorem node_ok_iff {follow : Bool} {operation : String} :
    tree.node follow operation path = .ok node ↔
      ∃ place, tree.resolve follow path = .ok (.found place node) := by
  unfold FileTree.node
  split <;> simp_all

theorem resolve_unlinked (unlinked : ∀ place target,
      tree.resolve false path ≠ .ok (.found place (.link target))) :
    tree.resolve true path = tree.resolve false path := by
  unfold resolve at unlinked ⊢
  by_cases empty : path = ""
  · rw [if_pos empty, if_pos empty]
  · rw [if_neg empty] at unlinked ⊢
    rw [if_neg empty]
    exact ((routed _ _ _ _ _).unlinked unlinked).eq

theorem Grows.resolve (grows : tree.Grows now) {follow : Bool} {place : List String}
    (led : tree.resolve follow path = .ok (.found place node)) :
    (∃ after, now.resolve follow path = .ok (.found place after)) ∨
      (∃ fault, now.resolve follow path = .error fault) ∨
      follow = true ∧ ∃ other content,
        now.resolve follow path = .ok (.found other (.file content)) := by
  obtain ⟨origin, grown⟩ := grows
  unfold FileTree.resolve at led ⊢
  by_cases empty : path = ""
  · rw [if_pos empty] at led
    cases led
  · rw [if_neg empty] at led ⊢
    obtain ⟨after, result, ends⟩ := (routed_iff.mpr led).grown grown
    rw [origin, result.eq]
    exact ends

theorem Grows.entered (grows : tree.Grows now) {entries : Listing} {after : Node}
    (entered : tree.linkStat path = .ok (.directory entries)) (stat : now.stat path = .ok after) :
    ∃ others, after = .directory others ∧ now.linkStat path = .ok (.directory others) ∧
      Grown entries others := by
  obtain ⟨place, led⟩ := node_ok_iff.mp entered
  obtain ⟨place', led'⟩ := node_ok_iff.mp stat
  have held := resolve_found led
  obtain ⟨others, there⟩ := grows.2.directory held
  rcases grows.resolve led with ⟨last, found⟩ | ⟨fault, failed⟩ | ⟨follows, -⟩
  · obtain rfl : last = .directory others :=
      Option.some.inj ((resolve_found found).symm.trans there)
    rw [resolve_unlinked (by simp [found]), found] at led'
    obtain ⟨-, rfl⟩ := Place.found.inj (Except.ok.inj led')
    exact ⟨others, rfl, node_ok_iff.mpr ⟨place, found⟩, grows.2.below held there⟩
  · rw [resolve_unlinked (by simp [failed]), failed] at led'
    cases led'
  · cases follows

theorem readDirectory_ok_iff {entries : Listing} : tree.readDirectory path = .ok entries ↔
    ∃ place, tree.resolve true path = .ok (.found place (.directory entries)) := by
  unfold readDirectory
  constructor
  · intro read
    split at read
    · next opened =>
      cases read
      exact node_ok_iff.mp opened
    · cases read
    · cases read
  · intro led
    rw [node_ok_iff.mpr led]

theorem Grows.readDirectory (grows : tree.Grows now) {entries others : Listing}
    (read : tree.readDirectory path = .ok entries) (again : now.readDirectory path = .ok others) :
    Grown entries others := by
  obtain ⟨place, led⟩ := readDirectory_ok_iff.mp read
  obtain ⟨place', led'⟩ := readDirectory_ok_iff.mp again
  rcases grows.resolve led with ⟨last, found⟩ | ⟨fault, failed⟩ | ⟨-, other, content, file⟩
  · obtain ⟨rfl, rfl⟩ := Place.found.inj (Except.ok.inj (found.symm.trans led'))
    exact grows.2.below (resolve_found led) (resolve_found found)
  · rw [failed] at led'
    cases led'
  · rw [file] at led'
    cases led'

theorem Grows.single (grows : tree.Grows now) {after : Node} (stat : tree.stat path = .ok node)
    (single : node.isDirectory = false) (again : now.stat path = .ok after) :
    after.isDirectory = false := by
  obtain ⟨place, led⟩ := node_ok_iff.mp stat
  obtain ⟨place', led'⟩ := node_ok_iff.mp again
  rcases grows.resolve led with ⟨last, found⟩ | ⟨fault, failed⟩ | ⟨-, other, content, file⟩
  · obtain ⟨rfl, rfl⟩ := Place.found.inj (Except.ok.inj (found.symm.trans led'))
    obtain ⟨last, there, kinds⟩ := grows.2 _ _ (resolve_found led)
    obtain rfl := Option.some.inj ((resolve_found found).symm.trans there)
    exact (isDirectory_of_kinds kinds).trans single
  · rw [failed] at led'
    cases led'
  · rw [file] at led'
    cases led'
    rfl

end FileTree

end Resolution

end LineSieve
