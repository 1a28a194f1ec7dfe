import LineSieve.FileTree.Listing

/- Entries and places. A directory is a sequence of named nodes, whatever the nodes are; and a place
   is the top, an entry of the top, or a place in a directory of the top. -/
namespace LineSieve.Listing

variable {top entries : Listing} {node : Node} {name other : String} {here rest : List String}

theorem find?_cons (node : Node) (n name : String) (rest : Listing) :
    (node.cons n rest).find? name = if n = name then some node else rest.find? name := by
  cases node <;> rfl

theorem put_cons (node other : Node) (name n : String) (rest : Listing) :
    (other.cons n rest).put name node =
      if n = name then node.cons name rest
      else if name < n then node.cons name (other.cons n rest)
      else other.cons n (rest.put name node) := by
  cases other <;> rfl

theorem erase_cons (node : Node) (n name : String) (rest : Listing) :
    (node.cons n rest).erase name =
      if n = name then rest.erase name else node.cons n (rest.erase name) := by
  cases node <;> rfl

/-- Induction over the entries of a directory and of the directories in it. -/
@[elab_as_elim]
theorem entries_induction {motive : Listing → Prop} (listing : Listing) (nil : motive .nil)
    (cons : ∀ (name : String) (node : Node) (rest : Listing),
      (∀ entries, node = .directory entries → motive entries) →
      motive rest → motive (node.cons name rest)) : motive listing := by
  induction listing with
  | nil => exact nil
  | file name content rest ih => exact cons name (.file content) rest nofun ih
  | link name target rest ih => exact cons name (.link target) rest nofun ih
  | directory name entries rest inside ih =>
    refine cons name (.directory entries) rest ?_ ih
    rintro inner ⟨⟩
    exact inside

theorem find?_put (listing : Listing) (name other : String) (node : Node) :
    (listing.put name node).find? other =
      if name = other then some node else listing.find? other := by
  induction listing using entries_induction with
  | nil => exact find?_cons node name other .nil
  | cons n first rest _ ih =>
    rw [put_cons]
    split
    · grind [find?_cons]
    · split <;> grind [find?_cons]

theorem find?_put_self (listing : Listing) (name : String) (node : Node) :
    (listing.put name node).find? name = some node := by
  rw [find?_put, if_pos rfl]

theorem find?_put_other (listing : Listing) (node : Node) (differs : name ≠ other) :
    (listing.put name node).find? other = listing.find? other := by
  rw [find?_put, if_neg differs]

theorem find?_erase (listing : Listing) (name other : String) :
    (listing.erase name).find? other = if name = other then none else listing.find? other := by
  induction listing using entries_induction with
  | nil => exact (ite_self none).symm
  | cons n first rest _ ih =>
    rw [erase_cons]
    split <;> grind [find?_cons]

theorem put_put_self (listing : Listing) (name : String) (one two : Node) :
    (listing.put name one).put name two = listing.put name two := by
  induction listing using entries_induction with
  | nil => rw [put, put_cons, if_pos rfl, put]
  | cons n first rest _ ih => grind [put_cons]

theorem put_comm (listing : Listing) {first second : String} (one two : Node)
    (differs : first ≠ second) :
    (listing.put first one).put second two = (listing.put second two).put first one := by
  induction listing using entries_induction with
  | nil => grind [put, put_cons]
  | cons n other rest _ ih => grind [put_cons]

theorem at?_congr {one two : Listing} (name : String) (same : two.find? name = one.find? name)
    (rest : List String) : two.at? (name :: rest) = one.at? (name :: rest) := by
  cases rest with
  | nil => exact same
  | cons second rest => simp only [at?, same]

theorem at?_directory (found : top.find? name = some (.directory entries)) (rest : List String) :
    top.at? (name :: rest) = entries.at? rest := by
  cases rest with
  | nil => exact found
  | cons second rest => simp [at?, found]

theorem at?_put_other (top : Listing) (node : Node) (differs : name ≠ other) (rest : List String) :
    (top.put name node).at? (other :: rest) = top.at? (other :: rest) :=
  at?_congr other (find?_put_other top node differs) rest

theorem at?_put_cases (top : Listing) (name : String) (node : Node) (here : List String) :
    here = [] ∨ (∃ rest, here = name :: rest) ∨ (top.put name node).at? here = top.at? here := by
  cases here with
  | nil => exact .inl rfl
  | cons first rest =>
    by_cases same : name = first
    · exact .inr (.inl ⟨rest, same ▸ rfl⟩)
    · exact .inr (.inr (at?_put_other top node same rest))

theorem at?_stopped (stopped : ∀ entries, top.find? name ≠ some (.directory entries))
    (proper : rest ≠ []) : top.at? (name :: rest) = none := by
  obtain ⟨second, rest, rfl⟩ := List.exists_cons_of_ne_nil proper
  simp only [at?]

theorem at?_inside (held : top.at? (name :: rest) = some node) (proper : rest ≠ []) :
    ∃ entries, top.find? name = some (.directory entries) ∧ entries.at? rest = some node := by
  by_cases inside : ∃ entries, top.find? name = some (.directory entries)
  · obtain ⟨entries, found⟩ := inside
    exact ⟨entries, found, (at?_directory found rest).symm.trans held⟩
  · rw [at?_stopped (fun entries found => inside ⟨entries, found⟩) proper] at held
    cases held

/-- Induction along a place, from directory to directory. -/
@[elab_as_elim]
theorem place_induction {motive : Listing → List String → Prop} (root : ∀ top, motive top [])
    (entry : ∀ top name, motive top [name])
    (deeper : ∀ top name entries rest, top.find? name = some (.directory entries) → rest ≠ [] →
      motive entries rest → motive top (name :: rest))
    (stopped : ∀ top name rest, (∀ entries, top.find? name ≠ some (.directory entries)) →
      rest ≠ [] → motive top (name :: rest))
    (top : Listing) (place : List String) : motive top place := by
  induction place generalizing top with
  | nil => exact root top
  | cons name rest ih =>
    by_cases last : rest = []
    · subst last
      exact entry top name
    · by_cases inside : ∃ entries, top.find? name = some (.directory entries)
      · obtain ⟨entries, found⟩ := inside
        exact deeper top name entries rest found last (ih entries)
      · exact stopped top name rest (fun entries found => inside ⟨entries, found⟩) last

@[elab_as_elim]
theorem at?_induction
    {motive : (top : Listing) → (place : List String) → top.at? place = some node → Prop}
    (root : ∀ {top} (held : top.at? [] = some node), node = .directory top → motive top [] held)
    (entry : ∀ {top name} (found : top.find? name = some node), motive top [name] found)
    (deeper : ∀ {top name entries rest} (found : top.find? name = some (.directory entries))
      (below : entries.at? rest = some node), rest ≠ [] → motive entries rest below →
        motive top (name :: rest) ((at?_directory found rest).trans below))
    {place : List String} (held : top.at? place = some node) : motive top place held := by
  induction top, place using place_induction with
  | root top => exact root held (Option.some.inj held).symm
  | entry top name => exact entry held
  | deeper top name entries rest found proper ih =>
    have below := (at?_directory found rest).symm.trans held
    exact deeper found below proper (ih below)
  | stopped top name rest stopped proper =>
    obtain ⟨entries, found, -⟩ := at?_inside held proper
    exact absurd found (stopped entries)

theorem at?_append (held : top.at? here = some (.directory entries)) (rest : List String) :
    top.at? (here ++ rest) = entries.at? rest := by
  induction held using at?_induction with
  | root held same => rw [Node.directory.inj same, List.nil_append]
  | entry found => exact at?_directory found rest
  | deeper found below _ ih => rw [List.cons_append, at?_directory found, ih]

theorem at?_concat (held : top.at? here = some (.directory entries)) (name : String) :
    top.at? (here ++ [name]) = entries.find? name := at?_append held [name]

theorem at?_above (more : rest ≠ []) (held : top.at? (here ++ rest) = some node) :
    ∃ entries, top.at? here = some (.directory entries) := by
  induction here generalizing top with
  | nil => exact ⟨top, rfl⟩
  | cons first here ih =>
    obtain ⟨entries, found, below⟩ := at?_inside held (List.append_ne_nil_of_right_ne_nil here more)
    rw [at?_directory found]
    exact ih below

theorem putAt_deeper (found : top.find? name = some (.directory entries)) (proper : rest ≠ [])
    (node : Node) :
    top.putAt (name :: rest) node = top.put name (.directory (entries.putAt rest node)) := by
  obtain ⟨second, rest, rfl⟩ := List.exists_cons_of_ne_nil proper
  simp [putAt, found]

theorem putAt_stopped (stopped : ∀ entries, top.find? name ≠ some (.directory entries))
    (proper : rest ≠ []) (node : Node) : top.putAt (name :: rest) node = top := by
  obtain ⟨second, rest, rfl⟩ := List.exists_cons_of_ne_nil proper
  simp only [putAt]

theorem eraseAt_deeper (found : top.find? name = some (.directory entries)) (proper : rest ≠ []) :
    top.eraseAt (name :: rest) = top.put name (.directory (entries.eraseAt rest)) := by
  obtain ⟨second, rest, rfl⟩ := List.exists_cons_of_ne_nil proper
  simp [eraseAt, found]

end LineSieve.Listing
