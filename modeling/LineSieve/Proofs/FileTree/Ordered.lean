import LineSieve.Proofs.FileTree.Updates

/- The order of names. A directory lists its entries by strictly ascending names, and putting an
   entry into it keeps them so. -/
namespace LineSieve.Listing

/-- Every name is less than all names behind it, in each directory. -/
def Ordered : Listing → Prop
  | .nil => True
  | .file name _ rest => (∀ other node, rest.find? other = some node → name < other) ∧ rest.Ordered
  | .link name _ rest => (∀ other node, rest.find? other = some node → name < other) ∧ rest.Ordered
  | .directory name entries rest =>
    (∀ other node, rest.find? other = some node → name < other) ∧ rest.Ordered ∧ entries.Ordered

variable {name other : String} {node : Node} {rest listing entries : Listing}

theorem ordered_cons : (node.cons name rest).Ordered ↔
    (∀ other node, rest.find? other = some node → name < other) ∧ rest.Ordered ∧
      ∀ entries, node = .directory entries → entries.Ordered := by
  cases node <;> simp [Node.cons, Ordered]

theorem Ordered.find? (ordered : listing.Ordered)
    (found : listing.find? name = some (.directory entries)) : entries.Ordered := by
  induction listing using entries_induction with
  | nil => cases found
  | cons n first rest _ ih =>
    obtain ⟨-, later, inside⟩ := ordered_cons.mp ordered
    rw [find?_cons] at found
    split at found
    · cases found
      exact inside entries rfl
    · exact ih later found

theorem Ordered.at? {place : List String} (ordered : listing.Ordered)
    (held : listing.at? place = some (.directory entries)) : entries.Ordered := by
  induction held using at?_induction with
  | root held same => exact Node.directory.inj same ▸ ordered
  | entry found => exact ordered.find? found
  | deeper found below _ ih => exact ih (ordered.find? found)

theorem Ordered.put (ordered : listing.Ordered)
    (inside : ∀ entries, node = .directory entries → entries.Ordered) :
    (listing.put name node).Ordered := by
  induction listing using entries_induction with
  | nil => exact ordered_cons.mpr ⟨nofun, trivial, inside⟩
  | cons n first rest _ ih =>
    obtain ⟨less, later, inner⟩ := ordered_cons.mp ordered
    rw [put_cons]
    by_cases same : n = name
    · rw [if_pos same]
      exact ordered_cons.mpr ⟨same ▸ less, later, inside⟩
    rw [if_neg same]
    by_cases before : name < n
    · rw [if_pos before]
      refine ordered_cons.mpr ⟨fun other node found => ?_, ordered, inside⟩
      rw [find?_cons] at found
      split at found
      · next same => exact same ▸ before
      · exact String.lt_trans before (less other node found)
    · rw [if_neg before]
      refine ordered_cons.mpr ⟨fun other node found => ?_, ih later, inner⟩
      rw [find?_put] at found
      split at found
      · next same' =>
        subst same'
        exact String.not_le.mp fun below =>
          same (String.le_antisymm (String.not_lt.mp before) below)
      · exact less other node found

theorem Ordered.putAt (ordered : listing.Ordered) (place : List String)
    (inside : ∀ entries, node = .directory entries → entries.Ordered) :
    (listing.putAt place node).Ordered := by
  induction listing, place using place_induction with
  | root listing => exact ordered
  | entry listing name => exact ordered.put inside
  | deeper listing name entries rest found proper ih =>
    rw [putAt_deeper found proper]
    refine ordered.put ?_
    rintro inner ⟨⟩
    exact ih (ordered.find? found)
  | stopped listing name rest stopped proper => rwa [putAt_stopped stopped proper]

end LineSieve.Listing
