import LineSieve.Proofs.FileTree.Rooted
import Mathlib.Logic.Function.Basic

/- A tree seen place by place. Putting something at a place, or taking it away, leaves what all
   other places hold; so what a chain of such changes comes to is read off from updates of one
   function. -/
namespace LineSieve

/-- What a place holds; of a directory only that it is one. -/
inductive Item where
  | file (content : ByteArray)
  | link (target : String)
  | directory

namespace Item

def kind : Item → NodeKind
  | .file _ => .file
  | .link target => .link target
  | .directory => .directory

def content? : Item → Option ByteArray
  | .file content => some content
  | _ => none

end Item

namespace Node

def item : Node → Item
  | .file content => .file content
  | .link target => .link target
  | .directory _ => .directory

theorem kind_item (node : Node) : node.item.kind = node.kind := by
  cases node <;> rfl

def Leaf (node : Node) : Prop := ∀ entries, node = .directory entries → entries = .nil

theorem leaf_file (content : ByteArray) : (Node.file content).Leaf := nofun

end Node

namespace Listing

def item? (top : Listing) (place : List String) : Option Item := (top.at? place).map Node.item

/-- The content of the regular file at a place. -/
def file? (top : Listing) (place : List String) : Option ByteArray :=
  (top.item? place).bind Item.content?

variable {top other entries : Listing} {place rest : List String} {name : String} {node : Node}
  {content : ByteArray}

theorem item?_eq_file : top.item? place = some (.file content) ↔
    top.at? place = some (.file content) := by
  unfold item?
  cases top.at? place with
  | none => simp
  | some node => cases node <;> simp [Node.item]

theorem item?_eq_directory : top.item? place = some .directory ↔
    ∃ entries, top.at? place = some (.directory entries) := by
  unfold item?
  cases top.at? place with
  | none => simp
  | some node => cases node <;> simp [Node.item]

theorem item?_of_at? (held : top.at? place = some node) : top.item? place = some node.item := by
  rw [item?, held]
  rfl

theorem at?_below_leaf (leaf : ∀ node, top.find? name = some node → node.Leaf)
    (more : rest ≠ []) : top.at? (name :: rest) = none := by
  cases held : top.at? (name :: rest) with
  | none => rfl
  | some node =>
    obtain ⟨entries, found, below⟩ := at?_inside held more
    obtain rfl := leaf _ found entries rfl
    obtain ⟨second, rest, rfl⟩ := List.exists_cons_of_ne_nil more
    cases rest <;> cases below

theorem item?_of_entries (others : ∀ n, name ≠ n → other.find? n = top.find? n)
    (before : ∀ node, top.find? name = some node → node.Leaf)
    (after : ∀ node, other.find? name = some node → node.Leaf) (here : List String) :
    other.item? here =
      if here = [name] then (other.find? name).map Node.item else top.item? here := by
  unfold item?
  cases here with
  | nil => rfl
  | cons first rest =>
    by_cases same : name = first
    · subst same
      by_cases last : rest = []
      · subst last
        rw [if_pos rfl]
        rfl
      · rw [at?_below_leaf before last, at?_below_leaf after last, if_neg (by simp [last])]
    · rw [at?_congr first (others first same), if_neg]
      rintro ⟨⟩
      exact same rfl

theorem item?_put_directory {inner : Listing} {item : Option Item}
    (found : top.find? name = some (.directory entries))
    (below : ∀ here, inner.item? here = if here = place then item else entries.item? here)
    (here : List String) :
    (top.put name (.directory inner)).item? here =
      if here = name :: place then item else top.item? here := by
  unfold item? at below ⊢
  cases here with
  | nil => rfl
  | cons first rest =>
    by_cases same : name = first
    · subst same
      rw [at?_directory (find?_put_self top name _), at?_directory found, below]
      simp only [List.cons.injEq, true_and]
    · rw [at?_put_other top _ same, if_neg]
      rintro ⟨⟩
      exact same rfl

theorem find?_of_above {first : String} {parent : List String}
    (above : top.item? (first :: parent) = some .directory) :
    ∃ entries, top.find? first = some (.directory entries) ∧
      entries.item? parent = some .directory := by
  obtain ⟨inner, held⟩ := item?_eq_directory.mp above
  obtain ⟨entries, found⟩ : ∃ entries, top.at? [first] = some (.directory entries) := by
    by_cases last : parent = []
    · subst last
      exact ⟨inner, held⟩
    · have held : top.at? ([first] ++ parent) = some (.directory inner) := held
      exact at?_above last held
  refine ⟨entries, found, item?_eq_directory.mpr ⟨inner, ?_⟩⟩
  rw [← at?_directory found, held]

theorem item?_above {item : Item} (held : top.item? place = some item) (single : item ≠ .directory) :
    ∃ parent name, place = parent ++ [name] ∧ top.item? parent = some .directory := by
  rcases List.eq_nil_or_concat' place with rfl | ⟨parent, name, rfl⟩
  · cases held
    exact absurd rfl single
  · obtain ⟨node, there, -⟩ := Option.map_eq_some_iff.mp held
    exact ⟨parent, name, rfl, item?_eq_directory.mpr (at?_above (List.cons_ne_nil _ _) there)⟩

theorem leaf_of_single (single : top.item? place ≠ some .directory)
    (held : top.at? place = some node) : node.Leaf := by
  rintro entries rfl
  exact absurd (item?_of_at? held) single

variable {parent : List String}

theorem item?_putAt (above : top.item? parent = some .directory)
    (single : top.item? (parent ++ [name]) ≠ some .directory) (leaf : node.Leaf) :
    (top.putAt (parent ++ [name]) node).item? =
      Function.update top.item? (parent ++ [name]) (some node.item) := by
  funext here
  rw [Function.update_apply]
  induction parent generalizing top here with
  | nil =>
    have self := find?_put_self top name node
    change (top.put name node).item? here = _
    rw [item?_of_entries (fun _ => find?_put_other top node) (fun _ => leaf_of_single single), self]
    · rfl
    · rw [self]
      rintro _ ⟨⟩
      exact leaf
  | cons first parent ih =>
    obtain ⟨entries, found, above⟩ := find?_of_above above
    rw [List.cons_append, putAt_deeper found (List.append_ne_nil_of_right_ne_nil _ (by simp))]
    refine item?_put_directory found (ih above ?_) here
    rwa [item?, List.cons_append, at?_directory found] at single

theorem item?_eraseAt (above : top.item? parent = some .directory)
    (single : top.item? (parent ++ [name]) ≠ some .directory) :
    (top.eraseAt (parent ++ [name])).item? =
      Function.update top.item? (parent ++ [name]) none := by
  funext here
  rw [Function.update_apply]
  induction parent generalizing top here with
  | nil =>
    have self : (top.erase name).find? name = none := by rw [find?_erase, if_pos rfl]
    have others : ∀ n, name ≠ n → (top.erase name).find? n = top.find? n := fun n differs => by
      rw [find?_erase, if_neg differs]
    change (top.erase name).item? here = _
    rw [item?_of_entries others (fun _ => leaf_of_single single), self]
    · rfl
    · rw [self]
      nofun
  | cons first parent ih =>
    obtain ⟨entries, found, above⟩ := find?_of_above above
    rw [List.cons_append, eraseAt_deeper found (List.append_ne_nil_of_right_ne_nil _ (by simp))]
    refine item?_put_directory found (ih above ?_) here
    rwa [item?, List.cons_append, at?_directory found] at single

end Listing

structure FileTree.Matches (tree now : FileTree) : Prop where
  origin : now.origin = tree.origin
  items : now.top.item? = tree.top.item?

/-- Two trees differ in what one place holds, if in anything. -/
structure FileTree.Alters (tree now : FileTree) (place : List String) (item : Option Item) :
    Prop where
  origin : now.origin = tree.origin
  items : now.top.item? = Function.update tree.top.item? place item

namespace FileTree.Alters

variable {one two three : FileTree} {place here : List String} {item later : Option Item}

theorem trans (first : one.Alters two place item) (second : two.Alters three place later) :
    one.Alters three place later where
  origin := second.origin.trans first.origin
  items := by rw [second.items, first.items, Function.update_idem]

theorem elsewhere (alters : one.Alters two place item) (other : here ≠ place) :
    two.top.item? here = one.top.item? here := by
  rw [alters.items, Function.update_of_ne other]

theorem self (alters : one.Alters two place item) : two.top.item? place = item := by
  rw [alters.items, Function.update_self]

theorem undone (first : one.Alters two place item)
    (second : two.Alters three place (one.top.item? place)) : one.Matches three where
  origin := second.origin.trans first.origin
  items := by rw [(first.trans second).items, Function.update_eq_self]

theorem files (alters : one.Alters two place item) :
    two.top.file? = Function.update one.top.file? place (item.bind Item.content?) := by
  funext here
  unfold Listing.file?
  by_cases same : here = place
  · rw [same, alters.self, Function.update_self]
  · rw [alters.elsewhere same, Function.update_of_ne same]

end FileTree.Alters

end LineSieve
