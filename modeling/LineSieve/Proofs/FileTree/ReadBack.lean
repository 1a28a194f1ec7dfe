import LineSieve.Proofs.FileTree.Listing
import LineSieve.Proofs.FileTree.Routes

/- Reading a file that has just been written. Writing a file changes the content at one place and
   nothing else that the resolution of paths looks at, so every path leads where it led before. -/
namespace LineSieve

inductive NodeKind where
  | file
  | link (target : String)
  | directory
  deriving DecidableEq, Repr

namespace Node

def kind : Node → NodeKind
  | .file _ => .file
  | .link target => .link target
  | .directory _ => .directory

variable {node : Node}

theorem kind_eq_file : node.kind = .file ↔ ∃ content, node = .file content := by
  cases node <;> simp [kind]

theorem kind_eq_link {target : String} : node.kind = .link target ↔ node = .link target := by
  cases node <;> simp [kind]

theorem kind_eq_directory : node.kind = .directory ↔ ∃ entries, node = .directory entries := by
  cases node <;> simp [kind]

end Node

/-- Where a path leads, without the content of what is there. -/
inductive Outline where
  | found (place : List String) (kind : NodeKind)
  | free (parent : List String) (name : String) (slash : Bool)
  deriving DecidableEq, Repr

def Place.outline : Place → Outline
  | .found place node => .found place node.kind
  | .free parent name slash => .free parent name slash

namespace Listing

theorem at?_putAt_self {top : Listing} {place : List String} {old : ByteArray}
    (held : top.at? place = some (.file old)) (content : ByteArray) :
    (top.putAt place (.file content)).at? place = some (.file content) := by
  induction held using at?_induction with
  | root held same => cases same
  | entry found => exact find?_put_self _ _ _
  | deeper found below proper ih =>
    rw [putAt_deeper found proper, at?_directory (find?_put_self _ _ _), ih]

theorem kind_putAt {top : Listing} {place : List String} {old : ByteArray}
    (held : top.at? place = some (.file old)) (content : ByteArray) (here : List String) :
    ((top.putAt place (.file content)).at? here).map Node.kind = (top.at? here).map Node.kind := by
  induction held using at?_induction generalizing here with
  | root held same => cases same
  | @entry top name found =>
    change ((top.put name (.file content)).at? here).map Node.kind = _
    have put := find?_put_self top name (.file content)
    rcases at?_put_cases top name (.file content) here with rfl | ⟨more, rfl⟩ | same
    · rfl
    · by_cases last : more = []
      · subst last
        change ((top.put name (.file content)).find? name).map Node.kind = (top.find? name).map _
        rw [put, found]
        rfl
      · rw [at?_stopped (by simp [put]) last, at?_stopped (by simp [found]) last]
    · rw [same]
  | @deeper top name entries rest found below proper ih =>
    rw [putAt_deeper found proper]
    rcases at?_put_cases top name (.directory (entries.putAt rest _)) here with
      rfl | ⟨more, rfl⟩ | same
    · rfl
    · rw [at?_directory (find?_put_self top name _), at?_directory found, ih]
    · rw [same]

end Listing

namespace FileTree

/-- Two trees with the same kind of node at every place. -/
def Alike (one two : Listing) : Prop :=
  ∀ here, (two.at? here).map Node.kind = (one.at? here).map Node.kind

theorem kind_directory {one two : Option Node} (same : two.map Node.kind = one.map Node.kind)
    {entries : Listing} (held : one = some (.directory entries)) :
    ∃ others, two = some (.directory others) := by
  rw [held] at same
  obtain ⟨node, found, kind⟩ := Option.map_eq_some_iff.mp same
  obtain ⟨others, rfl⟩ := Node.kind_eq_directory.mp kind
  exact ⟨others, found⟩

theorem Alike.directory {one two entries : Listing} {here : List String} (alike : Alike one two)
    (held : one.at? here = some (.directory entries)) :
    ∃ others, two.at? here = some (.directory others) ∧
      ∀ name, (others.find? name).map Node.kind = (entries.find? name).map Node.kind := by
  obtain ⟨others, found⟩ := kind_directory (alike here) held
  refine ⟨others, found, fun name => ?_⟩
  rw [← Listing.at?_concat held, ← Listing.at?_concat found]
  exact alike _

theorem Alike.no_directory {one two : Listing} {here : List String} (alike : Alike one two)
    (stopped : ∀ entries, one.at? here ≠ some (.directory entries)) (entries : Listing) :
    two.at? here ≠ some (.directory entries) := by
  intro found
  obtain ⟨others, held⟩ := kind_directory (alike here).symm found
  exact stopped others held

theorem Routed.found {top : Listing} {follow : Bool} {links : Nat} {here todo place : List String}
    {node : Node} (routed : Routed top follow links here todo (.ok (.found place node))) :
    top.at? place = some node := by
  generalize ended : Except.ok (Place.found place node) = result at routed
  induction routed with
  | arrived held =>
    cases ended
    exact held
  | kept held plain link lax =>
    cases ended
    rw [Listing.at?_concat held, link]
  | idle _ _ _ ih | rise _ _ ih | turn _ _ _ _ _ _ ih | descend _ _ _ _ _ ih => exact ih ended
  | lost | blocked | long | vacant | absent | hollow | exhausted => cases ended

theorem kind_link {one two : Option Node} (same : two.map Node.kind = one.map Node.kind)
    {target : String} (link : one = some (.link target)) : two = some (.link target) := by
  rw [link] at same
  obtain ⟨node, found, kind⟩ := Option.map_eq_some_iff.mp same
  rwa [Node.kind_eq_link.mp kind] at found

theorem kind_other {one two : Option Node} (same : two.map Node.kind = one.map Node.kind)
    {node : Node} (held : one = some node) (unlinked : ∀ target, node ≠ .link target) :
    ∃ other, two = some other ∧ ∀ target, other ≠ .link target := by
  rw [held] at same
  obtain ⟨other, found, kind⟩ := Option.map_eq_some_iff.mp same
  refine ⟨other, found, fun target link => unlinked target (Node.kind_eq_link.mp ?_)⟩
  rw [← kind, link, Node.kind]

theorem kind_none {one two : Option Node} (same : two.map Node.kind = one.map Node.kind)
    (missing : one = none) : two = none := by
  rw [missing] at same
  exact Option.map_eq_none_iff.mp same

theorem Routed.outline {one two : Listing} (alike : Alike one two) {follow : Bool} {links : Nat}
    {here todo : List String} {result : Except FileFault Place}
    (routed : Routed one follow links here todo result) :
    ∃ other, Routed two follow links here todo other ∧
      other.map Place.outline = result.map Place.outline := by
  -- Each step looks only at the kind of a place and of the entries below it.
  induction routed with
  | @arrived links here node held =>
    have kind := alike here
    rw [held] at kind
    obtain ⟨other, there, same⟩ := Option.map_eq_some_iff.mp kind
    exact ⟨_, .arrived there, by simp [Except.map, Place.outline, same]⟩
  | lost missing => exact ⟨_, .lost (kind_none (alike _) missing), rfl⟩
  | blocked single => exact ⟨_, .blocked (alike.no_directory single), rfl⟩
  | idle held idle later ih =>
    obtain ⟨others, found, -⟩ := alike.directory held
    obtain ⟨other, later, same⟩ := ih
    exact ⟨other, .idle found idle later, same⟩
  | rise held later ih =>
    obtain ⟨others, found, -⟩ := alike.directory held
    obtain ⟨other, later, same⟩ := ih
    exact ⟨other, .rise found later, same⟩
  | long held busy level long =>
    obtain ⟨others, found, -⟩ := alike.directory held
    exact ⟨_, .long found busy level long, rfl⟩
  | vacant held plain missing ends =>
    obtain ⟨others, found, kinds⟩ := alike.directory held
    exact ⟨_, .vacant found plain (kind_none (kinds _) missing) ends, rfl⟩
  | absent held plain missing more =>
    obtain ⟨others, found, kinds⟩ := alike.directory held
    exact ⟨_, .absent found plain (kind_none (kinds _) missing) more, rfl⟩
  | kept held plain link lax =>
    obtain ⟨others, found, kinds⟩ := alike.directory held
    exact ⟨_, .kept found plain (kind_link (kinds _) link) lax, rfl⟩
  | hollow held plain link followed =>
    obtain ⟨others, found, kinds⟩ := alike.directory held
    exact ⟨_, .hollow found plain (kind_link (kinds _) link) followed, rfl⟩
  | exhausted held plain link followed proper =>
    obtain ⟨others, found, kinds⟩ := alike.directory held
    exact ⟨_, .exhausted found plain (kind_link (kinds _) link) followed proper, rfl⟩
  | turn held plain link followed proper later ih =>
    obtain ⟨others, found, kinds⟩ := alike.directory held
    obtain ⟨other, later, same⟩ := ih
    exact ⟨other, .turn found plain (kind_link (kinds _) link) followed proper later, same⟩
  | descend held plain entry unlinked later ih =>
    obtain ⟨others, found, kinds⟩ := alike.directory held
    obtain ⟨inner, there, unlinked⟩ := kind_other (kinds _) entry unlinked
    obtain ⟨other, later, same⟩ := ih
    exact ⟨other, .descend found plain there unlinked later, same⟩

theorem resolve_found {tree : FileTree} {follow : Bool} {path : String} {place : List String}
    {node : Node} (led : tree.resolve follow path = .ok (.found place node)) :
    tree.top.at? place = some node := by
  unfold resolve at led
  split at led
  · cases led
  · exact (routed_iff.mpr led).found

theorem resolve_outline {tree : FileTree} {other : Listing} (alike : Alike tree.top other)
    (follow : Bool) (path : String) :
    (({ tree with top := other } : FileTree).resolve follow path).map Place.outline =
      (tree.resolve follow path).map Place.outline := by
  unfold resolve
  split
  · rfl
  · obtain ⟨other, led, same⟩ := (routed tree.top follow _ _ _).outline alike
    rw [led.eq, same]

theorem resolve_alike {tree : FileTree} {other : Listing} (alike : Alike tree.top other)
    {follow : Bool} {path : String} {place : List String} {node : Node}
    (led : tree.resolve follow path = .ok (.found place node)) :
    ∃ there, ({ tree with top := other } : FileTree).resolve follow path =
      .ok (.found place there) ∧ there.kind = node.kind := by
  have same := resolve_outline alike follow path
  rw [led] at same
  cases result : ({ tree with top := other } : FileTree).resolve follow path with
  | error fault =>
    rw [result] at same
    cases same
  | ok reached =>
    rw [result] at same
    have outline : reached.outline = .found place node.kind := Except.ok.inj same
    cases reached with
    | free parent name slash => cases outline
    | found at' there =>
      obtain ⟨rfl, kind⟩ := Outline.found.inj outline
      exact ⟨there, rfl, kind⟩

theorem readFile_ok_iff {tree : FileTree} {path : String} {content : ByteArray} :
    tree.readFile path = .ok content ↔
      ∃ place, tree.resolve true path = .ok (.found place (.file content)) := by
  unfold readFile node
  constructor
  · intro read
    split at read
    · next bytes reached =>
      split at reached
      · next place node led =>
        cases read
        cases reached
        exact ⟨place, led⟩
      · cases reached
      · cases reached
    · cases read
    · cases read
  · rintro ⟨place, led⟩
    rw [led]

theorem readFile_writeFile {tree after : FileTree} {path : String} {old content : ByteArray}
    (read : tree.readFile path = .ok old) (written : tree.writeFile path content = .ok after) :
    after.readFile path = .ok content := by
  obtain ⟨place, led⟩ := readFile_ok_iff.mp read
  have held := resolve_found led
  rw [writeFile, led] at written
  cases written
  obtain ⟨there, again, -⟩ := resolve_alike (Listing.kind_putAt held content) led
  have same := resolve_found again
  rw [Listing.at?_putAt_self held content] at same
  cases same
  exact readFile_ok_iff.mpr ⟨place, again⟩

end FileTree

end LineSieve
