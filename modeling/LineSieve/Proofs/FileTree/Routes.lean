import LineSieve.FileTree.Basic

/- The way along a path as a relation: one constructor for each way in which resolving a path ends
   or goes on, with what has been found out about the place and the name by then. Where a path leads
   is proved by induction over it, and its constructors say where the path leads in another tree. -/
namespace LineSieve

def Idle (name : String) : Prop := (name = "" || name = ".") = true

instance (name : String) : Decidable (Idle name) :=
  inferInstanceAs (Decidable ((name = "" || name = ".") = true))

/-- A component of a path that is looked up in the directory it has come to. -/
structure PlainName (name : String) : Prop where
  busy : ¬ Idle name
  level : name ≠ ".."
  short : ¬ FileTree.maxNameBytes < name.utf8ByteSize

namespace FileTree

/-- The names `todo` lead from the place `here` to a result. -/
inductive Routed (top : Listing) (follow : Bool) :
    Nat → List String → List String → Except FileFault Place → Prop where
  | arrived {links : Nat} {here : List String} {node : Node} (held : top.at? here = some node) :
      Routed top follow links here [] (.ok (.found here node))
  | lost {links : Nat} {here : List String} (missing : top.at? here = none) :
      Routed top follow links here [] (.error .notFound)
  | blocked {links : Nat} {here rest : List String} {name : String}
      (single : ∀ entries, top.at? here ≠ some (.directory entries)) :
      Routed top follow links here (name :: rest) (.error .notDirectory)
  | idle {links : Nat} {here rest : List String} {name : String} {entries : Listing}
      {result : Except FileFault Place} (held : top.at? here = some (.directory entries))
      (idle : Idle name) (later : Routed top follow links here rest result) :
      Routed top follow links here (name :: rest) result
  | rise {links : Nat} {here rest : List String} {entries : Listing}
      {result : Except FileFault Place} (held : top.at? here = some (.directory entries))
      (later : Routed top follow links here.dropLast rest result) :
      Routed top follow links here (".." :: rest) result
  | long {links : Nat} {here rest : List String} {name : String} {entries : Listing}
      (held : top.at? here = some (.directory entries)) (busy : ¬ Idle name) (level : name ≠ "..")
      (long : maxNameBytes < name.utf8ByteSize) :
      Routed top follow links here (name :: rest) (.error .nameTooLong)
  | vacant {links : Nat} {here rest : List String} {name : String} {entries : Listing}
      (held : top.at? here = some (.directory entries)) (plain : PlainName name)
      (missing : entries.find? name = none) (ends : rest.all (· = "") = true) :
      Routed top follow links here (name :: rest) (.ok (.free here name (!rest.isEmpty)))
  | absent {links : Nat} {here rest : List String} {name : String} {entries : Listing}
      (held : top.at? here = some (.directory entries)) (plain : PlainName name)
      (missing : entries.find? name = none) (more : ¬ rest.all (· = "") = true) :
      Routed top follow links here (name :: rest) (.error .notFound)
  | kept {links : Nat} {here : List String} {name target : String} {entries : Listing}
      (held : top.at? here = some (.directory entries)) (plain : PlainName name)
      (link : entries.find? name = some (.link target)) (lax : follow = false) :
      Routed top follow links here [name] (.ok (.found (here ++ [name]) (.link target)))
  | hollow {links : Nat} {here rest : List String} {name : String} {entries : Listing}
      (held : top.at? here = some (.directory entries)) (plain : PlainName name)
      (link : entries.find? name = some (.link "")) (followed : rest ≠ [] ∨ follow = true) :
      Routed top follow links here (name :: rest) (.error .notFound)
  | exhausted {here rest : List String} {name target : String} {entries : Listing}
      (held : top.at? here = some (.directory entries)) (plain : PlainName name)
      (link : entries.find? name = some (.link target)) (followed : rest ≠ [] ∨ follow = true)
      (proper : target ≠ "") :
      Routed top follow 0 here (name :: rest) (.error .tooManyLinks)
  | turn {links : Nat} {here rest : List String} {name target : String} {entries : Listing}
      {result : Except FileFault Place} (held : top.at? here = some (.directory entries))
      (plain : PlainName name) (link : entries.find? name = some (.link target))
      (followed : rest ≠ [] ∨ follow = true) (proper : target ≠ "")
      (later : Routed top follow links (if isRooted target then [] else here)
        (names target ++ rest) result) :
      Routed top follow (links + 1) here (name :: rest) result
  | descend {links : Nat} {here rest : List String} {name : String} {entries : Listing} {node : Node}
      {result : Except FileFault Place} (held : top.at? here = some (.directory entries))
      (plain : PlainName name) (entry : entries.find? name = some node)
      (unlinked : ∀ target, node ≠ .link target)
      (later : Routed top follow links (here ++ [name]) rest result) :
      Routed top follow links here (name :: rest) result

theorem followed_iff {follow : Bool} {rest : List String} :
    rest ≠ [] ∨ follow = true ↔ (rest.isEmpty && !follow) = false := by
  cases rest <;> cases follow <;> simp

theorem routed (top : Listing) (follow : Bool) (links : Nat) (here todo : List String) :
    Routed top follow links here todo (resolveFrom top follow links here todo) := by
  fun_induction resolveFrom top follow links here todo with
  | case1 _ _ _ held => exact .arrived held
  | case2 _ _ missing => exact .lost missing
  | case3 _ _ _ _ _ held skip ih => exact .idle held skip ih
  | case4 _ _ _ _ held _ ih => exact .rise held ih
  | case5 _ _ _ _ _ held skip up long => exact .long held skip up long
  | case6 _ _ _ _ _ held skip up long missing ends =>
    exact .vacant held ⟨skip, up, long⟩ missing ends
  | case7 _ _ _ _ _ held skip up long missing more =>
    exact .absent held ⟨skip, up, long⟩ missing more
  | case8 _ _ _ _ _ held skip up long target link last =>
    obtain ⟨rfl, lax⟩ : _ = [] ∧ follow = false := by simpa using last
    exact .kept held ⟨skip, up, long⟩ link lax
  | case9 _ _ _ _ _ held skip up long more link =>
    exact .hollow held ⟨skip, up, long⟩ link (followed_iff.mpr (by simpa using more))
  | case10 _ _ _ _ held skip up long target link more proper =>
    exact .exhausted held ⟨skip, up, long⟩ link (followed_iff.mpr (by simpa using more)) proper
  | case11 _ _ _ _ held skip up long target link more proper links ih =>
    exact .turn held ⟨skip, up, long⟩ link (followed_iff.mpr (by simpa using more)) proper ih
  | case12 _ _ _ _ _ held skip up long node unlinked entry ih =>
    exact .descend held ⟨skip, up, long⟩ entry unlinked ih
  | case13 _ _ _ _ single => exact .blocked single

section Equation

variable {top entries : Listing} {follow : Bool} {links : Nat} {here todo rest : List String}
  {name : String} {result : Except FileFault Place}

theorem resolveFrom_plain (held : top.at? here = some (.directory entries))
    (plain : PlainName name) :
    resolveFrom top follow links here (name :: rest) =
      match entries.find? name with
      | none =>
        if rest.all (· = "") then .ok (.free here name (!rest.isEmpty)) else .error .notFound
      | some (.link target) =>
        if rest.isEmpty && !follow then .ok (.found (here ++ [name]) (.link target))
        else if target = "" then .error .notFound
        else
          match links with
          | 0 => .error .tooManyLinks
          | links + 1 =>
            resolveFrom top follow links (if isRooted target then [] else here)
              (names target ++ rest)
      | some _ => resolveFrom top follow links (here ++ [name]) rest := by
  rw [resolveFrom, held]
  exact (if_neg plain.busy).trans ((if_neg plain.level).trans (if_neg plain.short))

theorem Routed.eq (routed : Routed top follow links here todo result) :
    resolveFrom top follow links here todo = result := by
  induction routed with
  | arrived held => rw [resolveFrom, held]
  | lost missing => rw [resolveFrom, missing]
  | blocked single =>
    rw [resolveFrom]
    split
    · rename_i entries held
      exact absurd held (single entries)
    · rfl
  | idle held idle later ih =>
    unfold Idle at idle
    rw [resolveFrom]
    simp only [held, idle, ↓reduceIte, ih]
  | rise held later ih =>
    have busy : ((".." : String) = "" || (".." : String) = ".") = false := by decide
    rw [resolveFrom]
    simp only [held, busy, Bool.false_eq_true, ↓reduceIte, ih]
  | long held busy level long =>
    unfold Idle at busy
    rw [resolveFrom]
    simp only [held, busy, level, long, Bool.false_eq_true, ↓reduceIte]
  | vacant held plain missing ends =>
    rw [resolveFrom_plain held plain, missing]
    exact if_pos ends
  | absent held plain missing more =>
    rw [resolveFrom_plain held plain, missing]
    exact if_neg more
  | kept held plain link lax =>
    rw [resolveFrom_plain held plain, link, lax]
    rfl
  | hollow held plain link followed =>
    rw [resolveFrom_plain held plain, link]
    simp only [followed_iff.mp followed, Bool.false_eq_true, ↓reduceIte]
  | exhausted held plain link followed proper =>
    rw [resolveFrom_plain held plain, link]
    simp only [followed_iff.mp followed, proper, Bool.false_eq_true, ↓reduceIte]
  | turn held plain link followed proper later ih =>
    rw [resolveFrom_plain held plain, link]
    simp only [followed_iff.mp followed, proper, Bool.false_eq_true, ↓reduceIte, ih]
  | descend held plain entry unlinked later ih =>
    rw [resolveFrom_plain held plain, entry]
    simp only [ih]

theorem routed_iff :
    Routed top follow links here todo result ↔ resolveFrom top follow links here todo = result :=
  ⟨Routed.eq, fun same => same ▸ routed top follow links here todo⟩

theorem Routed.unique {other : Except FileFault Place}
    (one : Routed top follow links here todo result)
    (two : Routed top follow links here todo other) : result = other := one.eq.symm.trans two.eq

end Equation

end FileTree

end LineSieve
