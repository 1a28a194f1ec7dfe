import LineSieve.Path
import LineSieve.Proofs.Text.LineEnds
import Mathlib.Data.List.TakeWhile

/- Cleaning paths. Clean paths are joined components, and joining goes on from a clean path with the
   components of what is joined to it. Taken from a directory, a path first goes up as far as its
   clean form does and then down by the same names. -/
namespace LineSieve.Path

/-- A component that names an entry. -/
structure Named (part : List Char) : Prop where
  proper : part ≠ []
  here : part ≠ ['.']
  up : part ≠ ['.', '.']
  clear : '/' ∉ part

instance (part : List Char) : Decidable (Named part) :=
  decidable_of_iff (part ≠ [] ∧ part ≠ ['.'] ∧ part ≠ ['.', '.'] ∧ '/' ∉ part)
    ⟨fun ⟨proper, here, up, clear⟩ => ⟨proper, here, up, clear⟩,
      fun named => ⟨named.proper, named.here, named.up, named.clear⟩⟩

section Parts

theorem parts_append (one two : List Char) : parts (one ++ '/' :: two) = parts one ++ parts two := by
  unfold parts
  induction one with
  | nil => simp [Text.splitOn]
  | cons c one ih =>
    rw [List.cons_append, Text.splitOn, Text.splitOn]
    split
    · rw [ih, List.cons_append]
    · rw [ih]
      cases split : Text.splitOn '/' one with
      | nil =>
        cases one with
        | nil => cases split
        | cons d one =>
          unfold Text.splitOn at split
          split at split
          · cases split
          · split at split <;> cases split
      | cons first rest => rfl

theorem parts_join {components : List (List Char)} (clear : ∀ part ∈ components, '/' ∉ part)
    (proper : components ≠ []) : parts (Text.join ['/'] components) = components := by
  induction components with
  | nil => exact absurd rfl proper
  | cons first rest ih =>
    obtain ⟨here, later⟩ := List.forall_mem_cons.mp clear
    cases rest with
    | nil => exact Text.splitOn_absent here
    | cons second rest =>
      rw [Text.join, List.append_assoc, List.singleton_append, parts, Text.splitOn_first here, ← parts,
        ih later (List.cons_ne_nil _ _)]

theorem join_eq_nil_iff {components : List (List Char)} (proper : ∀ part ∈ components, part ≠ []) :
    Text.join ['/'] components = [] ↔ components = [] := by
  cases components with
  | nil => simp [Text.join]
  | cons first rest =>
    have here := proper first List.mem_cons_self
    cases rest with
    | nil => simp [Text.join, here]
    | cons second rest => simp [Text.join]

theorem reverse_clear {part : List Char} (clear : '/' ∉ part) :
    ∀ c ∈ part.reverse, (c != '/') = true := by
  intro c listed
  have differs : c ≠ '/' := fun same => clear (same ▸ List.mem_reverse.mp listed)
  simpa using differs

theorem afterSlash_append (front : List Char) {part : List Char} (clear : '/' ∉ part) :
    afterSlash (front ++ '/' :: part) = part := by
  rw [afterSlash, List.reverse_append, List.reverse_cons, List.append_assoc,
    List.takeWhile_append_of_pos (reverse_clear clear)]
  simp

theorem afterSlash_clear {part : List Char} (clear : '/' ∉ part) : afterSlash part = part := by
  rw [afterSlash, List.takeWhile_eq_self_iff.mpr (reverse_clear clear), List.reverse_reverse]

theorem parts_last (path : List Char) : (parts path).getLast? = some (afterSlash path) := by
  by_cases slash : '/' ∈ path
  · obtain ⟨part, front, reversed, clear⟩ :=
      List.eq_append_cons_of_mem (List.mem_reverse.mpr slash)
    obtain rfl : path = front.reverse ++ '/' :: part.reverse := by
      rw [← List.reverse_reverse path, reversed]
      simp
    have clear : '/' ∉ part.reverse := fun listed => clear (List.mem_reverse.mp listed)
    have last : parts part.reverse = [part.reverse] := Text.splitOn_absent clear
    rw [afterSlash_append _ clear, parts_append, last, List.getLast?_concat]
  · have single : parts path = [path] := Text.splitOn_absent slash
    rw [afterSlash_clear slash, single]
    rfl

theorem afterSlash_base (path : List Char) : afterSlash path = [] ∨ afterSlash path = base path := by
  cases ends : path.reverse with
  | nil =>
    rw [List.reverse_eq_nil_iff.mp ends]
    exact .inl rfl
  | cons last rest =>
    obtain rfl : path = rest.reverse ++ [last] := by
      rw [← List.reverse_reverse path, ends, List.reverse_cons]
    by_cases slash : last = '/'
    · subst slash
      exact .inl (afterSlash_append _ List.not_mem_nil)
    · refine .inr ?_
      rw [base]
      simp [slash]

theorem join_concat (front : List (List Char)) (part : List Char) :
    Text.join ['/'] (front ++ [part]) = part ∧ front = [] ∨
      ∃ before, Text.join ['/'] (front ++ [part]) = before ++ '/' :: part := by
  induction front with
  | nil => exact .inl ⟨rfl, rfl⟩
  | cons first front ih =>
    obtain ⟨second, rest, more⟩ : ∃ second rest, front ++ [part] = second :: rest :=
      List.exists_cons_of_ne_nil (by simp)
    rw [List.cons_append, more, Text.join, ← more]
    rcases ih with ⟨only, -⟩ | ⟨before, joined⟩
    · rw [only]
      exact .inr ⟨first, by simp⟩
    · rw [joined]
      exact .inr ⟨first ++ '/' :: before, by simp⟩

end Parts

section Push

variable {rooted : Bool} {stack below names : List (List Char)} {part : List Char}

def up : List Char := ['.', '.']

theorem push_named (named : Named part) : pushPart rooted stack part = part :: stack := by
  simp [pushPart, named.proper, named.here, named.up]

theorem fold_named (named : ∀ part ∈ names, Named part) :
    names.foldl (pushPart rooted) stack = names.reverse ++ stack := by
  induction names generalizing stack with
  | nil => rfl
  | cons first names ih =>
    obtain ⟨here, later⟩ := List.forall_mem_cons.mp named
    rw [List.foldl_cons, push_named here, ih later, List.reverse_cons, List.append_assoc]
    rfl

/-- Components that leave a relative path below some double dots: the names, and how far up it goes.
The same components take a rooted stack up as far and down by the same names. -/
theorem push_lifts (clear : '/' ∉ part) (named : ∀ part ∈ names, Named part)
    (named' : ∀ part ∈ below, Named part) (height : Nat) :
    ∃ names' height', (∀ part ∈ names', Named part) ∧
      pushPart false (names ++ List.replicate height up) part =
        names' ++ List.replicate height' up ∧
      pushPart true (names ++ below.drop height) part = names' ++ below.drop height' := by
  by_cases idle : part = [] ∨ part = ['.']
  · refine ⟨names, height, named, ?_, ?_⟩ <;> rcases idle with rfl | rfl <;> rfl
  · obtain ⟨proper, here⟩ := not_or.mp idle
    by_cases double : part = up
    · subst double
      cases names with
      | cons first names =>
        obtain ⟨keeps, later⟩ := List.forall_mem_cons.mp named
        refine ⟨names, height, later, ?_, ?_⟩ <;> simp [pushPart, up, keeps.up]
      | nil =>
        refine ⟨[], height + 1, named, ?_, ?_⟩
        · cases height with
          | zero => rfl
          | succ height => simp [pushPart, up, List.replicate_succ]
        · rw [← List.drop_drop, List.nil_append, List.nil_append]
          cases rest : below.drop height with
          | nil => rfl
          | cons top deeper =>
            have keeps := named' top (List.drop_subset height below (rest ▸ List.mem_cons_self))
            simp [pushPart, up, keeps.up]
    · have fresh : Named part := ⟨proper, here, double, clear⟩
      refine ⟨part :: names, height, ?_, push_named fresh, push_named fresh⟩
      exact List.forall_mem_cons.mpr ⟨fresh, named⟩

theorem fold_lifts (components names below : List (List Char))
    (clear : ∀ part ∈ components, '/' ∉ part) (named : ∀ part ∈ names, Named part)
    (named' : ∀ part ∈ below, Named part) (height : Nat) :
    ∃ names' height', (∀ part ∈ names', Named part) ∧
      components.foldl (pushPart false) (names ++ List.replicate height up) =
        names' ++ List.replicate height' up ∧
      components.foldl (pushPart true) (names ++ below.drop height) =
        names' ++ below.drop height' := by
  induction components generalizing names height with
  | nil => exact ⟨names, height, named, rfl, rfl⟩
  | cons first components ih =>
    obtain ⟨here, later⟩ := List.forall_mem_cons.mp clear
    obtain ⟨names', height', kept, relative, rooted⟩ := push_lifts here named named' height
    rw [List.foldl_cons, List.foldl_cons, relative, rooted]
    exact ih _ later kept height'

end Push

/-- The components that are left of a path when it is cleaned, innermost first. -/
def kept (path : List Char) : List (List Char) := (parts path).foldl (pushPart (isRooted path)) []

section Clean

variable {path : List Char}

theorem parts_clear {part : List Char} (listed : part ∈ parts path) : '/' ∉ part :=
  Text.splitOn_clear listed

theorem parts_root (path : List Char) : parts ('/' :: path) = [] :: parts path := parts_append [] path

theorem kept_named (rooted : isRooted path = true) : ∀ part ∈ kept path, Named part := by
  obtain ⟨names, height, named, -, result⟩ := fold_lifts (parts path) [] []
    (fun part listed => parts_clear listed) (by simp) (by simp) 0
  have same : kept path = names := by
    rw [kept, rooted]
    simpa using result
  rw [same]
  exact named

theorem clean_eq (path : List Char) : clean path =
    if isRooted path then '/' :: Text.join ['/'] (kept path).reverse
    else if Text.join ['/'] (kept path).reverse = [] then ['.']
    else Text.join ['/'] (kept path).reverse := by
  simp only [clean, kept, List.isEmpty_iff]
  congr

theorem clean_rooted (rooted : isRooted path = true) :
    clean path = '/' :: Text.join ['/'] (kept path).reverse := by
  rw [clean_eq, if_pos rooted]

theorem isRooted_clean (rooted : isRooted path = true) : isRooted (clean path) = true := by
  rw [clean_rooted rooted]
  rfl

theorem parts_clean_rooted (rooted : isRooted path = true) :
    parts (clean path) = [] :: if kept path = [] then [[]] else (kept path).reverse := by
  rw [clean_rooted rooted, parts_root]
  split
  · rename_i none
    rw [none]
    rfl
  · rename_i proper
    rw [parts_join _ (mt List.reverse_eq_nil_iff.mp proper)]
    intro part listed
    exact (kept_named rooted part (List.mem_reverse.mp listed)).clear

theorem isRooted_append (proper : path ≠ []) (rest : List Char) :
    isRooted (path ++ rest) = isRooted path := by
  cases path with
  | nil => exact absurd rfl proper
  | cons first path => rfl

theorem isRooted_proper (rooted : isRooted path = true) : path ≠ [] := by
  rintro rfl
  cases rooted

theorem kept_append (proper : path ≠ []) (rest : List Char) :
    kept (path ++ '/' :: rest) = (parts rest).foldl (pushPart (isRooted path)) (kept path) := by
  rw [kept, isRooted_append proper, parts_append, List.foldl_append, kept]

theorem kept_clean (rooted : isRooted path = true) : kept (clean path) = kept path := by
  rw [kept, isRooted_clean rooted, parts_clean_rooted rooted]
  split
  · rename_i none
    rw [none]
    rfl
  · rw [List.foldl_cons]
    change List.foldl _ [] (kept path).reverse = _
    rw [fold_named fun part listed => kept_named rooted part (List.mem_reverse.mp listed)]
    simp

theorem join_proper (proper : path ≠ []) {rest : List Char} (more : rest ≠ []) :
    join path rest = clean (path ++ '/' :: rest) := by
  simp [join, proper, more]

theorem clean_join (rooted : isRooted path = true) {rest : List Char} (more : rest ≠ []) :
    join (clean path) rest = join path rest := by
  have proper := isRooted_proper rooted
  have rooted' := isRooted_clean rooted
  have proper' := isRooted_proper rooted'
  rw [join_proper proper more, join_proper proper' more,
    clean_rooted ((isRooted_append proper _).trans rooted),
    clean_rooted ((isRooted_append proper' _).trans rooted'), kept_append proper,
    kept_append proper', rooted, rooted', kept_clean rooted]

theorem kept_components {components : List (List Char)} (named : ∀ part ∈ components, Named part) :
    kept ('/' :: Text.join ['/'] components) = components.reverse := by
  rw [kept, parts_root]
  change List.foldl (pushPart true) [] (parts (Text.join ['/'] components)) = _
  cases components with
  | nil => rfl
  | cons first rest =>
    rw [parts_join (fun part listed => (named part listed).clear) (List.cons_ne_nil _ _),
      fold_named named, List.append_nil]

theorem kept_lifts (origin : List (List Char)) (named : ∀ part ∈ origin, Named part)
    (relative : isRooted path = false) : ∃ names height, (∀ part ∈ names, Named part) ∧
      kept path = (List.replicate height up ++ names).reverse ∧
      kept ('/' :: Text.join ['/'] origin ++ '/' :: path) =
        (origin.take (origin.length - height) ++ names).reverse := by
  obtain ⟨names, height, named', low, high⟩ := fold_lifts (parts path) [] origin.reverse
    (fun part listed => parts_clear listed) (by simp)
    (fun part listed => named part (List.mem_reverse.mp listed)) 0
  refine ⟨names.reverse, height, fun part listed => named' part (List.mem_reverse.mp listed), ?_, ?_⟩
  · rw [kept, relative]
    simpa using low
  · rw [kept_append (List.cons_ne_nil _ _), kept_components named]
    change List.foldl (pushPart true) _ _ = _
    simpa [List.drop_reverse] using high

theorem kept_clear (relative : isRooted path = false) :
    ∀ part ∈ (kept path).reverse, part ≠ [] ∧ '/' ∉ part := by
  obtain ⟨names, height, named, shape, -⟩ := kept_lifts [] (by simp) relative
  rw [shape, List.reverse_reverse]
  intro part listed
  rcases List.mem_append.mp listed with above | below
  · rw [List.eq_of_mem_replicate above]
    decide
  · exact ⟨(named part below).proper, (named part below).clear⟩

theorem parts_clean_relative (relative : isRooted path = false) :
    parts (clean path) = if kept path = [] then [['.']] else (kept path).reverse := by
  have clear := kept_clear relative
  have empty : Text.join ['/'] (kept path).reverse = [] ↔ kept path = [] :=
    (join_eq_nil_iff fun part listed => (clear part listed).1).trans List.reverse_eq_nil_iff
  rw [clean_eq, if_neg (by simp [relative])]
  split
  · rename_i none
    rw [if_pos (empty.mp none)]
    decide
  · rename_i proper
    rw [if_neg (mt empty.mpr proper), parts_join fun part listed => (clear part listed).2]
    exact mt List.reverse_eq_nil_iff.mp (mt empty.mpr proper)

theorem isRooted_clean_relative (relative : isRooted path = false) :
    isRooted (clean path) = false := by
  have clear : ∀ part ∈ parts (clean path), part ≠ [] := by
    rw [parts_clean_relative relative]
    split
    · decide
    · exact fun part listed => (kept_clear relative part listed).1
  cases shape : clean path with
  | nil => rfl
  | cons first rest =>
    by_cases slash : first = '/'
    · rw [shape, slash, parts_root] at clear
      exact absurd rfl (clear [] List.mem_cons_self)
    · simp [isRooted, slash]

theorem clean_proper (path : List Char) : clean path ≠ [] := by
  rw [clean_eq]
  split
  · exact List.cons_ne_nil _ _
  · split
    · exact List.cons_ne_nil _ _
    · assumption

theorem afterSlash_clean {name : List Char} (proper : path ≠ []) (named : Named name) :
    afterSlash (clean (path ++ '/' :: name)) = name := by
  have last : kept (path ++ '/' :: name) = name :: kept path := by
    rw [kept_append proper, parts, Text.splitOn_absent named.clear]
    exact push_named named
  rw [clean_eq, last, List.reverse_cons]
  rcases join_concat (kept path).reverse name with ⟨only, -⟩ | ⟨before, joined⟩
  · rw [only, if_neg named.proper]
    split
    · exact afterSlash_append [] named.clear
    · exact afterSlash_clear named.clear
  · have body : before ++ '/' :: name ≠ [] := by simp
    rw [joined, if_neg body]
    split
    · exact afterSlash_append ('/' :: before) named.clear
    · exact afterSlash_append before named.clear

theorem extension_congr {one two : List Char} (same : afterSlash one = afterSlash two) :
    extension one = extension two := by
  rw [extension, extension, same]

end Clean

end LineSieve.Path
