import LineSieve.Proofs.FileTree.Rooted

/- Paths that lead down. A path without double dots leads nowhere but where its clean form leads:
   the components that cleaning leaves out only ask for a directory. -/
namespace LineSieve

/-- The second list leaves out some idle components of the first one. -/
inductive Thinned : List String → List String → Prop where
  | nil : Thinned [] []
  | keep {rest rest' : List String} (name : String) (later : Thinned rest rest') :
      Thinned (name :: rest) (name :: rest')
  | drop {rest rest' : List String} {name : String} (idle : Idle name)
      (later : Thinned rest rest') : Thinned (name :: rest) rest'

namespace Thinned

variable {rest rest' front : List String}

theorem append (front : List String) (thinned : Thinned rest rest') :
    Thinned (front ++ rest) (front ++ rest') := by
  induction front with
  | nil => exact thinned
  | cons name front ih => exact ih.keep name

theorem last_idle (thinned : Thinned rest []) (more : rest ≠ []) :
    ∃ last, rest.getLast? = some last ∧ Idle last := by
  induction rest with
  | nil => exact absurd rfl more
  | cons name rest ih =>
    cases thinned with
    | drop idle later =>
      by_cases none : rest = []
      · subst none
        exact ⟨name, rfl, idle⟩
      · obtain ⟨last, found, idle⟩ := ih later none
        obtain ⟨second, others, rfl⟩ := List.exists_cons_of_ne_nil none
        exact ⟨last, found, idle⟩

end Thinned

namespace FileTree

variable {top : Listing} {follow : Bool} {links : Nat} {here todo todo' place : List String}
  {node : Node}

theorem last_of_plain {name last : String} {rest : List String} (plain : PlainName name)
    (found : (name :: rest).getLast? = some last) (idle : Idle last) :
    rest ≠ [] ∧ rest.getLast? = some last := by
  cases rest with
  | nil =>
    cases found
    exact absurd idle plain.busy
  | cons second rest => exact ⟨List.cons_ne_nil _ _, found⟩

theorem Routed.last_idle (ends : ∃ last, todo.getLast? = some last ∧ Idle last)
    (routed : Routed top follow links here todo (.ok (.found place node))) :
    ∃ entries, node = .directory entries := by
  obtain ⟨last, found, idle⟩ := ends
  generalize ended : Except.ok (Place.found place node) = result at routed
  induction routed with
  | arrived => cases found
  | lost | blocked | long | vacant | absent | hollow | exhausted => cases ended
  | @idle links here rest name entries result held idle' later ih =>
    by_cases none : rest = []
    · subst none
      cases later.unique (.arrived held)
      cases ended
      exact ⟨entries, rfl⟩
    · rw [List.getLast?_cons_of_ne_nil none] at found
      exact ih found ended
  | @rise links here rest entries result held later ih =>
    cases rest with
    | nil =>
      cases found
      exact absurd idle (by decide)
    | cons second rest => exact ih found ended
  | kept held plain link lax => exact absurd rfl (last_of_plain plain found idle).1
  | turn held plain link followed proper later ih =>
    obtain ⟨more, found⟩ := last_of_plain plain found idle
    exact ih ((List.getLast?_append_of_ne_nil _ more).trans found) ended
  | descend held plain entry unlinked later ih =>
    exact ih (last_of_plain plain found idle).2 ended

/-- Without some of its idle components a path leads where it led. Only a link at its end that is
not followed makes a difference, as an idle component behind it asks for a directory. -/
theorem Routed.thinned (thinned : Thinned todo todo')
    (final : follow = true ∨ ∃ target, node = .link target)
    (routed : Routed top follow links here todo (.ok (.found place node))) :
    Routed top follow links here todo' (.ok (.found place node)) := by
  generalize ended : Except.ok (Place.found place node) = result at routed ⊢
  induction routed generalizing todo' with
  | lost | blocked | long | vacant | absent | hollow | exhausted => cases ended
  | arrived held =>
    cases thinned
    exact .arrived held
  | idle held idle later ih =>
    cases thinned with
    | keep _ behind => exact .idle held idle (ih behind ended)
    | drop _ behind => exact ih behind ended
  | rise held later ih =>
    cases thinned with
    | keep _ behind => exact .rise held (ih behind ended)
    | drop idle behind => exact absurd idle (by decide)
  | kept held plain link lax =>
    cases thinned with
    | keep _ behind =>
      cases behind
      exact .kept held plain link lax
    | drop idle behind => exact absurd idle plain.busy
  | @turn links here rest name target entries result held plain link followed proper later ih =>
    cases thinned with
    | @keep _ rest' _ behind =>
      refine .turn held plain link ?_ proper (ih (behind.append _) ended)
      refine or_iff_not_imp_right.mpr fun lax => ?_
      -- What follows the link asks for a directory, but the path ends in a link.
      rintro rfl
      obtain ⟨other, rfl⟩ := final.resolve_left lax
      have trailing := followed.resolve_right lax
      have asks := behind.last_idle trailing
      rw [← List.getLast?_append_of_ne_nil (names target) trailing] at asks
      subst ended
      obtain ⟨entries, same⟩ := later.last_idle asks
      cases same
    | drop idle behind => exact absurd idle plain.busy
  | descend held plain entry unlinked later ih =>
    cases thinned with
    | keep _ behind => exact .descend held plain entry unlinked (ih behind ended)
    | drop idle behind => exact absurd idle plain.busy

theorem fold_thinned (rooted : Bool) (stack : List (List Char)) {components : List (List Char)}
    (level : Path.up ∉ components) : ∃ kept : List (List Char),
      components.foldl (Path.pushPart rooted) stack = kept.reverse ++ stack ∧
        Thinned (components.map String.ofList) (kept.map String.ofList) := by
  induction components generalizing stack with
  | nil => exact ⟨[], rfl, .nil⟩
  | cons part components ih =>
    obtain ⟨differs, level⟩ := List.ne_and_not_mem_of_not_mem_cons level
    rw [List.foldl_cons]
    by_cases idle : part = [] ∨ part = ['.']
    · obtain ⟨kept, folded, thinned⟩ := ih stack level
      refine ⟨kept, ?_, .drop ?_ thinned⟩
      · rw [← folded]
        rcases idle with rfl | rfl <;> rfl
      · rcases idle with rfl | rfl <;> decide
    · obtain ⟨proper, here⟩ := not_or.mp idle
      obtain ⟨kept, folded, thinned⟩ := ih (part :: stack) level
      refine ⟨part :: kept, ?_, .keep _ thinned⟩
      have pushed : Path.pushPart rooted stack part = part :: stack := by
        simp [Path.pushPart, proper, here, show part ≠ ['.', '.'] from differs.symm]
      rw [pushed, folded]
      simp

theorem kept_thinned {path : List Char} (level : Path.up ∉ Path.parts path) :
    Thinned ((Path.parts path).map String.ofList)
      ((Path.kept path).reverse.map String.ofList) := by
  obtain ⟨kept, folded, thinned⟩ :=
    fold_thinned (Path.isRooted path) [] level
  rw [Path.kept, folded, List.append_nil, List.reverse_reverse]
  exact thinned

theorem resolve_clean {tree : FileTree} (housed : tree.Housed) {path : List Char}
    (proper : path ≠ []) (level : Path.up ∉ Path.parts path)
    (final : follow = true ∨ ∃ target, node = .link target)
    (led : tree.resolve follow (String.ofList path) = .ok (.found place node)) :
    tree.resolve follow (String.ofList (Path.clean path)) = .ok (.found place node) := by
  have given : String.ofList path ≠ "" := by simpa using proper
  rw [resolve, if_neg given, isRooted, names, String.toList_ofList] at led
  cases rooted : Path.isRooted path with
  | true =>
    rw [rooted] at led
    rw [resolve_clean_rooted follow rooted]
    exact ((routed_iff.mpr led).thinned (kept_thinned level) final).eq
  | false =>
    rw [rooted] at led
    rw [resolve_clean_relative follow housed rooted]
    exact ((routed_iff.mpr led).thinned (kept_thinned level) final).eq

theorem resolve_rooted {tree : FileTree} (housed : tree.Housed) {path : List Char}
    (proper : path ≠ []) (follow : Bool) :
    tree.resolve follow
        (String.ofList (Path.absolute (Service.rootedPath tree.origin).toList path)) =
      tree.resolve follow (String.ofList (Path.clean path)) := by
  unfold Path.absolute
  split
  · rfl
  · rename_i relative
    rw [Path.join_proper (by simp [rootedPath_components]) proper]
    exact resolve_lifts follow housed (by simpa using relative)

end FileTree

end LineSieve
