import LineSieve.Text.Search
import Mathlib.Data.List.Basic

/- What a cut at the first occurrence of a piece says about the text: where it is cut, and that the
   front holds no occurrence. -/
namespace LineSieve.Text

theorem prefix_of_not_mem {α : Type} {piece a b : List α} {c : α} (absent : c ∉ piece)
    (initial : piece <+: a ++ c :: b) : piece <+: a := by
  by_contra longer
  have front : a ++ [c] <+: piece := by
    refine List.prefix_of_prefix_length_le ⟨b, List.append_assoc a [c] b⟩ initial ?_
    by_contra short
    rw [List.length_append, List.length_singleton] at short
    exact longer (List.prefix_of_prefix_length_le initial (List.prefix_append a (c :: b)) (by omega))
  exact absent (front.subset (by simp))

section Search
variable {α : Type} [BEq α] [LawfulBEq α]

theorem not_initial_of_isPrefixOf? {piece s : List α} (missing : piece.isPrefixOf? s = none) :
    ¬ piece <+: s := by
  intro initial
  have found := List.isSome_isPrefixOf?_eq_isPrefixOf piece s
  rw [missing, List.isPrefixOf_iff_prefix.mpr initial] at found
  cases found

theorem cut?_split {piece s front rest : List α} (found : cut? piece s = some (front, rest)) :
    s = front ++ (piece ++ rest) := by
  induction s generalizing front with
  | nil =>
    simp only [cut?] at found
    split at found
    · rename_i empty
      obtain ⟨rfl, rfl⟩ := Prod.mk.inj (Option.some.inj found)
      simp [List.isEmpty_iff.mp empty]
    · cases found
  | cons c s ih =>
    simp only [cut?] at found
    split at found
    · rename_i after here
      obtain ⟨rfl, rfl⟩ := Prod.mk.inj (Option.some.inj found)
      rw [List.nil_append]
      exact (List.isPrefixOf?_eq_some_iff_append_eq.mp here).symm
    · obtain ⟨halves, later, same⟩ := Option.map_eq_some_iff.mp found
      obtain ⟨rfl, rfl⟩ := Prod.mk.inj same
      rw [List.cons_append, ← ih later]

theorem cut?_first {piece s front rest a b : List α} (found : cut? piece s = some (front, rest))
    (occurs : s = a ++ (piece ++ b)) : front.length ≤ a.length := by
  induction s generalizing front a with
  | nil =>
    have empty := cut?_split found
    simp only [List.nil_eq, List.append_eq_nil_iff] at empty
    simp [empty.1]
  | cons c s ih =>
    simp only [cut?] at found
    split at found
    · obtain ⟨rfl, -⟩ := Prod.mk.inj (Option.some.inj found)
      exact Nat.zero_le _
    · rename_i missing
      obtain ⟨halves, later, same⟩ := Option.map_eq_some_iff.mp found
      obtain ⟨rfl, rfl⟩ := Prod.mk.inj same
      cases a with
      | nil => exact absurd ⟨b, occurs.symm⟩ (not_initial_of_isPrefixOf? missing)
      | cons d a =>
        have tail := ih later (List.cons.inj occurs).2
        simpa using tail

theorem cut?_none {piece s : List α} : cut? piece s = none ↔ ¬ piece <:+: s := by
  induction s with
  | nil => cases piece <;> simp [cut?]
  | cons c s ih =>
    simp only [cut?, List.infix_cons_iff, not_or]
    cases here : piece.isPrefixOf? (c :: s) with
    | some after =>
      have initial : piece <+: c :: s := ⟨after, List.isPrefixOf?_eq_some_iff_append_eq.mp here⟩
      simp [initial]
    | none => simp [not_initial_of_isPrefixOf? here, ih]

theorem cut?_front_clear {piece s front rest : List α} (proper : piece ≠ [])
    (found : cut? piece s = some (front, rest)) : ¬ piece <:+: front := by
  rintro ⟨a, b, inside⟩
  have early := cut?_first found (a := a) (b := b ++ (piece ++ rest)) (by
    rw [cut?_split found, ← inside]; simp only [List.append_assoc])
  have longer := congrArg List.length inside
  have positive := List.length_pos_iff.mpr proper
  simp only [List.length_append] at longer
  omega

/-- The first occurrence is the one that is cut at. -/
theorem cut?_of_first {piece s front rest : List α} (split : s = front ++ (piece ++ rest))
    (first : ∀ a b, s = a ++ (piece ++ b) → front.length ≤ a.length) :
    cut? piece s = some (front, rest) := by
  cases found : cut? piece s with
  | none =>
    have occurs : piece <:+: s := ⟨front, rest, by rw [split, List.append_assoc]⟩
    exact absurd occurs (cut?_none.mp found)
  | some halves =>
    obtain ⟨a, b⟩ := halves
    have again := cut?_split found
    have early := cut?_first found split
    have late := first a b again
    obtain ⟨rfl, tail⟩ := List.append_inj (again.symm.trans split) (by omega)
    rw [List.append_cancel_left tail]

theorem cut?_here (piece rest : List α) : cut? piece (piece ++ rest) = some ([], rest) :=
  cut?_of_first rfl fun _ _ _ => Nat.zero_le _

theorem cut?_drop {piece lead s front rest : List α}
    (found : cut? piece (lead ++ s) = some (lead ++ front, rest)) :
    cut? piece s = some (front, rest) := by
  have split := cut?_split found
  rw [List.append_assoc] at split
  -- An earlier occurrence would be one behind `lead`, too.
  refine cut?_of_first (List.append_cancel_left split) fun a b occurs => ?_
  have early := cut?_first found (a := lead ++ a) (b := b) (by rw [occurs, List.append_assoc])
  rw [List.length_append, List.length_append] at early
  omega

theorem cut?_extend {piece s front rest : List α} (found : cut? piece s = some (front, rest))
    (more : List α) : cut? piece (s ++ more) = some (front, rest ++ more) := by
  have split := cut?_split found
  refine cut?_of_first (by rw [split]; simp only [List.append_assoc]) fun a b occurs => ?_
  by_contra early
  have long := congrArg List.length split
  simp only [List.length_append] at long
  -- An occurrence that starts earlier ends within the text.
  have within : a ++ piece <+: s := by
    refine List.prefix_of_prefix_length_le ⟨b, ?_⟩ (List.prefix_append s more) ?_
    · rw [occurs, List.append_assoc]
    · rw [List.length_append]
      omega
  obtain ⟨c, inside⟩ := within
  exact early (cut?_first found (by rw [← inside, List.append_assoc]))

theorem cut?_take {piece s front rest more behind : List α} (split : s = front ++ (piece ++ rest))
    (found : cut? piece (s ++ more) = some (front, behind)) :
    cut? piece s = some (front, rest) := by
  refine cut?_of_first split fun a b occurs => ?_
  exact cut?_first found (a := a) (b := b ++ more) (by rw [occurs]; simp only [List.append_assoc])

theorem before_initial (piece s : List α) : before piece s <+: s := by
  unfold before
  split
  · rename_i halves found
    exact ⟨_, (cut?_split found).symm⟩
  · exact List.prefix_rfl

theorem before_clear {piece : List α} (proper : piece ≠ []) (s : List α) :
    ¬ piece <:+: before piece s := by
  unfold before
  split
  · rename_i halves found
    exact cut?_front_clear proper found
  · rename_i missing
    exact cut?_none.mp missing

end Search

end LineSieve.Text
