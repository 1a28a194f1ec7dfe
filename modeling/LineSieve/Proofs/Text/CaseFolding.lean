import LineSieve.Proofs.Text.LetterCase
import Mathlib.Data.Int.ModEq
import Mathlib.Data.List.Chain
import Mathlib.Data.List.Pairwise

/- Folding as an equivalence. The runs of the folding table do not overlap and none of them starts
   from where another one leads, so folding twice is folding once, and the code points that differ
   by case only are those that fold alike. -/
namespace LineSieve.Text

def CaseRun.Before (one two : CaseRun) : Prop := one.last < two.first ∧ two.first ≤ two.last

instance : DecidableRel CaseRun.Before := fun _ _ => instDecidableAnd

instance : Trans CaseRun.Before CaseRun.Before CaseRun.Before where
  trans first second := ⟨(first.1.trans_le first.2).trans second.1, second.2⟩

theorem foldRuns_ascending : foldRuns.IsChain CaseRun.Before := by decide +kernel

/-- No member of the second run is what a member of the first one maps to: the images stand before
or behind it, or between its steps. -/
def CaseRun.misses (one two : CaseRun) : Bool :=
  Nat.blt (one.last + one.offset).toNat two.first ||
    Nat.blt two.last (one.first + one.offset).toNat ||
    ((one.first == one.last || one.step % two.step == 0) &&
      (one.first + one.offset - two.first) % two.step != 0)

theorem foldRuns_miss : (foldRuns.all fun one => foldRuns.all one.misses) = true := by
  decide +kernel

theorem CaseRun.contains_iff {run : CaseRun} {n : Nat} : run.contains n = true ↔
    run.first ≤ n ∧ n ≤ run.last ∧ (run.step : Int) ∣ (n : Int) - run.first := by
  simp only [contains, Bool.and_eq_true, decide_eq_true_eq, beq_iff_eq, and_assoc]
  refine and_congr_right fun lower => and_congr_right fun _ => ?_
  rw [← Nat.dvd_iff_mod_eq_zero, ← Int.natCast_dvd_natCast, Nat.cast_sub lower]

theorem CaseRun.source?_eq_some_iff {run : CaseRun} {n m : Nat} :
    run.source? n = some m ↔ run.contains m = true ∧ (n : Int) = m + run.offset := by
  simp only [source?, Bool.and_eq_true, decide_eq_true_eq, Option.ite_none_right_eq_some,
    Option.some.injEq]
  constructor
  · rintro ⟨⟨positive, member⟩, rfl⟩
    exact ⟨member, by omega⟩
  · rintro ⟨member, same⟩
    have back : ((n : Int) - run.offset).toNat = m := by omega
    rw [back]
    exact ⟨⟨by omega, member⟩, rfl⟩

theorem CaseRun.not_contains_of_misses {one two : CaseRun} (missed : one.misses two = true) {n m : Nat}
    (member : one.contains n = true) (mapped : (m : Int) = n + one.offset) :
    two.contains m = false := by
  rw [Bool.eq_false_iff]
  intro inside
  obtain ⟨low, high, steps⟩ := contains_iff.mp member
  obtain ⟨low', high', steps'⟩ := contains_iff.mp inside
  simp only [misses, Bool.or_eq_true, Bool.and_eq_true, Nat.blt_eq, bne_iff_ne, beq_iff_eq] at missed
  rcases missed with (behind | before) | ⟨aligned, between⟩
  · omega
  · omega
  · -- The image is as far from the first image as whole steps of the second run.
    have whole : (two.step : Int) ∣ (m : Int) - (one.first + one.offset) := by
      rw [mapped, add_sub_add_right_eq_sub]
      rcases aligned with single | steps''
      · have only : n = one.first := by omega
        simp [only]
      · exact (Int.natCast_dvd_natCast.mpr (Nat.dvd_of_mod_eq_zero steps'')).trans steps
    have first : (two.step : Int) ∣ one.first + one.offset - two.first := by
      have difference := Int.dvd_sub steps' whole
      rwa [sub_sub_sub_cancel_left] at difference
    exact between (Int.emod_eq_zero_of_dvd first)

theorem run_unique {one two : CaseRun} (listed : one ∈ foldRuns) (listed' : two ∈ foldRuns) {n : Nat}
    (member : one.contains n = true) (member' : two.contains n = true) : one = two := by
  by_contra other
  let Apart (one two : CaseRun) : Prop := one.last < two.first ∨ two.last < one.first
  have symmetric : Std.Symm Apart := ⟨fun _ _ => Or.symm⟩
  have apart : foldRuns.Pairwise Apart :=
    (List.isChain_iff_pairwise.mp foldRuns_ascending).imp fun before => Or.inl before.1
  obtain ⟨low, high, -⟩ := CaseRun.contains_iff.mp member
  obtain ⟨low', high', -⟩ := CaseRun.contains_iff.mp member'
  rcases apart.forall listed listed' other with before | behind
  · omega
  · omega

theorem foldKey_of_contains {run : CaseRun} (listed : run ∈ foldRuns) {n : Nat}
    (member : run.contains n = true) : (foldKey n : Int) = n + run.offset := by
  have bound := (foldRuns_above run listed).2
  have low := run_first_le member
  unfold foldKey mapRuns
  cases found : foldRuns.find? (·.contains n) with
  | none => exact absurd member (List.find?_eq_none.mp found run listed)
  | some other =>
    have member' : other.contains n = true :=
      List.find?_some (p := fun run : CaseRun => run.contains n) found
    obtain rfl := run_unique listed (List.mem_of_find?_eq_some found) member member'
    change (((n : Int) + run.offset).toNat : Int) = _
    omega

theorem foldKey_cases (n : Nat) :
    (∃ run ∈ foldRuns, run.contains n = true ∧ (foldKey n : Int) = n + run.offset) ∨
      (∀ run ∈ foldRuns, run.contains n = false) ∧ foldKey n = n := by
  by_cases member : ∃ run ∈ foldRuns, run.contains n = true
  · obtain ⟨run, listed, member⟩ := member
    exact Or.inl ⟨run, listed, member, foldKey_of_contains listed member⟩
  · have clear : ∀ run ∈ foldRuns, run.contains n = false := fun run listed =>
      Bool.eq_false_iff.mpr fun inside => member ⟨run, listed, inside⟩
    have missing : foldRuns.find? (·.contains n) = none := by
      rw [List.find?_eq_none]
      exact fun run listed => Bool.eq_false_iff.mp (clear run listed)
    exact Or.inr ⟨clear, by rw [foldKey, mapRuns, missing]⟩

theorem foldKey_foldKey (n : Nat) : foldKey (foldKey n) = foldKey n := by
  rcases foldKey_cases n with ⟨run, listed, member, mapped⟩ | ⟨-, same⟩
  · rcases foldKey_cases (foldKey n) with ⟨other, listed', member', -⟩ | ⟨-, same⟩
    · have missed := List.all_eq_true.mp (List.all_eq_true.mp foldRuns_miss run listed) other listed'
      rw [CaseRun.not_contains_of_misses missed member mapped] at member'
      cases member'
    · exact same
  · rw [same, same]

theorem mem_caseOrbit_iff {n m : Nat} : n ∈ caseOrbit m ↔ foldKey n = foldKey m := by
  simp only [caseOrbit, List.mem_cons, List.mem_filterMap, CaseRun.source?_eq_some_iff]
  constructor
  · rintro (rfl | ⟨run, listed, member, mapped⟩)
    · exact foldKey_foldKey m
    · exact Int.natCast_inj.mp ((foldKey_of_contains listed member).trans mapped.symm)
  · intro same
    rcases foldKey_cases n with ⟨run, listed, member, mapped⟩ | ⟨-, fixed⟩
    · exact Or.inr ⟨run, listed, member, by rw [← same, mapped]⟩
    · exact Or.inl (fixed.symm.trans same)

end LineSieve.Text
