import LineSieve.Text.LetterCase

/- Letter case below the letters: the control characters, blanks, digits and most punctuation have
   no other case. Above that, lower case and folding differ for some letters, and agree where the
   code points that share a lower case fold alike. -/
namespace LineSieve.Text

theorem foldRuns_above : ∀ run ∈ foldRuns, 65 ≤ run.first ∧ (65 : Int) ≤ run.first + run.offset := by
  decide +kernel

theorem run_first_le {run : CaseRun} {n : Nat} (member : run.contains n = true) :
    run.first ≤ n := by
  simp only [CaseRun.contains, Bool.and_eq_true, decide_eq_true_eq] at member
  exact member.1.1

theorem foldKey_of_low {n : Nat} (low : n < 65) : foldKey n = n := by
  have missing : foldRuns.find? (·.contains n) = none := by
    rw [List.find?_eq_none]
    intro run listed member
    have lower := run_first_le member
    have bound := (foldRuns_above run listed).1
    omega
  rw [foldKey, mapRuns, missing]

theorem eq_of_foldKey_low {m : Nat} (low : foldKey m < 65) : foldKey m = m := by
  unfold foldKey mapRuns at low ⊢
  split at low
  · rename_i run found
    have member := List.find?_some found
    have lower := run_first_le member
    have bound := (foldRuns_above run (List.mem_of_find?_eq_some found)).2
    omega
  · rfl

theorem mem_caseOrbit_low {n m : Nat} (low : n < 65) : n ∈ caseOrbit m ↔ m = n := by
  simp only [caseOrbit, List.mem_cons, List.mem_filterMap]
  constructor
  · rintro (key | ⟨run, listed, source⟩)
    · have same : foldKey m = m := eq_of_foldKey_low (by omega)
      rw [key, same]
    · simp only [CaseRun.source?, Bool.and_eq_true, Option.ite_none_right_eq_some,
        Option.some.injEq] at source
      obtain ⟨⟨-, member⟩, rfl⟩ := source
      have lower := run_first_le member
      have bound := (foldRuns_above run listed).1
      omega
  · rintro rfl
    exact Or.inl (foldKey_of_low low).symm

theorem caseOrbit_low {n : Nat} (low : n < 65) : caseOrbit n = [n] := by
  have sources : foldRuns.filterMap (·.source? n) = [] := by
    rw [List.filterMap_eq_nil_iff]
    intro run listed
    simp only [CaseRun.source?, Bool.and_eq_true, decide_eq_true_eq, ite_eq_right_iff]
    rintro ⟨positive, member⟩
    have lower := run_first_le member
    have bound := (foldRuns_above run listed).2
    omega
  simp only [caseOrbit, foldKey_of_low low, sources]

section Lower

def Folds (n : Nat) : Prop :=
  0 < n ∧ ∀ run ∈ lowerRuns, ∀ source ∈ run.source? n, foldKey source = foldKey n

instance (n : Nat) : Decidable (Folds n) :=
  decidable_of_iff (0 < n ∧ (lowerRuns.all fun run =>
      (run.source? n).all fun source => foldKey source == foldKey n) = true)
    (by simp [Folds, Option.all_eq_true])

theorem foldKey_of_lower {n m : Nat} (folds : Folds n) (lowers : mapRuns lowerRuns m = n) :
    foldKey m = foldKey n := by
  obtain ⟨positive, agrees⟩ := folds
  unfold mapRuns at lowers
  split at lowers
  · rename_i run found
    have member := List.find?_some found
    apply agrees run (List.mem_of_find?_eq_some found)
    have back : (n : Int) - run.offset = m := by omega
    rw [CaseRun.source?, back]
    simpa using member
  · rw [lowers]

theorem toNat_lowerChar {c : Char} (positive : 0 < (lowerChar c).toNat) :
    (lowerChar c).toNat = mapRuns lowerRuns c.toNat := by
  unfold lowerChar Char.ofNat at positive ⊢
  by_cases valid : (mapRuns lowerRuns c.toNat).isValidChar
  · rw [dif_pos valid]
    rfl
  · rw [dif_neg valid] at positive
    cases positive

theorem map_foldKey_lower {s : List Char} (folds : ∀ c ∈ lower s, Folds c.toNat) :
    (lower s).map (foldKey ·.toNat) = s.map (foldKey ·.toNat) := by
  rw [lower, List.map_map]
  apply List.map_congr_left
  intro c listed
  have folds := folds _ (List.mem_map_of_mem listed)
  exact (foldKey_of_lower folds (toNat_lowerChar folds.1).symm).symm

theorem equalFold_of_lower {s t : List Char} (folds : ∀ c ∈ lower t, Folds c.toNat)
    (same : lower s = lower t) : equalFold s t = true := by
  rw [equalFold, ← map_foldKey_lower folds, ← map_foldKey_lower (same ▸ folds), same]
  exact beq_self_eq_true _

end Lower

theorem equalFold_iff {s t : List Char} :
    equalFold s t = true ↔ s.map (foldKey ·.toNat) = t.map (foldKey ·.toNat) := beq_iff_eq

end LineSieve.Text
