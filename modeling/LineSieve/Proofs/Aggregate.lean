import LineSieve.Aggregate

/- The order of a report: most effective lines first, and equals as they were. -/
namespace LineSieve

section Descending

variable {α : Type} (total : α → Int64)

def descending (items : List α) : List α := items.mergeSort fun a b => total b ≤ total a

theorem descending_trans (a b c : α) (first : decide (total b ≤ total a) = true)
    (second : decide (total c ≤ total b) = true) : decide (total c ≤ total a) = true := by
  rw [decide_eq_true_eq] at first second ⊢
  exact Int64.le_trans second first

theorem descending_total (a b : α) :
    (decide (total b ≤ total a) || decide (total a ≤ total b)) = true := by
  rw [Bool.or_eq_true, decide_eq_true_eq, decide_eq_true_eq]
  exact Int64.le_total _ _

theorem descending_perm (items : List α) : (descending total items).Perm items :=
  List.mergeSort_perm items _

theorem descending_sorted (items : List α) :
    (descending total items).Pairwise fun a b => total b ≤ total a := by
  have sorted := List.pairwise_mergeSort (descending_trans total) (descending_total total) items
  exact sorted.imp of_decide_eq_true

theorem descending_stable (items : List α) (value : Int64) :
    (descending total items).filter (fun item => total item = value) =
      items.filter fun item => total item = value := by
  -- The items with one total are sorted already, and so they stay together in their order.
  have equal : (items.filter fun item => total item = value).Pairwise fun a b =>
      decide (total b ≤ total a) = true := by
    apply List.pairwise_of_forall_mem_list
    intro a among b among'
    have first := of_decide_eq_true (List.mem_filter.mp among).2
    have second := of_decide_eq_true (List.mem_filter.mp among').2
    rw [decide_eq_true_eq, first, second]
    exact Int64.le_refl _
  have within := List.sublist_mergeSort (descending_trans total) (descending_total total) equal
    List.filter_sublist
  have kept := within.filter fun item => total item = value
  rw [List.filter_filter] at kept
  simp only [Bool.and_self] at kept
  exact (kept.eq_of_length ((descending_perm total items).filter _).length_eq.symm).symm

theorem descending_order {items : List α} {before : α → α → Prop} (ordered : items.Pairwise before) :
    (descending total items).Pairwise fun a b =>
      total b < total a ∨ total b = total a ∧ before a b := by
  refine List.pairwise_iff_forall_sublist.mpr fun {a b} within => ?_
  have falls := List.pairwise_iff_forall_sublist.mp (descending_sorted total items) within
  refine (Int64.lt_or_eq_of_le falls).imp_right fun same => ⟨same, ?_⟩
  have pair : [a, b].filter (fun item => total item = total a) = [a, b] := by simp [same]
  have kept := within.filter fun item => total item = total a
  rw [pair, descending_stable] at kept
  exact List.pairwise_iff_forall_sublist.mp ordered (kept.trans List.filter_sublist)

end Descending

theorem sortFiles_eq (files : List FileSummary) :
    sortFiles files = descending (·.counts.total) files := rfl

end LineSieve
