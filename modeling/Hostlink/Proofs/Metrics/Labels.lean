import Hostlink.Metrics.Family
/-!
Labels in order. Two lists of labels have the same order just when each label occurs in both equally
often, so that a family keeps one series for all lists that are permutations of each other.
-/

namespace Hostlink.Labels

theorem le_trans (a b c : String × String) (ab : le a b = true) (bc : le b c = true) :
    le a c = true := by
  simp only [le, beq_iff_eq] at ab bc ⊢
  by_cases hab : a.1 = b.1
  · rw [if_pos hab] at ab
    rw [hab]
    by_cases hbc : b.1 = c.1
    · rw [if_pos hbc] at bc ⊢
      exact decide_eq_true (String.le_trans (of_decide_eq_true ab) (of_decide_eq_true bc))
    · rwa [if_neg hbc] at bc ⊢
  · rw [if_neg hab] at ab
    by_cases hbc : b.1 = c.1
    · rwa [← hbc, if_neg hab]
    · rw [if_neg hbc] at bc
      have first := of_decide_eq_true ab
      have second := of_decide_eq_true bc
      rw [if_neg]
      · exact decide_eq_true (String.le_trans first second)
      · -- a name that is not the same comes before for good
        intro hac
        exact hab (String.le_antisymm first (hac ▸ second))

theorem le_total (a b : String × String) : (le a b || le b a) = true := by
  rw [Bool.or_eq_true]
  simp only [le, beq_iff_eq]
  by_cases same : a.1 = b.1
  · rw [if_pos same, if_pos same.symm, decide_eq_true_eq, decide_eq_true_eq]
    exact String.le_total a.2 b.2
  · rw [if_neg same, if_neg (Ne.symm same), decide_eq_true_eq, decide_eq_true_eq]
    exact String.le_total a.1 b.1

theorem le_antisymm {a b : String × String} (ab : le a b = true) (ba : le b a = true) : a = b := by
  simp only [le, beq_iff_eq] at ab ba
  by_cases same : a.1 = b.1
  · rw [if_pos same, decide_eq_true_eq] at ab
    rw [if_pos same.symm, decide_eq_true_eq] at ba
    exact Prod.ext same (String.le_antisymm ab ba)
  · rw [if_neg same, decide_eq_true_eq] at ab
    rw [if_neg (Ne.symm same), decide_eq_true_eq] at ba
    exact absurd (String.le_antisymm ab ba) same

theorem sorted_perm (labels : Labels) : labels.sorted.Perm labels :=
  List.mergeSort_perm labels le

theorem sorted_eq_iff_perm {a b : Labels} : a.sorted = b.sorted ↔ a.Perm b := by
  constructor
  · intro same
    exact (sorted_perm a).symm.trans (same ▸ sorted_perm b)
  · intro perm
    have inOrder := List.pairwise_mergeSort le_trans le_total
    have same := (sorted_perm a).trans (perm.trans (sorted_perm b).symm)
    exact same.eq_of_pairwise (fun _ _ _ _ => le_antisymm) (inOrder a) (inOrder b)

theorem sorted_sorted (labels : Labels) : labels.sorted.sorted = labels.sorted :=
  sorted_eq_iff_perm.2 (sorted_perm labels)

theorem isPerm_iff {a b : Labels} : a.isPerm b = true ↔ a.sorted = b.sorted :=
  List.isPerm_iff.trans sorted_eq_iff_perm.symm

end Hostlink.Labels
