import Hostlink.Proofs.Metrics.History
/-!
How families are kept: the labels of each series are in order, and no two series have the same ones.
So the series whose labels are a permutation of given ones is the one that is found for them.
-/

namespace Hostlink.Metrics

variable {α β : Type}

namespace Family

/-- Each series stands under its labels in order, and only one under each. -/
structure Keyed (family : Family α) : Prop where
  sorted : ∀ s ∈ family.series, s.1.sorted = s.1
  distinct : (family.series.map Prod.fst).Nodup

theorem mem_keys_updateSeries {labels key : Labels} {start : α} {change : α → α}
    {series : List (Labels × α)} :
    key ∈ (updateSeries labels start change series).map Prod.fst ↔
      key = labels ∨ key ∈ series.map Prod.fst := by
  induction series with
  | nil => simp [updateSeries]
  | cons s rest ih =>
    obtain ⟨name, value⟩ := s
    unfold updateSeries
    split
    · next same => simp [same]
    · rw [List.map_cons, List.mem_cons, ih, List.map_cons, List.mem_cons]
      exact or_left_comm

theorem nodup_keys_updateSeries {labels : Labels} {start : α} {change : α → α}
    {series : List (Labels × α)} (distinct : (series.map Prod.fst).Nodup) :
    ((updateSeries labels start change series).map Prod.fst).Nodup := by
  induction series with
  | nil => simp [updateSeries]
  | cons s rest ih =>
    obtain ⟨name, value⟩ := s
    obtain ⟨fresh, others⟩ := List.nodup_cons.1 distinct
    unfold updateSeries
    split
    · exact distinct
    · next differ =>
      refine List.nodup_cons.2 ⟨?_, ih others⟩
      rw [mem_keys_updateSeries, not_or]
      exact ⟨differ, fresh⟩

theorem Keyed.update {family : Family α} (keyed : family.Keyed) (labels : Labels) (start : α)
    (change : α → α) : (family.update labels start change).Keyed where
  sorted := by
    intro s mem
    have isKey := List.mem_map_of_mem (f := Prod.fst) mem
    obtain eq | mem := mem_keys_updateSeries.1 isKey
    · rw [eq, Labels.sorted_sorted]
    · obtain ⟨other, isOther, eq⟩ := List.mem_map.1 mem
      rw [← eq, keyed.sorted other isOther]
  distinct := nodup_keys_updateSeries keyed.distinct

theorem keyed_new : ({} : Family α).Keyed where
  sorted := nofun
  distinct := .nil

/-- What holds of every value is kept if a new value and a changed one have it. -/
theorem forall_update {P : α → Prop} {family : Family α} (all : ∀ s ∈ family.series, P s.2)
    {labels : Labels} {start : α} {change : α → α} (new : P (change start))
    (kept : ∀ value, P value → P (change value)) :
    ∀ s ∈ (family.update labels start change).series, P s.2 := by
  unfold update
  dsimp only
  generalize family.series = series at all
  induction series with
  | nil => simpa [updateSeries] using new
  | cons s rest ih =>
    obtain ⟨name, value⟩ := s
    obtain ⟨first, others⟩ := List.forall_mem_cons.1 all
    unfold updateSeries
    split
    · exact List.forall_mem_cons.2 ⟨kept _ first, others⟩
    · exact List.forall_mem_cons.2 ⟨first, ih others⟩

/-- Of all series only the one that is found for some labels has them in some order. -/
theorem Keyed.flatMap_isPerm {family : Family α} (keyed : family.Keyed) (labels : Labels)
    (f : α → List β) :
    (family.series.flatMap fun s => if s.1.isPerm labels then f s.2 else []) =
      (family.get? labels).elim [] f := by
  obtain ⟨sorted, distinct⟩ := keyed
  unfold get?
  generalize family.series = series at sorted distinct
  induction series with
  | nil => rfl
  | cons s rest ih =>
    obtain ⟨name, value⟩ := s
    obtain ⟨first, others⟩ := List.forall_mem_cons.1 sorted
    obtain ⟨fresh, distinct⟩ := List.nodup_cons.1 distinct
    rw [List.flatMap_cons, lookup_cons_eq, ih others distinct]
    by_cases same : labels.sorted = name
    · subst same
      -- no later series has these labels, so that nothing is found twice
      have absent : rest.lookup labels.sorted = none := by
        rw [List.lookup_eq_none_iff]
        intro other mem
        rw [bne_iff_ne]
        intro eq
        exact fresh (List.mem_map.2 ⟨other, mem, eq.symm⟩)
      rw [if_pos (Labels.isPerm_iff.2 (Labels.sorted_sorted _)), if_pos rfl, absent]
      exact List.append_nil _
    · rw [if_neg same, if_neg]
      · rfl
      · intro perm
        exact same ((Labels.isPerm_iff.1 perm).symm.trans first)

end Family

theorem Counter.keyed_after (calls : List Counter.Call) : (Counter.after calls).Keyed := by
  induction calls using List.reverseRecOn with
  | nil => exact Family.keyed_new
  | append_singleton calls c ih =>
    rw [Counter.after_append_singleton]
    exact ih.update _ _ _

namespace Histogram

theorem keyed_after (observations : List Observation) : (after observations).Keyed := by
  induction observations using List.reverseRecOn with
  | nil => exact Family.keyed_new
  | append_singleton observations o ih =>
    rw [after_append_singleton]
    exact ih.update _ _ _

/-- A distribution has a bucket for each bound. -/
theorem length_buckets_after (observations : List Observation) :
    ∀ s ∈ (after observations).series, s.2.buckets.length = bounds.length := by
  induction observations using List.reverseRecOn with
  | nil => exact nofun
  | append_singleton observations o ih =>
    rw [after_append_singleton]
    apply Family.forall_update (P := fun d : Distribution => d.buckets.length = bounds.length) ih
    · rfl
    · intro d whole
      simp [Distribution.observe, whole]

end Histogram
end Hostlink.Metrics
