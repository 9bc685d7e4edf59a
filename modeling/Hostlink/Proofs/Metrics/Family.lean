import Hostlink.Metrics.Family
/-!
What is read of a family after an update: the series that was updated has changed, all others are as
they were.
-/

namespace Hostlink.Metrics

variable {α : Type}

namespace Family

theorem lookup_cons_eq (key name : Labels) (value : α) (series : List (Labels × α)) :
    ((name, value) :: series).lookup key =
      if key = name then some value else series.lookup key := by
  by_cases same : key = name
  · rw [if_pos same, same, List.lookup_cons_self]
  · rw [if_neg same, List.lookup_cons, beq_false_of_ne same]

theorem lookup_updateSeries (key labels : Labels) (start : α) (change : α → α)
    (series : List (Labels × α)) :
    (updateSeries labels start change series).lookup key =
      if key = labels then some (change ((series.lookup labels).getD start))
      else series.lookup key := by
  induction series with
  | nil => exact lookup_cons_eq _ _ _ _
  | cons entry rest ih =>
    obtain ⟨name, value⟩ := entry
    unfold updateSeries
    by_cases here : name = labels
    · subst here
      rw [if_pos rfl, lookup_cons_eq, lookup_cons_eq, lookup_cons_eq, if_pos rfl]
      split <;> rfl
    · rw [if_neg here, lookup_cons_eq, lookup_cons_eq, lookup_cons_eq, ih, if_neg (Ne.symm here)]
      by_cases same : key = labels
      · rw [if_pos same, if_pos same, if_neg (same ▸ Ne.symm here)]
      · rw [if_neg same, if_neg same]

theorem get?_update (family : Family α) (labels key : Labels) (start : α) (change : α → α) :
    (family.update labels start change).get? key =
      if key.sorted = labels.sorted then some (change ((family.get? labels).getD start))
      else family.get? key :=
  lookup_updateSeries _ _ _ _ _

end Family

/-- A fold that adds one for some of the items of a list counts them. -/
theorem foldl_eq_countP {β ι : Type} {f : β → ι → β} (get : β → UInt64) (p : ι → Bool)
    (step : ∀ b i, get (f b i) = get b + if p i then 1 else 0) (b : β) (items : List ι) :
    get (items.foldl f b) = get b + UInt64.ofNat (items.countP p) := by
  induction items generalizing b with
  | nil => exact (UInt64.add_zero _).symm
  | cons i items ih =>
    rw [List.foldl_cons, ih, step, List.countP_cons, UInt64.ofNat_add, UInt64.add_assoc]
    cases p i <;> simp [UInt64.add_comm]

theorem foldr_countP_cons {ι : Type} (ps : List (ι → Bool)) (i : ι) (items : List ι) :
    ps.foldr (fun p n => (i :: items).countP p + n) 0 =
      ps.foldr (fun p n => items.countP p + n) 0 + ps.countP (· i) := by
  induction ps with
  | nil => rfl
  | cons p ps ih =>
    rw [List.foldr_cons, ih, List.foldr_cons, List.countP_cons, List.countP_cons]
    omega

/-- Counts add up if each item that counts at all counts for just one of them. -/
theorem foldr_countP {ι : Type} {ps : List (ι → Bool)} {q : ι → Bool} {items : List ι}
    (one : ∀ i ∈ items, ps.countP (· i) = if q i then 1 else 0) :
    ps.foldr (fun p n => items.countP p + n) 0 = items.countP q := by
  induction items with
  | nil =>
    simp only [List.countP_nil]
    induction ps with
    | nil => rfl
    | cons p ps ih => exact (Nat.zero_add _).trans (ih nofun)
  | cons i items ih =>
    rw [foldr_countP_cons, ih fun i mem => one i (List.mem_cons_of_mem _ mem), List.countP_cons,
      one i List.mem_cons_self]

theorem sorted_label_ne (name : String) {value key : String} (differ : value ≠ key) :
    Labels.sorted [(name, key)] ≠ Labels.sorted [(name, value)] := by
  unfold Labels.sorted
  rw [List.mergeSort_singleton, List.mergeSort_singleton]
  simpa using Ne.symm differ

namespace Counter

theorem get_increment_of_ne (counter : Counter) {labels key : Labels}
    (other : key.sorted ≠ labels.sorted) :
    (counter.increment labels).get key = counter.get key := by
  unfold increment add get
  rw [Family.get?_update, if_neg other]

theorem get_increment (counter : Counter) (labels : Labels) :
    (counter.increment labels).get labels = counter.get labels + 1 := by
  unfold increment add get
  rw [Family.get?_update, if_pos rfl]
  rfl

theorem get_increment_label (counter : Counter) (name value key : String) :
    (counter.increment [(name, value)]).get [(name, key)] =
      counter.get [(name, key)] + if value == key then 1 else 0 := by
  by_cases same : value = key
  · rw [same, beq_self_eq_true, if_pos rfl]
    exact get_increment _ _
  · rw [beq_false_of_ne same]
    exact (get_increment_of_ne _ (sorted_label_ne name same)).trans (UInt64.add_zero _).symm

end Counter

namespace Histogram

theorem count_observe_of_ne (histogram : Histogram) {labels key : Labels}
    (other : key.sorted ≠ labels.sorted) (micros : Nat) :
    (histogram.observe labels micros).count key = histogram.count key := by
  unfold observe count
  rw [Family.get?_update, if_neg other]

theorem count_observe (histogram : Histogram) (labels : Labels) (micros : Nat) :
    (histogram.observe labels micros).count labels = histogram.count labels + 1 := by
  unfold observe count
  rw [Family.get?_update, if_pos rfl]
  cases histogram.get? labels <;> rfl

theorem count_observe_label (histogram : Histogram) (name value key : String) (micros : Nat) :
    (histogram.observe [(name, value)] micros).count [(name, key)] =
      histogram.count [(name, key)] + if value == key then 1 else 0 := by
  by_cases same : value = key
  · rw [same, beq_self_eq_true, if_pos rfl]
    exact count_observe _ _ _
  · rw [beq_false_of_ne same]
    exact (count_observe_of_ne _ (sorted_label_ne name same) _).trans (UInt64.add_zero _).symm

end Histogram
end Hostlink.Metrics
