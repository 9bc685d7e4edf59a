import Mathlib.Algebra.Ring.Nat
import Mathlib.Data.List.Induction
import Hostlink.Proofs.Metrics.Family
import Hostlink.Proofs.Metrics.Labels
/-!
What counters and histograms tell after any calls. Calls count together if their labels are
permutations of each other: a counter tells the sum of their amounts, as far as 64 bits can hold it,
and a histogram how many durations there were, their sum, and for each bound how many did not exceed
it.
-/

namespace Hostlink.Metrics

namespace Counter

/-- A call that counts for some labels: one more, or so many more. -/
inductive Call where
  | increment (labels : Labels)
  | add (labels : Labels) (n : UInt64)

/-- The labels that a call counts for. -/
def Call.labels : Call → Labels
  | increment labels => labels
  | add labels _ => labels

/-- How many a call counts. -/
def Call.amount : Call → UInt64
  | increment _ => 1
  | add _ n => n

/-- The counter after a call. -/
def call (counter : Counter) : Call → Counter
  | .increment labels => counter.increment labels
  | .add labels n => counter.add labels n

/-- The counter after calls, from a new one on. -/
def after (calls : List Call) : Counter :=
  calls.foldl call {}

/-- The amounts of the calls for some labels, in any order of these. -/
def amounts (calls : List Call) (labels : Labels) : List Nat :=
  (calls.filter (·.labels.isPerm labels)).map (·.amount.toNat)

variable {calls : List Call}

theorem call_eq (counter : Counter) (c : Call) :
    counter.call c = counter.add c.labels c.amount := by
  cases c <;> rfl

theorem after_append_singleton (calls : List Call) (c : Call) :
    after (calls ++ [c]) = (after calls).add c.labels c.amount := by
  unfold after
  rw [List.foldl_append, ← call_eq]
  rfl

theorem get_add (counter : Counter) (labels key : Labels) (n : UInt64) :
    (counter.add labels n).get key = counter.get key + if labels.isPerm key then n else 0 := by
  unfold add get
  rw [Family.get?_update]
  by_cases same : labels.isPerm key = true
  · have sorted := Labels.isPerm_iff.1 same
    rw [if_pos same, if_pos sorted.symm]
    unfold Family.get?
    rw [sorted]
    rfl
  · rw [if_neg same, if_neg fun sorted => same (Labels.isPerm_iff.2 sorted.symm), UInt64.add_zero]

theorem get_add_of_not_perm (counter : Counter) {labels key : Labels} (n : UInt64)
    (other : ¬ labels.Perm key) : (counter.add labels n).get key = counter.get key := by
  rw [get_add, if_neg fun same => other (List.isPerm_iff.1 same), UInt64.add_zero]

theorem amounts_append (calls : List Call) (c : Call) (labels : Labels) :
    (amounts (calls ++ [c]) labels).sum =
      (amounts calls labels).sum + if c.labels.isPerm labels then c.amount.toNat else 0 := by
  unfold amounts
  rw [List.filter_append, List.map_append, List.sum_append, List.filter_cons]
  split <;> simp

theorem get_after (calls : List Call) (labels : Labels) :
    ((after calls).get labels).toNat = (amounts calls labels).sum % UInt64.size := by
  induction calls using List.reverseRecOn with
  | nil => rfl
  | append_singleton calls c ih =>
    rw [after_append_singleton, get_add, UInt64.toNat_add, ih, amounts_append]
    split <;> simp [UInt64.size]

/-- Values are added up from a later start just as from the start. -/
theorem foldl_add_start (series : List (Labels × UInt64)) (start n : UInt64) :
    series.foldl (fun sum s => sum + s.2) (start + n) =
      series.foldl (fun sum s => sum + s.2) start + n := by
  induction series generalizing start with
  | nil => rfl
  | cons entry rest ih =>
    rw [List.foldl_cons, List.foldl_cons, ← ih, UInt64.add_assoc, UInt64.add_comm n,
      UInt64.add_assoc]

theorem foldl_updateSeries (labels : Labels) (n start : UInt64) (series : List (Labels × UInt64)) :
    (Family.updateSeries labels 0 (· + n) series).foldl (fun sum s => sum + s.2) start =
      series.foldl (fun sum s => sum + s.2) start + n := by
  induction series generalizing start with
  | nil => simp [Family.updateSeries]
  | cons entry rest ih =>
    obtain ⟨key, value⟩ := entry
    unfold Family.updateSeries
    split
    · rw [List.foldl_cons, List.foldl_cons, ← foldl_add_start, UInt64.add_assoc]
    · exact ih _

theorem total_add (counter : Counter) (labels : Labels) (n : UInt64) :
    (counter.add labels n).total = counter.total + n :=
  foldl_updateSeries _ _ _ _

/-- The sum over lists of labels of which none is a permutation of another. -/
def sumOver (counter : Counter) (sets : List Labels) : Nat :=
  (sets.map fun labels => (counter.get labels).toNat).sum

theorem sumOver_add {sets : List Labels} (distinct : sets.Pairwise fun a b => ¬ a.Perm b)
    (counter : Counter) {labels key : Labels} (mem : key ∈ sets) (perm : key.Perm labels)
    (n : UInt64) :
    (counter.add labels n).sumOver sets % UInt64.size =
      (counter.sumOver sets + n.toNat) % UInt64.size := by
  obtain ⟨before, behind, rfl⟩ := List.append_of_mem mem
  obtain ⟨-, tail, apart⟩ := List.pairwise_append.1 distinct
  have unchanged (others : List Labels) (differ : ∀ other ∈ others, ¬ labels.Perm other) :
      (others.map fun other => ((counter.add labels n).get other).toNat) =
        others.map fun other => (counter.get other).toNat := by
    apply List.map_congr_left
    intro other isOther
    rw [get_add_of_not_perm counter n (differ other isOther)]
  unfold sumOver
  rw [List.map_append, List.map_cons, List.map_append, List.map_cons,
    unchanged before fun other isBefore same =>
      apart other isBefore key List.mem_cons_self (perm.trans same).symm,
    unchanged behind fun other isBehind same =>
      (List.pairwise_cons.1 tail).1 other isBehind (perm.trans same),
    get_add, if_pos (List.isPerm_iff.2 perm.symm)]
  simp only [List.sum_append, List.sum_cons, UInt64.toNat_add, UInt64.size]
  omega

theorem total_after {sets : List Labels} (distinct : sets.Pairwise fun a b => ¬ a.Perm b)
    (covered : ∀ c ∈ calls, ∃ labels ∈ sets, labels.Perm c.labels) :
    (after calls).total.toNat = (after calls).sumOver sets % UInt64.size := by
  induction calls using List.reverseRecOn with
  | nil =>
    have zero (labels : Labels) : ((after []).get labels).toNat = 0 := rfl
    simp only [sumOver, zero, List.map_const', List.sum_replicate_nat, Nat.mul_zero]
    rfl
  | append_singleton calls c ih =>
    obtain ⟨labels, mem, perm⟩ := covered c (by simp)
    rw [after_append_singleton, total_add, UInt64.toNat_add,
      ih fun other isOther => covered other (List.mem_append_left _ isOther),
      sumOver_add distinct _ mem perm]
    simp [UInt64.size]

end Counter

/-- What a distribution holds that has seen durations, each within 64 bits. -/
structure Distribution.Counts (d : Distribution) (seen : List Nat) : Prop where
  count : d.count.toNat = seen.length
  sum : d.sum.toNat = seen.sum % UInt64.size
  buckets : d.buckets.map UInt64.toNat = bounds.map fun bound => seen.countP (· ≤ bound)

namespace Distribution

/-- A duration as it counts: as far as 64 bits can hold it. -/
def capped (micros : Nat) : Nat :=
  min micros (UInt64.size - 1)

variable {d : Distribution} {seen : List Nat}

theorem counts_new : ({} : Distribution).Counts [] where
  count := rfl
  sum := rfl
  buckets := rfl

theorem toNat_bucket {n : UInt64} {bound micros : Nat} (few : seen.length + 1 < UInt64.size)
    (holds : n.toNat = seen.countP (· ≤ bound)) :
    (if micros ≤ bound then n + 1 else n).toNat = (seen ++ [micros]).countP (· ≤ bound) := by
  have le : seen.countP (· ≤ bound) ≤ seen.length := List.countP_le_length
  rw [List.countP_append, List.countP_singleton]
  by_cases within : micros ≤ bound
  · simp only [within, decide_true, if_true, UInt64.toNat_add, holds]
    exact Nat.mod_eq_of_lt (Nat.lt_of_le_of_lt (Nat.add_le_add_right le 1) few)
  · simp [within, holds]

/-- Each bucket is looked after on its own. -/
theorem toNat_buckets {limits : List Nat} {buckets : List UInt64} {micros : Nat}
    (few : seen.length + 1 < UInt64.size)
    (holds : buckets.map UInt64.toNat = limits.map fun bound => seen.countP (· ≤ bound)) :
    (List.zipWith (fun bound n => if micros ≤ bound then n + 1 else n) limits buckets).map
        UInt64.toNat =
      limits.map fun bound => (seen ++ [micros]).countP (· ≤ bound) := by
  induction limits generalizing buckets with
  | nil => simp
  | cons bound limits ih =>
    cases buckets with
    | nil => simp at holds
    | cons n buckets =>
      simp only [List.map_cons, List.cons.injEq] at holds
      rw [List.zipWith_cons_cons, List.map_cons, List.map_cons, ih holds.2,
        toNat_bucket few holds.1]

theorem Counts.observe (counts : d.Counts seen) (few : seen.length + 1 < UInt64.size)
    (micros : Nat) : (d.observe micros).Counts (seen ++ [capped micros]) where
  count := by
    show (d.count + 1).toNat = _
    rw [UInt64.toNat_add, counts.count, List.length_append]
    exact Nat.mod_eq_of_lt few
  sum := by
    show (d.sum + UInt64.ofNat (capped micros)).toNat = _
    rw [UInt64.toNat_add, counts.sum, List.sum_append, List.sum_singleton, UInt64.toNat_ofNat']
    exact (Nat.add_mod _ _ _).symm
  buckets := toNat_buckets few counts.buckets

/-- No bucket holds more than the next one, whose bound is greater. -/
theorem Counts.ascending (counts : d.Counts seen) : d.buckets.Pairwise (· ≤ ·) := by
  have bounds_ascend : bounds.Pairwise (· ≤ ·) := by decide
  have ascend : (d.buckets.map UInt64.toNat).Pairwise (· ≤ ·) := by
    rw [counts.buckets, List.pairwise_map]
    apply bounds_ascend.imp
    intro bound next le
    apply List.countP_mono_left
    intro micros _ within
    exact decide_eq_true (Nat.le_trans (of_decide_eq_true within) le)
  exact (List.pairwise_map.1 ascend).imp UInt64.le_iff_toNat_le.2

theorem Counts.le_count (counts : d.Counts seen) {n : UInt64} (mem : n ∈ d.buckets) :
    n ≤ d.count := by
  have held := List.mem_map_of_mem (f := UInt64.toNat) mem
  rw [counts.buckets] at held
  obtain ⟨bound, -, eq⟩ := List.mem_map.1 held
  rw [UInt64.le_iff_toNat_le, counts.count, ← eq]
  exact List.countP_le_length

end Distribution

namespace Histogram

/-- A call that takes a duration in, in microseconds, for some labels. -/
structure Observation where
  labels : Labels
  micros : Nat

/-- The histogram after calls, from a new one on. -/
def after (observations : List Observation) : Histogram :=
  observations.foldl (fun histogram o => histogram.observe o.labels o.micros) {}

/-- The durations for some labels, in any order of these. -/
def durations (observations : List Observation) (labels : Labels) : List Nat :=
  (observations.filter (·.labels.isPerm labels)).map (Distribution.capped ·.micros)

theorem after_append_singleton (observations : List Observation) (o : Observation) :
    after (observations ++ [o]) = (after observations).observe o.labels o.micros := by
  unfold after
  rw [List.foldl_append]
  rfl

theorem durations_append (observations : List Observation) (o : Observation) (labels : Labels) :
    durations (observations ++ [o]) labels = durations observations labels ++
      if o.labels.isPerm labels then [Distribution.capped o.micros] else [] := by
  unfold durations
  rw [List.filter_append, List.map_append, List.filter_cons]
  split <;> rfl

theorem length_durations_le (observations : List Observation) (labels : Labels) :
    (durations observations labels).length ≤ observations.length := by
  unfold durations
  rw [List.length_map]
  exact List.length_filter_le _ _

theorem get?_observe (histogram : Histogram) (labels key : Labels) (micros : Nat) :
    (histogram.observe labels micros).get? key =
      if labels.isPerm key then some (((histogram.get? key).getD {}).observe micros)
      else histogram.get? key := by
  unfold observe
  rw [Family.get?_update]
  by_cases same : labels.isPerm key = true
  · have sorted := Labels.isPerm_iff.1 same
    rw [if_pos same, if_pos sorted.symm]
    unfold Family.get?
    rw [sorted]
  · rw [if_neg same, if_neg fun sorted => same (Labels.isPerm_iff.2 sorted.symm)]

/-- Labels have a distribution if there were durations for them, and it has seen just these. -/
theorem counts_after {observations : List Observation} (few : observations.length < UInt64.size)
    (labels : Labels) :
    ((after observations).get? labels = none ↔ durations observations labels = []) ∧
      (((after observations).get? labels).getD {}).Counts (durations observations labels) := by
  induction observations using List.reverseRecOn with
  | nil => exact ⟨⟨fun _ => rfl, fun _ => rfl⟩, Distribution.counts_new⟩
  | append_singleton observations o ih =>
    rw [List.length_append, List.length_singleton] at few
    obtain ⟨untouched, counts⟩ := ih (Nat.lt_of_succ_lt few)
    rw [after_append_singleton, get?_observe, durations_append]
    by_cases same : o.labels.isPerm labels = true
    · have fewer := Nat.add_le_add_right (length_durations_le observations labels) 1
      simp only [if_pos same]
      exact ⟨by simp, counts.observe (Nat.lt_of_le_of_lt fewer few) o.micros⟩
    · simp only [if_neg same, List.append_nil]
      exact ⟨untouched, counts⟩

theorem count_eq (histogram : Histogram) (labels : Labels) :
    histogram.count labels = ((histogram.get? labels).getD {}).count := by
  unfold count
  cases histogram.get? labels <;> rfl

end Histogram

/--
A counter after any calls: for each labels it tells the sum of the amounts of the calls with these
labels in any order, modulo `2 ^ 64`; a call for other labels does not change what it tells; the
total is the sum over the sets of labels, if it is below `2 ^ 64`. A histogram after fewer than
`2 ^ 64` calls: for each labels, how many durations there were, their sum modulo `2 ^ 64`, and in
each bucket how many of them did not exceed its bound, so that the buckets ascend up to the count.
-/
theorem history_counted (calls : List Counter.Call) (observations : List Histogram.Observation)
    (few : observations.length < UInt64.size) :
    let counter := Counter.after calls
    let histogram := Histogram.after observations
    (∀ labels, (counter.get labels).toNat =
      (Counter.amounts calls labels).sum % UInt64.size) ∧
    (∀ call labels, ¬ call.labels.Perm labels →
      (counter.call call).get labels = counter.get labels) ∧
    (∀ sets : List Labels, sets.Pairwise (fun a b => ¬ a.Perm b) →
      (∀ call ∈ calls, ∃ labels ∈ sets, labels.Perm call.labels) →
      counter.sumOver sets < UInt64.size → counter.total.toNat = counter.sumOver sets) ∧
    ∀ labels, let seen := Histogram.durations observations labels
      (histogram.count labels).toNat = seen.length ∧
      (histogram.get? labels = none ↔ seen = []) ∧
      ∀ d, histogram.get? labels = some d →
        d.count.toNat = seen.length ∧ d.sum.toNat = seen.sum % UInt64.size ∧
        d.buckets.map UInt64.toNat = bounds.map (fun bound => seen.countP (· ≤ bound)) ∧
        d.buckets.Pairwise (· ≤ ·) ∧ ∀ n ∈ d.buckets, n ≤ d.count := by
  intro counter histogram
  refine ⟨Counter.get_after calls, ?_, ?_, ?_⟩
  · intro call labels other
    rw [Counter.call_eq, Counter.get_add_of_not_perm _ _ other]
  · intro sets distinct covered small
    rw [Counter.total_after distinct covered, Nat.mod_eq_of_lt small]
  · intro labels seen
    obtain ⟨untouched, counts⟩ := Histogram.counts_after few labels
    refine ⟨?_, untouched, ?_⟩
    · rw [Histogram.count_eq, counts.count]
    · intro d found
      have counts : d.Counts seen := by
        have := counts
        rwa [found] at this
      exact ⟨counts.count, counts.sum, counts.buckets, counts.ascending, fun _ => counts.le_count⟩

theorem history_counted_wrapped :
    let calls : List Counter.Call := [.add [("kind", "a"), ("op", "b")] 18446744073709551615,
      .increment [("op", "b"), ("kind", "a")], .add [] 3]
    let observations : List Histogram.Observation :=
      [⟨[("kind", "a"), ("op", "b")], 500⟩, ⟨[], 7⟩, ⟨[("op", "b"), ("kind", "a")], 501⟩]
    observations.length < UInt64.size ∧
      ((Counter.after calls).get [("op", "b"), ("kind", "a")]).toNat = 0 ∧
      (Counter.after calls).total.toNat = 3 ∧
      ∃ d, (Histogram.after observations).get? [("op", "b"), ("kind", "a")] = some d ∧
        d.sum.toNat = 1001 ∧ d.buckets.map UInt64.toNat = [0, 1, 2, 2, 2, 2, 2, 2, 2] := by
  intro calls observations
  have few : observations.length < UInt64.size := by decide
  obtain ⟨tells, -, total, holds⟩ := history_counted calls observations few
  have both : ((Counter.after calls).get [("op", "b"), ("kind", "a")]).toNat = 0 :=
    (tells _).trans (by decide)
  have bare : ((Counter.after calls).get []).toNat = 3 := (tells _).trans (by decide)
  obtain ⟨-, untouched, held⟩ := holds [("op", "b"), ("kind", "a")]
  have summed : (Counter.after calls).sumOver [[("op", "b"), ("kind", "a")], []] = 3 := by
    simp only [Counter.sumOver, List.map_cons, List.map_nil, both, bare]
    rfl
  refine ⟨few, both, ?_, ?_⟩
  · rw [← summed]
    exact total _ (by decide) (by decide) (summed ▸ by decide)
  · cases found : (Histogram.after observations).get? [("op", "b"), ("kind", "a")] with
    | none => exact absurd (untouched.1 found) (by decide)
    | some d =>
      obtain ⟨-, sum, buckets, -⟩ := held d found
      exact ⟨d, rfl, sum.trans (by decide), buckets.trans (by decide)⟩

end Hostlink.Metrics
