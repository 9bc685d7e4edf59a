import Hostlink.Proofs.Lookup
import Hostlink.Proofs.Metrics.Keyed
import Hostlink.Proofs.Metrics.Sample
/-!
The samples that metrics have, whatever their order, and what is found among them: for each name and
each labels, in any order of these, the value that is kept for them.
-/

namespace Hostlink.Metrics

variable {α : Type}

/-- The values of the samples that have a name, and labels that are given ones in any order. -/
def valuesOf (samples : List Sample) (name : String) (labels : Labels) : List UInt64 :=
  (samples.filter fun s => s.name == name && s.labels.isPerm labels).map (·.value)

/-- The sample of a counter for some labels. -/
def counterSamples (name : String) (labels : Labels) (value : UInt64) : List Sample :=
  [⟨name, labels, value⟩]

/-- What does not exceed each bound of a distribution, by the text of the bound. -/
def Distribution.cumulative (d : Distribution) : List (String × UInt64) :=
  (bounds.map toString ++ ["+Inf"]).zip (d.buckets ++ [d.count])

/-- The samples of a distribution for some labels. -/
def distributionSamples (name : String) (labels : Labels) (d : Distribution) : List Sample :=
  (d.cumulative.map fun b => ⟨name ++ "_bucket", labels ++ [("le", b.1)], b.2⟩) ++
    [⟨name ++ "_sum", labels, d.sum⟩, ⟨name ++ "_count", labels, d.count⟩]

/-- The samples of a family. -/
def familySamples (samples : String → Labels → α → List Sample) (name : String)
    (family : Family α) : List Sample :=
  family.series.flatMap fun s => samples name s.1 s.2

/-- The counters with the names of their samples. -/
def counters (m : Metrics) : List (String × Counter) :=
  [("plugwire_frames_in_total", m.framesIn), ("plugwire_frames_out_total", m.framesOut),
    ("plugwire_malformed_frames_total", m.malformedFrames),
    ("plugwire_sink_errors_total", m.sinkErrors), ("plugwire_unroutable_total", m.unroutable),
    ("plugwire_handler_failures_total", m.handlerFailures),
    ("plugwire_orphan_responses_total", m.orphanResponses)]

/-- The name of the durations, which stands in front of the names of their samples. -/
def durationName : String :=
  "plugwire_dispatch_duration_micros"

/-- The samples of all metrics. -/
def samples (m : Metrics) : List Sample :=
  (m.counters.flatMap fun c => familySamples counterSamples c.1 c.2) ++
    familySamples distributionSamples durationName m.dispatchDuration

/-- The names of the samples of counters. -/
def counterNames : List String :=
  ["plugwire_frames_in_total", "plugwire_frames_out_total", "plugwire_malformed_frames_total",
    "plugwire_sink_errors_total", "plugwire_unroutable_total", "plugwire_handler_failures_total",
    "plugwire_orphan_responses_total"]

/-- The names of the samples of durations. -/
def durationNames : List String :=
  [durationName ++ "_bucket", durationName ++ "_sum", durationName ++ "_count"]

theorem map_fst_counters (m : Metrics) : m.counters.map Prod.fst = counterNames :=
  rfl

section Values

variable {name : String} {labels : Labels}

theorem valuesOf_append (first second : List Sample) (name : String) (labels : Labels) :
    valuesOf (first ++ second) name labels =
      valuesOf first name labels ++ valuesOf second name labels := by
  unfold valuesOf
  rw [List.filter_append, List.map_append]

theorem valuesOf_flatMap (items : List α) (f : α → List Sample) (name : String) (labels : Labels) :
    valuesOf (items.flatMap f) name labels =
      items.flatMap fun item => valuesOf (f item) name labels := by
  unfold valuesOf
  rw [List.filter_flatMap, List.map_flatMap]

theorem valuesOf_eq_nil {samples : List Sample} (other : ∀ s ∈ samples, s.name ≠ name) :
    valuesOf samples name labels = [] := by
  unfold valuesOf
  rw [List.map_eq_nil_iff, List.filter_eq_nil_iff]
  intro s mem
  simp [other s mem]

theorem valuesOf_perm {samples others : List Sample} (perm : samples.Perm others) (name : String)
    (labels : Labels) : (valuesOf samples name labels).Perm (valuesOf others name labels) :=
  (perm.filter _).map _

/-- One value at most does not depend on the order of the samples. -/
theorem valuesOf_eq_of_perm {samples others : List Sample} (perm : samples.Perm others)
    {value : Option UInt64} (h : valuesOf others name labels = value.toList) :
    valuesOf samples name labels = value.toList := by
  have same := h ▸ valuesOf_perm perm name labels
  cases value with
  | none => exact same.eq_nil
  | some value => exact List.perm_singleton.1 same

theorem valuesOf_cons (s : Sample) (rest : List Sample) (name : String) (labels : Labels) :
    valuesOf (s :: rest) name labels =
      (if s.name = name ∧ s.labels.isPerm labels then [s.value] else []) ++
        valuesOf rest name labels := by
  unfold valuesOf
  rw [List.filter_cons]
  by_cases same : s.name = name ∧ s.labels.isPerm labels
  · simp [same]
  · rw [if_neg same, if_neg (by simpa using same)]
    rfl

end Values

theorem name_of_mem_counter {name : String} {counter : Counter} {s : Sample}
    (mem : s ∈ familySamples counterSamples name counter) : s.name = name := by
  obtain ⟨series, -, mem⟩ := List.mem_flatMap.1 mem
  rw [List.mem_singleton.1 mem]

theorem name_of_mem_distribution {labels : Labels} {d : Distribution} {s : Sample}
    (mem : s ∈ distributionSamples durationName labels d) : s.name ∈ durationNames := by
  obtain mem | mem := List.mem_append.1 mem
  · obtain ⟨b, -, rfl⟩ := List.mem_map.1 mem
    exact .head _
  · obtain rfl | mem := List.mem_cons.1 mem
    · exact .tail _ (.head _)
    · rw [List.mem_singleton.1 mem]
      exact .tail _ (.tail _ (.head _))

theorem name_of_mem_durations {histogram : Histogram} {s : Sample}
    (mem : s ∈ familySamples distributionSamples durationName histogram) :
    s.name ∈ durationNames := by
  obtain ⟨series, -, mem⟩ := List.mem_flatMap.1 mem
  exact name_of_mem_distribution mem

theorem valuesOf_counter {counter : Counter} (keyed : counter.Keyed) (name : String)
    (labels : Labels) :
    valuesOf (familySamples counterSamples name counter) name labels =
      (counter.get? labels).toList := by
  have one (s : Labels × UInt64) : valuesOf (counterSamples name s.1 s.2) name labels =
      if s.1.isPerm labels then [s.2] else [] := by
    unfold counterSamples
    rw [valuesOf_cons]
    simp [valuesOf]
  unfold familySamples
  rw [valuesOf_flatMap, funext one, keyed.flatMap_isPerm labels fun value => [value]]
  cases counter.get? labels <;> rfl

theorem valuesOf_counters {list : List (String × Counter)} (distinct : (list.map Prod.fst).Nodup)
    (keyed : ∀ c ∈ list, c.2.Keyed) {c : String × Counter} (mem : c ∈ list) (labels : Labels) :
    valuesOf (list.flatMap fun c => familySamples counterSamples c.1 c.2) c.1 labels =
      (c.2.get? labels).toList := by
  induction list with
  | nil => cases mem
  | cons first rest ih =>
    -- samples of one counter are never found under the name of another
    obtain ⟨fresh, distinct⟩ := List.nodup_cons.1 distinct
    obtain ⟨one, others⟩ := List.forall_mem_cons.1 keyed
    rw [List.flatMap_cons, valuesOf_append]
    obtain rfl | later := List.mem_cons.1 mem
    · rw [valuesOf_counter one, valuesOf_eq_nil, List.append_nil]
      intro s mem same
      obtain ⟨other, isOther, mem⟩ := List.mem_flatMap.1 mem
      rw [name_of_mem_counter mem] at same
      exact fresh (List.mem_map.2 ⟨other, isOther, same⟩)
    · rw [ih distinct others later, valuesOf_eq_nil, List.nil_append]
      intro s mem same
      rw [name_of_mem_counter mem] at same
      exact fresh (List.mem_map.2 ⟨c, later, same.symm⟩)

/-- A label with a name that is new to the first labels does not matter behind both. -/
theorem append_perm_append {key labels : Labels} {name value other : String}
    (fresh : ∀ l ∈ key, l.1 ≠ name) :
    (key ++ [(name, other)]).Perm (labels ++ [(name, value)]) ↔
      other = value ∧ key.Perm labels := by
  constructor
  · intro perm
    -- the label put behind the one side can only be the one put behind the other
    have mem : (name, value) ∈ key ++ [(name, other)] := perm.mem_iff.2 (by simp)
    obtain mem | mem := List.mem_append.1 mem
    · exact absurd rfl (fresh _ mem)
    · have same : value = other := congrArg Prod.snd (List.mem_singleton.1 mem)
      subst same
      exact ⟨rfl, (List.perm_append_right_iff _).1 perm⟩
  · rintro ⟨rfl, perm⟩
    exact perm.append_right _

section Durations

variable {name : String} {key labels : Labels} {d : Distribution} {histogram : Histogram}

theorem Distribution.map_fst_cumulative (whole : d.buckets.length = bounds.length) :
    d.cumulative.map Prod.fst = bounds.map toString ++ ["+Inf"] := by
  unfold cumulative
  exact List.map_fst_zip (by simp [whole])

theorem Distribution.nodup_cumulative (whole : d.buckets.length = bounds.length) :
    (d.cumulative.map Prod.fst).Nodup := by
  rw [map_fst_cumulative whole]
  decide

theorem valuesOf_buckets_eq_nil {other : String} (differ : name ++ "_bucket" ≠ other) :
    valuesOf (d.cumulative.map fun b => ⟨name ++ "_bucket", key ++ [("le", b.1)], b.2⟩) other
      labels = [] := by
  apply valuesOf_eq_nil
  intro s mem
  obtain ⟨b, -, rfl⟩ := List.mem_map.1 mem
  exact differ

theorem valuesOf_sum (name : String) (key labels : Labels) (d : Distribution) :
    valuesOf (distributionSamples name key d) (name ++ "_sum") labels =
      if key.isPerm labels then [d.sum] else [] := by
  unfold distributionSamples
  rw [valuesOf_append, valuesOf_buckets_eq_nil (by simp), valuesOf_cons, valuesOf_cons]
  simp [valuesOf]

theorem valuesOf_count (name : String) (key labels : Labels) (d : Distribution) :
    valuesOf (distributionSamples name key d) (name ++ "_count") labels =
      if key.isPerm labels then [d.count] else [] := by
  unfold distributionSamples
  rw [valuesOf_append, valuesOf_buckets_eq_nil (by simp), valuesOf_cons, valuesOf_cons]
  simp [valuesOf]

theorem valuesOf_bucket (fresh : ∀ l ∈ key, l.1 ≠ "le")
    (whole : d.buckets.length = bounds.length) (bound : String) :
    valuesOf (distributionSamples name key d) (name ++ "_bucket") (labels ++ [("le", bound)]) =
      if key.isPerm labels then (d.cumulative.lookup bound).toList else [] := by
  have here (b : String × UInt64) :
      (key ++ [("le", b.1)]).isPerm (labels ++ [("le", bound)]) =
        (b.1 == bound && key.isPerm labels) := by
    rw [Bool.eq_iff_iff, Bool.and_eq_true, beq_iff_eq, List.isPerm_iff, List.isPerm_iff]
    exact append_perm_append fresh
  have others : valuesOf [⟨name ++ "_sum", key, d.sum⟩, ⟨name ++ "_count", key, d.count⟩]
      (name ++ "_bucket") (labels ++ [("le", bound)]) = [] := by
    apply valuesOf_eq_nil
    simp
  unfold distributionSamples
  rw [valuesOf_append, others, List.append_nil,
    ← filter_fst_eq_lookup (Distribution.nodup_cumulative whole)]
  unfold valuesOf
  rw [List.filter_map, List.map_map]
  simp only [Function.comp_def, here, beq_self_eq_true, Bool.true_and]
  cases key.isPerm labels <;> simp

/-- What each distribution has under its own labels is found under these. -/
theorem valuesOf_histogram (keyed : histogram.Keyed) {sample : String} {under : Labels}
    {f : Distribution → Option UInt64}
    (one : ∀ s ∈ histogram.series, valuesOf (distributionSamples name s.1 s.2) sample under =
      if s.1.isPerm labels then (f s.2).toList else []) :
    valuesOf (familySamples distributionSamples name histogram) sample under =
      ((histogram.get? labels).bind f).toList := by
  unfold familySamples
  rw [valuesOf_flatMap, List.flatMap_congr one, keyed.flatMap_isPerm labels fun d => (f d).toList]
  cases histogram.get? labels <;> rfl

end Durations

/-- Whether labels can have a name: it is free of what has a meaning, and buckets do not have it. -/
structure IsLabelName (name : String) : Prop where
  plain : Sample.IsPlain name
  free : name ≠ "le"

/-- Whether the labels of all series have names that labels can have. -/
structure Named (m : Metrics) : Prop where
  counters : ∀ c ∈ m.counters, ∀ s ∈ c.2.series, ∀ l ∈ s.1, IsLabelName l.1
  durations : ∀ s ∈ m.dispatchDuration.series, ∀ l ∈ s.1, IsLabelName l.1

/-- Whether metrics are those after some calls. -/
structure Reached (m : Metrics) : Prop where
  counters : ∀ c ∈ m.counters, ∃ calls, c.2 = Counter.after calls
  durations : ∃ observations, m.dispatchDuration = Histogram.after observations

/--
Whether samples tell what metrics hold: for all labels, in any order, what each counter counts, and
for durations each bucket up to the one without a bound, the sum and the count. What is not held for
some labels is not told for them.
-/
structure ToldBy (m : Metrics) (found : List Sample) : Prop where
  counters : ∀ c ∈ m.counters, ∀ labels, valuesOf found c.1 labels = (c.2.get? labels).toList
  buckets : ∀ labels bound,
    valuesOf found (durationName ++ "_bucket") (labels ++ [("le", bound)]) =
      ((m.dispatchDuration.get? labels).bind (·.cumulative.lookup bound)).toList
  sums : ∀ labels, valuesOf found (durationName ++ "_sum") labels =
    ((m.dispatchDuration.get? labels).map (·.sum)).toList
  counts : ∀ labels, valuesOf found (durationName ++ "_count") labels =
    ((m.dispatchDuration.get? labels).map (·.count)).toList

variable {m : Metrics}

theorem Reached.keyed (reached : m.Reached) : ∀ c ∈ m.counters, c.2.Keyed := by
  intro c mem
  obtain ⟨calls, eq⟩ := reached.counters c mem
  exact eq ▸ Counter.keyed_after calls

theorem Reached.keyed_durations (reached : m.Reached) : m.dispatchDuration.Keyed := by
  obtain ⟨observations, eq⟩ := reached.durations
  exact eq ▸ Histogram.keyed_after observations

theorem Reached.whole (reached : m.Reached) :
    ∀ s ∈ m.dispatchDuration.series, s.2.buckets.length = bounds.length := by
  obtain ⟨observations, eq⟩ := reached.durations
  exact eq ▸ Histogram.length_buckets_after observations

theorem counterName_mem {c : String × Counter} (mem : c ∈ m.counters) : c.1 ∈ counterNames := by
  rw [← map_fst_counters m]
  exact List.mem_map_of_mem mem

theorem not_mem_durationNames {name : String} (mem : name ∈ counterNames) :
    name ∉ durationNames := by
  revert name
  decide

theorem name_of_mem_counters {s : Sample}
    (mem : s ∈ m.counters.flatMap fun c => familySamples counterSamples c.1 c.2) :
    s.name ∈ counterNames := by
  obtain ⟨c, isCounter, mem⟩ := List.mem_flatMap.1 mem
  rw [name_of_mem_counter mem]
  exact counterName_mem isCounter

theorem name_of_mem_samples {s : Sample} (mem : s ∈ m.samples) :
    s.name ∈ counterNames ++ durationNames := by
  obtain mem | mem := List.mem_append.1 mem
  · exact List.mem_append_left _ (name_of_mem_counters mem)
  · exact List.mem_append_right _ (name_of_mem_durations mem)

theorem valuesOf_samples_of_mem_durationNames {name : String} (mem : name ∈ durationNames)
    (labels : Labels) : valuesOf m.samples name labels =
      valuesOf (familySamples distributionSamples durationName m.dispatchDuration) name
        labels := by
  unfold samples
  rw [valuesOf_append, valuesOf_eq_nil, List.nil_append]
  rintro s isCounter rfl
  exact not_mem_durationNames (name_of_mem_counters isCounter) mem

theorem toldBy_samples (reached : m.Reached) (named : m.Named) : m.ToldBy m.samples where
  counters := by
    intro c mem labels
    unfold samples
    rw [valuesOf_append, valuesOf_counters (by rw [map_fst_counters]; decide) reached.keyed mem,
      valuesOf_eq_nil, List.append_nil]
    intro s isDuration same
    exact not_mem_durationNames (counterName_mem mem) (same ▸ name_of_mem_durations isDuration)
  buckets := by
    intro labels bound
    rw [valuesOf_samples_of_mem_durationNames (by decide)]
    apply valuesOf_histogram reached.keyed_durations
    intro s mem
    exact valuesOf_bucket (fun l isLabel => (named.durations s mem l isLabel).free)
      (reached.whole s mem) bound
  sums := by
    intro labels
    rw [valuesOf_samples_of_mem_durationNames (by decide), Option.map_eq_bind]
    exact valuesOf_histogram reached.keyed_durations fun s _ => valuesOf_sum _ _ _ _
  counts := by
    intro labels
    rw [valuesOf_samples_of_mem_durationNames (by decide), Option.map_eq_bind]
    exact valuesOf_histogram reached.keyed_durations fun s _ => valuesOf_count _ _ _ _

/-- The order of samples does not matter, since there is one at most for each name and labels. -/
theorem ToldBy.of_perm {found others : List Sample} (told : m.ToldBy others)
    (perm : found.Perm others) : m.ToldBy found where
  counters c mem labels := valuesOf_eq_of_perm perm (told.counters c mem labels)
  buckets labels bound := valuesOf_eq_of_perm perm (told.buckets labels bound)
  sums labels := valuesOf_eq_of_perm perm (told.sums labels)
  counts labels := valuesOf_eq_of_perm perm (told.counts labels)

/-- Samples of other names do not change what is told. -/
theorem ToldBy.append {found others : List Sample} (told : m.ToldBy found)
    (other : ∀ s ∈ others, s.name ∉ counterNames ++ durationNames) :
    m.ToldBy (found ++ others) := by
  have same {name : String} (mem : name ∈ counterNames ++ durationNames) (labels : Labels) :
      valuesOf (found ++ others) name labels = valuesOf found name labels := by
    have none : valuesOf others name labels = [] := by
      apply valuesOf_eq_nil
      rintro s isOther rfl
      exact other s isOther mem
    rw [valuesOf_append, none, List.append_nil]
  constructor
  · intro c mem labels
    rw [same (List.mem_append_left _ (counterName_mem mem)), told.counters c mem]
  · intro labels bound
    rw [same (by decide), told.buckets]
  · intro labels
    rw [same (by decide), told.sums]
  · intro labels
    rw [same (by decide), told.counts]

end Hostlink.Metrics
