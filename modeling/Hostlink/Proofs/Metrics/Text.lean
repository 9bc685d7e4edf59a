import Hostlink.Proofs.Metrics.Listing
/-!
The text of metrics is read back line by line: what is read are the samples of all metrics, whatever
the values of labels are, and the further ones behind them.
-/

namespace Hostlink.Metrics

variable {α : Type}

theorem labelsText_append_singleton (labels : Labels) (label : String × String) :
    labelsText (labels ++ [label]) =
      (if (labelsText labels).isEmpty then "" else labelsText labels ++ ",") ++
        labelText label := by
  rw [Sample.labelsText_isEmpty]
  unfold labelsText
  cases labels with
  | nil => simp
  | cons first rest =>
    rw [List.map_append, String.intercalate_append_of_ne_nil (by simp) (by simp)]
    simp

/-- The texts of bounds are the same as values of labels. -/
theorem labelText_bound {bound : String} (mem : bound ∈ bounds.map toString ++ ["+Inf"]) :
    labelText ("le", bound) = "le=\"" ++ bound ++ "\"" := by
  revert bound
  decide

theorem cumulative_eq {d : Distribution} (whole : d.buckets.length = bounds.length) :
    d.cumulative =
      (bounds.zip d.buckets).map (fun b => (toString b.1, b.2)) ++ [("+Inf", d.count)] := by
  unfold Distribution.cumulative
  rw [List.zip_append (by simp [whole]), List.zip_map_left]
  rfl

theorem distributionLines_eq (name : String) (labels : Labels) {d : Distribution}
    (whole : d.buckets.length = bounds.length) :
    distributionLines name labels d = (distributionSamples name labels d).map Sample.line := by
  have bucket : ∀ b ∈ d.cumulative, sampleLine (name ++ "_bucket")
      ((if (labelsText labels).isEmpty then "" else labelsText labels ++ ",") ++ "le=\"" ++ b.1 ++
        "\"") b.2 = Sample.line ⟨name ++ "_bucket", labels ++ [("le", b.1)], b.2⟩ := by
    intro b mem
    unfold Sample.line
    dsimp only
    rw [labelsText_append_singleton, labelText_bound (List.of_mem_zip mem).1, String.append_assoc,
      String.append_assoc, String.append_assoc]
  unfold distributionSamples
  rw [List.map_append, List.map_map, Function.comp_def, ← List.map_congr_left bucket,
    cumulative_eq whole, List.map_append, List.map_map, List.map_zip_eq_zipWith,
    List.append_assoc]
  rfl

theorem isIdentifier_of_mem {name : String} (mem : name ∈ counterNames ++ durationNames) :
    Sample.isIdentifier name = true := by
  revert name
  decide

theorem isWritable_counterSamples {name : String} (mem : name ∈ counterNames) {labels : Labels}
    (plain : ∀ l ∈ labels, Sample.IsPlain l.1) (value : UInt64) :
    ∀ s ∈ counterSamples name labels value, s.IsWritable := by
  intro s isSample
  rw [List.mem_singleton.1 isSample]
  exact ⟨isIdentifier_of_mem (List.mem_append_left _ mem), plain⟩

theorem isWritable_distributionSamples {labels : Labels} (plain : ∀ l ∈ labels, Sample.IsPlain l.1)
    (d : Distribution) : ∀ s ∈ distributionSamples durationName labels d, s.IsWritable := by
  have bound_plain : Sample.IsPlain "le" := by simp [Sample.IsPlain, Sample.structural]
  intro s isSample
  refine ⟨isIdentifier_of_mem (List.mem_append_right _ (name_of_mem_distribution isSample)), ?_⟩
  obtain isSample | isSample := List.mem_append.1 isSample
  · obtain ⟨b, -, rfl⟩ := List.mem_map.1 isSample
    intro l isLabel
    obtain isLabel | isLabel := List.mem_append.1 isLabel
    · exact plain l isLabel
    · rw [List.mem_singleton.1 isLabel]
      exact bound_plain
  · obtain rfl | isSample := List.mem_cons.1 isSample
    · exact plain
    · rw [List.mem_singleton.1 isSample]
      exact plain

/--
Lines that spell samples: those that hold any are read as these, and besides them there are so many
comments. No line has a line end within.
-/
structure Spell (lines : List String) (samples : List Sample) (comments : Nat) : Prop where
  read : Sample.ofLines? (lines.map String.toList) = some samples
  free : ∀ line ∈ lines, '\n' ∉ line.toList
  length : lines.length = samples.length + comments

theorem Spell.append {lines more : List String} {samples others : List Sample} {n k : Nat}
    (spell : Spell lines samples n) (also : Spell more others k) :
    Spell (lines ++ more) (samples ++ others) (n + k) where
  read := by
    rw [List.map_append]
    exact Sample.ofLines?_append spell.read also.read
  free := by
    intro line mem
    obtain mem | mem := List.mem_append.1 mem
    · exact spell.free line mem
    · exact also.free line mem
  length := by
    rw [List.length_append, List.length_append, spell.length, also.length]
    omega

theorem spell_lines {samples : List Sample} (writable : ∀ s ∈ samples, s.IsWritable) :
    Spell (samples.map Sample.line) samples 0 where
  read := by
    rw [List.map_map]
    exact Sample.ofLines?_lines writable
  free := by
    intro line mem
    obtain ⟨s, isSample, rfl⟩ := List.mem_map.1 mem
    exact Sample.newline_not_mem_line (writable s isSample)
  length := List.length_map _

/-- The line in front of a family is a comment. -/
theorem spell_comment (rest : String) (free : '\n' ∉ rest.toList) :
    Spell ["# TYPE " ++ rest] [] 1 where
  read := Sample.ofLines?_skip (by simp [Sample.isSampleLine]) []
  free := by simpa using free
  length := rfl

/-- A family is spelled series by series, in the order of their lines. -/
theorem spell_family {kind name : String} {lines : String → Labels → α → List String}
    {samples : String → Labels → α → List Sample} {family : Family α}
    (identifier : Sample.isIdentifier name = true) (free : '\n' ∉ kind.toList)
    (same : ∀ s ∈ family.series, lines name s.1 s.2 = (samples name s.1 s.2).map Sample.line)
    (writable : ∀ s ∈ family.series, ∀ sample ∈ samples name s.1 s.2, sample.IsWritable) :
    ∃ spelled, spelled.Perm (familySamples samples name family) ∧
      Spell (familyLines kind name lines family) spelled 1 := by
  let inOrder := family.series.mergeSort fun a b =>
    comesFirst (lines name a.1 a.2) (lines name b.1 b.2)
  have perm : inOrder.Perm family.series := List.mergeSort_perm _ _
  have lines_eq : familyLines kind name lines family =
      ["# TYPE " ++ (name ++ " " ++ kind)] ++
        (inOrder.flatMap fun s => samples name s.1 s.2).map Sample.line := by
    -- to sort the lines of series is to sort the series by their lines
    have sorted : inOrder.map (fun s => lines name s.1 s.2) =
        (family.series.map fun s => lines name s.1 s.2).mergeSort comesFirst :=
      List.map_mergeSort fun _ _ _ _ => rfl
    unfold familyLines
    dsimp only
    rw [← sorted, List.map_flatMap, ← List.flatMap_def,
      List.flatMap_congr fun s mem => same s (perm.mem_iff.1 mem), String.append_assoc,
      String.append_assoc, String.append_assoc]
    rfl
  refine ⟨inOrder.flatMap fun s => samples name s.1 s.2, perm.flatMap_right _, ?_⟩
  rw [lines_eq]
  have name_free : '\n' ∉ name.toList :=
    fun mem => (Sample.of_isIdentifier identifier mem).2.1 rfl
  have comment := spell_comment (name ++ " " ++ kind) (by simp [name_free, free])
  have samples_spelled := spell_lines fun sample mem => by
    obtain ⟨s, isSeries, mem⟩ := List.mem_flatMap.1 mem
    exact writable s (perm.mem_iff.1 isSeries) sample mem
  exact comment.append samples_spelled

/-- The lines of the family of a counter, with its name. -/
def counterFamily (c : String × Counter) : List String :=
  familyLines "counter" c.1 counterLines c.2

/-- The lines of the family of durations. -/
def durationFamily (m : Metrics) : List String :=
  familyLines "histogram" durationName distributionLines m.dispatchDuration

/-- The sample of a further name, which has no labels. -/
def further (entry : String × UInt64) : Sample :=
  ⟨entry.1, [], entry.2⟩

variable {m : Metrics}

theorem spell_counter {c : String × Counter} (name : c.1 ∈ counterNames)
    (plain : ∀ s ∈ c.2.series, ∀ l ∈ s.1, Sample.IsPlain l.1) :
    ∃ spelled, spelled.Perm (familySamples counterSamples c.1 c.2) ∧
      Spell (counterFamily c) spelled 1 := by
  unfold counterFamily
  apply spell_family (isIdentifier_of_mem (List.mem_append_left _ name)) (by decide)
  · intro s _
    rfl
  · intro s mem
    exact isWritable_counterSamples name (plain s mem) s.2

theorem spell_counters {list : List (String × Counter)}
    (names : ∀ c ∈ list, c.1 ∈ counterNames)
    (plain : ∀ c ∈ list, ∀ s ∈ c.2.series, ∀ l ∈ s.1, Sample.IsPlain l.1) :
    ∃ spelled, spelled.Perm (list.flatMap fun c => familySamples counterSamples c.1 c.2) ∧
      Spell (list.flatMap counterFamily) spelled list.length := by
  induction list with
  | nil => exact ⟨[], .refl _, rfl, nofun, rfl⟩
  | cons c rest ih =>
    obtain ⟨name, names⟩ := List.forall_mem_cons.1 names
    obtain ⟨first, plain⟩ := List.forall_mem_cons.1 plain
    obtain ⟨spelled, perm, spell⟩ := spell_counter name first
    obtain ⟨others, perm', spell'⟩ := ih names plain
    refine ⟨spelled ++ others, perm.append perm', ?_⟩
    rw [List.length_cons, Nat.add_comm]
    exact spell.append spell'

theorem spell_durations (whole : ∀ s ∈ m.dispatchDuration.series,
      s.2.buckets.length = bounds.length)
    (plain : ∀ s ∈ m.dispatchDuration.series, ∀ l ∈ s.1, Sample.IsPlain l.1) :
    ∃ spelled, spelled.Perm
        (familySamples distributionSamples durationName m.dispatchDuration) ∧
      Spell m.durationFamily spelled 1 := by
  unfold durationFamily
  apply spell_family (by decide) (by decide)
  · intro s mem
    exact distributionLines_eq durationName s.1 (whole s mem)
  · intro s mem
    exact isWritable_distributionSamples (plain s mem) s.2

theorem spell_further {extra : List (String × UInt64)}
    (identified : ∀ e ∈ extra, Sample.isIdentifier e.1 = true) :
    Spell ((extra.map further).map Sample.line) (extra.map further) 0 := by
  apply spell_lines
  intro s mem
  obtain ⟨e, isFurther, rfl⟩ := List.mem_map.1 mem
  exact ⟨identified e isFurther, nofun⟩

theorem lines_eq (m : Metrics) (extra : List (String × UInt64)) :
    m.lines extra = (m.counters.take 6).flatMap counterFamily ++ m.durationFamily ++
      (m.counters.drop 6).flatMap counterFamily ++ (extra.map further).map Sample.line := by
  simp [lines, counters, counterFamily, durationFamily, durationName, further, Sample.line,
    labelsText]

/-- The text has a line for each sample of all metrics, and behind these the further ones. -/
theorem spell_all (reached : m.Reached) (named : m.Named) {extra : List (String × UInt64)}
    (identified : ∀ e ∈ extra, Sample.isIdentifier e.1 = true) :
    ∃ spelled, spelled.Perm m.samples ∧
      Spell (m.lines extra) (spelled ++ extra.map further) 8 := by
  have some_spelled {list : List (String × Counter)} (part : list ⊆ m.counters) :=
    spell_counters (fun c mem => counterName_mem (part mem)) fun c mem s isSeries l isLabel =>
      (named.counters c (part mem) s isSeries l isLabel).plain
  obtain ⟨before, perm, spell⟩ := some_spelled (List.take_subset 6 m.counters)
  obtain ⟨durations, perm', spell'⟩ := spell_durations reached.whole fun s mem l isLabel =>
    (named.durations s mem l isLabel).plain
  obtain ⟨behind, perm'', spell''⟩ := some_spelled (List.drop_subset 6 m.counters)
  refine ⟨before ++ durations ++ behind, ?_, ?_⟩
  · -- the text has the durations between the counters, the samples have them behind
    have together := (perm.append perm').append perm''
    rw [List.append_assoc, List.append_assoc] at together
    unfold samples
    rw [← List.take_append_drop 6 m.counters, List.flatMap_append, List.append_assoc,
      List.append_assoc]
    exact together.trans (List.perm_append_comm.append_left _)
  · rw [lines_eq]
    exact ((spell.append spell').append spell'').append (spell_further identified)

/--
The text of metrics whose labels have names that labels can have, whatever their values are, is read
as the samples of all metrics in some order and then the further ones. From these one finds what is
kept for any labels; it has no other lines than these samples, the comment of each family and the
blank one behind the last line end. Labels that are no permutations of each other do not have the
same text.
-/
theorem text_reads_back (reached : m.Reached) (named : m.Named) {extra : List (String × UInt64)}
    (identified : ∀ e ∈ extra,
      Sample.isIdentifier e.1 = true ∧ e.1 ∉ counterNames ++ durationNames) :
    (∃ found,
      Sample.ofText? (m.text extra) = some (found ++ extra.map further) ∧
      found.Perm m.samples ∧
      m.ToldBy (found ++ extra.map further) ∧
      (found ++ extra.map further).filter (·.name ∉ counterNames ++ durationNames) =
        extra.map further ∧
      ((m.text extra).toList.splitOn '\n').length =
        (found ++ extra.map further).length + 8 + 1) ∧
    ∀ a b : Labels, (∀ l ∈ a, IsLabelName l.1) → (∀ l ∈ b, IsLabelName l.1) →
      labelsText a.sorted = labelsText b.sorted → a.Perm b := by
  constructor
  · obtain ⟨found, perm, spell⟩ := spell_all reached named fun e mem => (identified e mem).1
    have lines : (m.text extra).toList.splitOn '\n' =
        (m.lines extra).map String.toList ++ [[]] := Sample.splitOn_lines spell.free
    have other : ∀ s ∈ extra.map further, s.name ∉ counterNames ++ durationNames := by
      intro s mem
      obtain ⟨e, isFurther, rfl⟩ := List.mem_map.1 mem
      exact (identified e isFurther).2
    refine ⟨found, ?_, perm, ?_, ?_, ?_⟩
    · unfold Sample.ofText?
      have blank : Sample.ofLines? [[]] = some [] := rfl
      rw [lines, Sample.ofLines?_append spell.read blank, List.append_nil]
    · exact ((toldBy_samples reached named).of_perm perm).append other
    · rw [List.filter_append, List.filter_eq_nil_iff.2, List.nil_append, List.filter_eq_self]
      · intro s mem
        exact decide_eq_true (other s mem)
      · intro s mem outside
        exact of_decide_eq_true outside (name_of_mem_samples (perm.mem_iff.1 mem))
    · rw [lines, List.length_append, List.length_map, spell.length]
      rfl
  · intro a b names names' same
    have plain {labels : Labels} (names : ∀ l ∈ labels, IsLabelName l.1) :
        ∀ l ∈ labels.sorted, Sample.IsPlain l.1 :=
      fun l mem => (names l ((Labels.sorted_perm labels).mem_iff.1 mem)).plain
    have sorted := Sample.labelsText_injective (plain names) (plain names') same
    exact Labels.sorted_eq_iff_perm.1 sorted

theorem text_reads_back_escaped :
    let value := "a\"b\\,c=\x7bd\x7d e\nplugwire_unroutable_total 9"
    let m : Metrics :=
      { framesIn := Counter.after [.add [("kind", value)] 3, .increment [("kind", value)]]
        dispatchDuration :=
          Histogram.after [⟨[("outcome", value)], 250⟩, ⟨[("outcome", value)], 7⟩] }
    ∃ found, Sample.ofText? (m.text [("channel_depth", 5)]) =
        some (found ++ [⟨"channel_depth", [], 5⟩]) ∧
      found.length = 13 ∧
      valuesOf (found ++ [⟨"channel_depth", [], 5⟩]) "plugwire_frames_in_total"
        [("kind", value)] = [4] ∧
      valuesOf (found ++ [⟨"channel_depth", [], 5⟩]) "plugwire_unroutable_total" [] = [] ∧
      valuesOf (found ++ [⟨"channel_depth", [], 5⟩]) "plugwire_dispatch_duration_micros_bucket"
        [("outcome", value), ("le", "100")] = [1] := by
  intro value m
  have reached : m.Reached := by
    refine ⟨?_, _, rfl⟩
    have unused : ∃ calls, ({} : Counter) = Counter.after calls := ⟨[], rfl⟩
    simp only [counters, List.forall_mem_cons]
    refine ⟨⟨_, rfl⟩, unused, unused, unused, unused, unused, unused, ?_⟩
    simp
  have kind : Labels.sorted [("kind", value)] = [("kind", value)] := List.mergeSort_singleton _
  have outcome : Labels.sorted [("outcome", value)] = [("outcome", value)] :=
    List.mergeSort_singleton _
  have framesIn : m.framesIn = ⟨[([("kind", value)], 4)]⟩ := by
    simp [m, Counter.after, Counter.call, Counter.increment, Counter.add, Family.update,
      Family.updateSeries, kind]
  have durations : m.dispatchDuration =
      ⟨[([("outcome", value)], (({} : Distribution).observe 250).observe 7)]⟩ := by
    simp [m, Histogram.after, Histogram.observe, Family.update, Family.updateSeries, outcome]
  have named : m.Named := by
    have plain : IsLabelName "kind" ∧ IsLabelName "outcome" := by
      constructor <;> exact ⟨by simp [Sample.IsPlain, Sample.structural], by decide⟩
    constructor
    · simp only [counters, List.forall_mem_cons, framesIn]
      simp [m, plain.1]
    · simp [durations, plain.2]
  have identified : ∀ e ∈ [("channel_depth", (5 : UInt64))],
      Sample.isIdentifier e.1 = true ∧ e.1 ∉ counterNames ++ durationNames := by decide
  obtain ⟨⟨found, read, perm, told, -⟩, -⟩ := text_reads_back reached named identified
  refine ⟨found, read, ?_, ?_, ?_, ?_⟩
  · rw [perm.length_eq]
    unfold samples
    rw [durations]
    simp only [counters, framesIn]
    rfl
  · have counted := told.counters _ (.head _) [("kind", value)]
    rw [framesIn, Family.get?, kind] at counted
    exact counted
  · exact told.counters ("plugwire_unroutable_total", m.unroutable)
      (.tail _ (.tail _ (.tail _ (.tail _ (.head _))))) []
  · have bucket := told.buckets [("outcome", value)] "100"
    rw [durations, Family.get?, outcome] at bucket
    exact bucket.trans (by decide)

end Hostlink.Metrics
