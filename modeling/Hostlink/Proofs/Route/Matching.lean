import Hostlink.Proofs.Route.Grammar
/-!
Matching a path means to share its parts among the segments of the pattern, so that each segment
takes what it asks for and nothing is left. The path that is made from a pattern by putting values
in the place of parameters matches, and gives the values back.
-/

namespace Hostlink.Route

namespace Segment

/-- What a segment takes of the parts of a path. -/
inductive Takes : Segment → List String → Prop where
  | literal (text : String) : Takes (.literal text) [text]
  | param {name part : String} (ne : part ≠ "") : Takes (.param name) [part]
  | optional {name part : String} (ne : part ≠ "") : Takes (.optional name) [part]
  | absent (name : String) : Takes (.optional name) []
  | wildcard {parts : List String} (ne : parts ≠ []) : Takes .wildcard parts

/-- The parameters that a segment gives for the parts that it takes. -/
def given : Segment → List String → List (String × String)
  | literal _, _ => []
  | param name, parts => parts.map (name, ·)
  | optional name, parts => parts.map (name, ·)
  | wildcard, parts => [("*", "/".intercalate parts)]

/-- What a segment takes of a path in which values stand for parameters. -/
def fill (values : String → String) : Segment → String
  | literal text => text
  | param name => values name
  | optional name => values name
  | wildcard => values wildcardName

end Segment

/-- All parts are shared among segments in their order, and the parameters are what is given. -/
def Shares (segments : List Segment) (parts : List String) (params : List (String × String)) :
    Prop :=
  ∃ shares : List (List String), shares.flatten = parts ∧
    List.Forall₂ Segment.Takes segments shares ∧
    (List.zipWith Segment.given segments shares).flatten = params

/-- Only the last segment may take other than one part. -/
inductive OneByOne : List Segment → Prop where
  | nil : OneByOne []
  | literal (text : String) {segments : List Segment} (rest : OneByOne segments) :
    OneByOne (.literal text :: segments)
  | param (name : String) {segments : List Segment} (rest : OneByOne segments) :
    OneByOne (.param name :: segments)
  | optional (name : String) : OneByOne [.optional name]
  | wildcard : OneByOne [.wildcard]

variable {segment : Segment} {segments : List Segment} {parts : List String}
  {params : List (String × String)}

theorem shares_nil : Shares [] parts params ↔ parts = [] ∧ params = [] := by
  constructor
  · rintro ⟨shares, rfl, takes, rfl⟩
    cases takes
    exact ⟨rfl, rfl⟩
  · rintro ⟨rfl, rfl⟩
    exact ⟨[], rfl, .nil, rfl⟩

theorem shares_cons :
    Shares (segment :: segments) parts params ↔
      ∃ taken left more, segment.Takes taken ∧ Shares segments left more ∧
        taken ++ left = parts ∧ segment.given taken ++ more = params := by
  constructor
  · rintro ⟨shares, rfl, takes, rfl⟩
    cases takes with
    | @cons _ taken _ shares first takes =>
      exact ⟨taken, shares.flatten, _, first, ⟨shares, rfl, takes, rfl⟩, rfl, rfl⟩
  · rintro ⟨taken, left, more, first, ⟨shares, rfl, takes, rfl⟩, rfl, rfl⟩
    exact ⟨taken :: shares, rfl, .cons first takes, rfl⟩

theorem shares_literal {text : String} :
    Shares (.literal text :: segments) parts params ↔
      ∃ left, parts = text :: left ∧ Shares segments left params := by
  rw [shares_cons]
  constructor
  · rintro ⟨_, left, more, ⟨⟩, shares, rfl, rfl⟩
    exact ⟨left, rfl, shares⟩
  · rintro ⟨left, rfl, shares⟩
    exact ⟨[text], left, params, .literal text, shares, rfl, rfl⟩

theorem shares_param {name : String} :
    Shares (.param name :: segments) parts params ↔
      ∃ part left more, part ≠ "" ∧ parts = part :: left ∧ Shares segments left more ∧
        params = (name, part) :: more := by
  rw [shares_cons]
  constructor
  · rintro ⟨_, left, more, takes, shares, rfl, rfl⟩
    cases takes with
    | param ne => exact ⟨_, left, more, ne, rfl, shares, rfl⟩
  · rintro ⟨part, left, more, ne, rfl, shares, rfl⟩
    exact ⟨[part], left, more, .param ne, shares, rfl, rfl⟩

theorem shares_optional {name : String} :
    Shares [.optional name] parts params ↔
      parts = [] ∧ params = [] ∨ ∃ part, part ≠ "" ∧ parts = [part] ∧ params = [(name, part)] := by
  simp only [shares_cons, shares_nil]
  constructor
  · rintro ⟨_, _, _, takes, ⟨rfl, rfl⟩, rfl, rfl⟩
    cases takes with
    | optional ne => exact .inr ⟨_, ne, rfl, rfl⟩
    | absent => exact .inl ⟨rfl, rfl⟩
  · rintro (⟨rfl, rfl⟩ | ⟨part, ne, rfl, rfl⟩)
    · exact ⟨[], [], [], .absent name, ⟨rfl, rfl⟩, rfl, rfl⟩
    · exact ⟨[part], [], [], .optional ne, ⟨rfl, rfl⟩, rfl, rfl⟩

theorem shares_wildcard :
    Shares [.wildcard] parts params ↔ parts ≠ [] ∧ params = [("*", "/".intercalate parts)] := by
  simp only [shares_cons, shares_nil]
  constructor
  · rintro ⟨_, _, _, takes, ⟨rfl, rfl⟩, rfl, rfl⟩
    cases takes with
    | wildcard ne =>
      rw [List.append_nil]
      exact ⟨ne, rfl⟩
  · rintro ⟨ne, rfl⟩
    exact ⟨parts, [], [], .wildcard ne, ⟨rfl, rfl⟩, List.append_nil parts, rfl⟩

/-- Only the last part of a pattern may stand for a segment that takes other than one part. -/
theorem oneByOne_of_standsFor (stand : List.Forall₂ StandsFor parts segments)
    (wellFormed : WellFormed parts) : OneByOne segments := by
  induction stand with
  | nil => exact .nil
  | cons first stand ih =>
    obtain ⟨fits, wellFormed, -⟩ := wellFormed_cons.1 wellFormed
    cases first with
    | param => exact .param _ (ih wellFormed)
    | literal => exact .literal _ (ih wellFormed)
    | wildcard eq =>
      rw [List.isEmpty_iff.1 (fits.wildcard_last eq)] at stand
      cases stand
      exact .wildcard
    | optional eq =>
      rw [List.isEmpty_iff.1 (fits.optional_last _ eq)] at stand
      cases stand
      exact .optional _

namespace Pattern

/-- The parameters that are bound are those of the only way to share the parts. -/
theorem bind_eq_some_iff (oneByOne : OneByOne segments) :
    bind segments parts = some params ↔ Shares segments parts params := by
  induction oneByOne generalizing parts params with
  | nil =>
    rw [shares_nil]
    cases parts <;> simp [bind, eq_comm]
  | literal text rest ih =>
    rw [shares_literal]
    cases parts with
    | nil => simp [bind]
    | cons part parts =>
      by_cases eq : part = text
      · simp [bind, eq, ih]
      · simp [bind, eq]
  | param name rest ih =>
    rw [shares_param]
    cases parts with
    | nil => simp [bind]
    | cons part parts =>
      by_cases empty : part = ""
      · simp [bind, empty]
      · simp [bind, empty, ih, eq_comm (a := params)]
  | optional name =>
    rw [shares_optional]
    cases parts with
    | nil => simp [bind, eq_comm]
    | cons part parts =>
      by_cases empty : part = ""
      · simp [bind, empty]
      · cases parts <;> simp [bind, empty, eq_comm]
  | wildcard =>
    rw [shares_wildcard]
    cases parts <;> simp [bind, Segment.wildcardName, eq_comm]

theorem matches?_eq_some_iff {pattern : Pattern} {path : String} {params : Params} :
    pattern.matches? path = some params ↔
      ∃ parts, HasParts path parts ∧ bind pattern.segments parts = some params.entries := by
  simp only [← parts?_eq_some_iff]
  unfold matches?
  cases parts? path with
  | none => simp
  | some parts =>
    show (bind pattern.segments parts).bind (fun entries => some ⟨entries⟩) = some params ↔ _
    obtain ⟨entries⟩ := params
    simp [Option.bind_eq_some_iff]

end Pattern

theorem mem_of_literal {text : String} (stand : List.Forall₂ StandsFor parts segments)
    (mem : .literal text ∈ segments) : text ∈ parts := by
  induction stand with
  | nil => contradiction
  | cons first _ ih =>
    cases mem with
    | head =>
      cases first with
      | literal => exact List.mem_cons_self
    | tail _ mem => exact List.mem_cons_of_mem _ (ih mem)

/-- Each segment takes its part of the path that is made from the segments. -/
theorem shares_fill {values : String → String} (noWildcard : .wildcard ∉ segments)
    (ne : ∀ name ∈ segments.filterMap Segment.name?, values name ≠ "") :
    Shares segments (segments.map (Segment.fill values))
      ((segments.filterMap Segment.name?).map fun name => (name, values name)) := by
  induction segments with
  | nil => exact shares_nil.2 ⟨rfl, rfl⟩
  | cons segment segments ih =>
    rw [List.mem_cons, not_or] at noWildcard
    have rest := ih noWildcard.2 fun name mem =>
      ne name ((List.sublist_cons_self segment segments).filterMap _ |>.subset mem)
    apply shares_cons.2
    cases segment with
    | literal text => exact ⟨[text], _, _, .literal text, rest, rfl, rfl⟩
    | param name =>
      have given := ne name (by simp [Segment.name?])
      exact ⟨[values name], _, _, .param given, rest, rfl, rfl⟩
    | optional name =>
      have given := ne name (by simp [Segment.name?])
      exact ⟨[values name], _, _, .optional given, rest, rfl, rfl⟩
    | wildcard => exact absurd rfl noWildcard.1

namespace Pattern

/-- The path that a pattern becomes when values stand for its parameters. -/
def fill (pattern : Pattern) (values : String → String) : String :=
  "/" ++ "/".intercalate (pattern.segments.map (Segment.fill values))

/--
A path matches a pattern just when its parts can be shared among the segments, and it gives the
parameters of its shares. Putting values that are free of slashes in the place of all parameters
makes a path that gives these values back, with a slash behind or not.
-/
theorem matches?_shares {text : String} {pattern : Pattern} (h : ofText text = .ok pattern) :
    OneByOne pattern.segments ∧
    (∀ path params, pattern.matches? path = some params ↔
      ∃ parts, HasParts path parts ∧ Shares pattern.segments parts params.entries) ∧
    (∀ values : String → String, .wildcard ∉ pattern.segments →
      (∀ name ∈ pattern.names, values name ≠ "" ∧ '/' ∉ (values name).toList) →
      let params : Params := ⟨pattern.names.map fun name => (name, values name)⟩
      pattern.matches? (pattern.fill values) = some params ∧
        pattern.matches? (pattern.fill values ++ "/") = some params) := by
  obtain ⟨parts, hasParts, wellFormed, stand⟩ := segmentsOf_eq_ok_iff.1 (ofText_eq_ok_iff.1 h).2
  have oneByOne := oneByOne_of_standsFor stand wellFormed
  have shared : ∀ path params, pattern.matches? path = some params ↔
      ∃ parts, HasParts path parts ∧ Shares pattern.segments parts params.entries := by
    intro path params
    rw [matches?_eq_some_iff]
    exact exists_congr fun parts => and_congr_right fun _ => bind_eq_some_iff oneByOne
  refine ⟨oneByOne, shared, ?_⟩
  intro values noWildcard good params
  -- a part of the path is a part of the pattern or one of the values
  have filled : ∀ part ∈ pattern.segments.map (Segment.fill values),
      part ≠ "" ∧ '/' ∉ part.toList := by
    intro part mem
    obtain ⟨segment, isSegment, rfl⟩ := List.mem_map.1 mem
    cases segment with
    | literal text =>
      have isPart := mem_of_literal stand isSegment
      exact ⟨fun eq => wellFormed.ne_empty (eq ▸ isPart), hasParts.free isPart⟩
    | param name => exact good name (List.mem_filterMap.2 ⟨_, isSegment, rfl⟩)
    | optional name => exact good name (List.mem_filterMap.2 ⟨_, isSegment, rfl⟩)
    | wildcard => exact absurd isSegment noWildcard
  have shares := shares_fill noWildcard fun name mem => (good name mem).1
  obtain ⟨bare, closed⟩ := hasParts_joined (fun part mem => (filled part mem).2)
    fun mem => (filled "" mem).1 rfl
  exact ⟨(shared _ _).2 ⟨_, bare, shares⟩, (shared _ _).2 ⟨_, closed, shares⟩⟩

theorem matches?_shares_members :
    let pattern : Pattern := ⟨"/groups/:group/:member?",
      [.literal "groups", .param "group", .optional "member"]⟩
    ofText "/groups/:group/:member?" = .ok pattern ∧
      (∃ parts, HasParts "/groups/dev/" parts ∧
        Shares pattern.segments parts [("group", "dev")]) ∧
      pattern.matches? "/groups/dev/ann/" = some ⟨[("group", "dev"), ("member", "ann")]⟩ := by
  intro pattern
  have compiled : ofText "/groups/:group/:member?" = .ok pattern := rfl
  obtain ⟨-, shared, filled⟩ := matches?_shares compiled
  refine ⟨compiled, (shared "/groups/dev/" ⟨[("group", "dev")]⟩).1 rfl, ?_⟩
  exact (filled (fun name => if name = "group" then "dev" else "ann") (by decide) (by decide)).2

end Pattern

end Hostlink.Route
