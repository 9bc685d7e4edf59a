import Mathlib.Data.List.Nodup
import Hostlink.Proofs.Lookup
import Hostlink.Proofs.Route.Matching
/-!
What a handler can know of the parameters of a path. A parameter may have the very name under which a
wildcard gives its parts; then the parts are hidden behind the parameter, and nothing else ever is.
What a parameter takes is never empty, and what a wildcard takes is so only behind a path that ends
in two slashes.
-/

namespace Hostlink.Route

/-- The name of the parameter that a segment is, wildcards apart. -/
def Segment.param? : Segment → Option String
  | literal _ => none
  | param name => some name
  | optional name => some name
  | wildcard => none

/-- The names of the parameters among segments. -/
def paramNames (segments : List Segment) : List String :=
  segments.filterMap Segment.param?

/-- A parameter has the name under which a wildcard gives its parts. -/
def Clash (segments : List Segment) : Prop :=
  .param Segment.wildcardName ∈ segments ∧ .wildcard ∈ segments

variable {segment : Segment} {segments : List Segment} {parts : List String}
  {params : List (String × String)} {name part : String}

theorem paramNames_cons :
    paramNames (segment :: segments) = segment.param?.toList ++ paramNames segments := by
  cases segment <;> rfl

@[simp]
theorem paramNames_literal (text : String) :
    paramNames (.literal text :: segments) = paramNames segments := rfl

@[simp]
theorem paramNames_param (name : String) :
    paramNames (.param name :: segments) = name :: paramNames segments := rfl

@[simp]
theorem paramNames_optional (name : String) :
    paramNames (.optional name :: segments) = name :: paramNames segments := rfl

@[simp]
theorem paramNames_wildcard : paramNames (.wildcard :: segments) = paramNames segments := rfl

theorem StandsFor.param?_eq_some_iff (stands : StandsFor part segment) :
    segment.param? = some name ↔ Names part name := by
  by_cases isWildcard : segment = .wildcard
  · subst isWildcard
    cases stands with
    | wildcard eq =>
      refine ⟨nofun, fun names => ?_⟩
      obtain ⟨text, colon⟩ := names.colon
      exact absurd (eq.symm.trans colon) (star_ne_colon text)
  · have same : segment.param? = segment.name? := by
      cases segment <;> first | rfl | contradiction
    rw [same, ← Option.mem_toList, stands.mem_name? isWildcard]

theorem mem_paramNames_iff (stand : List.Forall₂ StandsFor parts segments) :
    name ∈ paramNames segments ↔ ∃ part ∈ parts, Names part name := by
  unfold paramNames
  rw [List.mem_filterMap]
  induction stand with
  | nil => simp
  | cons first _ ih => simp only [List.exists_mem_cons_iff, ih, first.param?_eq_some_iff]

/-- No two parameters of a pattern have the same name. -/
theorem paramNames_nodup (stand : List.Forall₂ StandsFor parts segments)
    (wellFormed : WellFormed parts) : (paramNames segments).Nodup := by
  induction stand with
  | nil => exact List.nodup_nil
  | @cons part segment parts segments first stand ih =>
    obtain ⟨-, wellFormed, apart⟩ := wellFormed_cons.1 wellFormed
    have rest := ih wellFormed
    unfold paramNames at rest ⊢
    cases named : segment.param? with
    | none => rwa [List.filterMap_cons_none named]
    | some name =>
      rw [List.filterMap_cons_some named, List.nodup_cons]
      refine ⟨fun mem => ?_, rest⟩
      obtain ⟨other, mem, names⟩ := (mem_paramNames_iff stand).1 mem
      exact apart other mem name (first.param?_eq_some_iff.1 named) names

/-- The names that a pattern can give are those of its parameters, and that of a wildcard. -/
theorem names_eq (oneByOne : OneByOne segments) :
    segments.filterMap Segment.name? =
      paramNames segments ++ if .wildcard ∈ segments then [Segment.wildcardName] else [] := by
  induction oneByOne with
  | nil => rfl
  | literal text _ ih => simpa [List.filterMap_cons, Segment.name?] using ih
  | param name _ ih => simpa [List.filterMap_cons, Segment.name?] using ih
  | optional name => rfl
  | wildcard => rfl

/-- A parameter in front of a wildcard is none that may be missing. -/
theorem mem_paramNames_of_wildcard (oneByOne : OneByOne segments)
    (wildcard : .wildcard ∈ segments) : name ∈ paramNames segments ↔ .param name ∈ segments := by
  induction oneByOne with
  | nil => contradiction
  | literal text _ ih => simpa using ih (by simpa using wildcard)
  | param first _ ih => simpa using or_congr_right (ih (by simpa using wildcard))
  | optional first => simp at wildcard
  | wildcard => simp [paramNames, Segment.param?]

/-- A name is given twice only if a parameter has the name of a wildcard. -/
theorem names_nodup_iff (oneByOne : OneByOne segments) (nodup : (paramNames segments).Nodup) :
    (segments.filterMap Segment.name?).Nodup ↔ ¬ Clash segments := by
  unfold Clash
  rw [names_eq oneByOne]
  by_cases wildcard : .wildcard ∈ segments
  · rw [if_pos wildcard, ← List.concat_eq_append, List.nodup_concat,
      mem_paramNames_of_wildcard oneByOne wildcard]
    simp [nodup, wildcard]
  · simp [wildcard, nodup]

/-- As many parts as there are segments, the last of which is empty. -/
def EndsEmpty (segments : List Segment) (parts : List String) : Prop :=
  ∃ front, parts = front ++ [""] ∧ front.length + 1 = segments.length

theorem endsEmpty_cons (wildcard : .wildcard ∈ segments) :
    EndsEmpty (segment :: segments) (part :: parts) ↔ EndsEmpty segments parts := by
  constructor
  · rintro ⟨front, eq, length⟩
    cases front with
    | nil =>
      -- a wildcard is one segment more
      rw [List.length_cons, Nat.add_right_cancel_iff] at length
      rw [List.length_eq_zero_iff.1 length.symm] at wildcard
      contradiction
    | cons first front =>
      rw [List.cons_append, List.cons.injEq] at eq
      exact ⟨front, eq.2, Nat.add_right_cancel length⟩
  · rintro ⟨front, rfl, length⟩
    exact ⟨part :: front, rfl, congrArg (· + 1) length⟩

theorem intercalate_slash_eq_empty_iff (ne : parts ≠ []) :
    "/".intercalate parts = "" ↔ parts = [""] := by
  cases parts with
  | nil => contradiction
  | cons part parts =>
    cases parts with
    | nil => simp
    | cons next parts =>
      rw [String.intercalate_cons_cons]
      simp

theorem given_of_takes {taken : List String} (takes : segment.Takes taken)
    (isOther : segment ≠ .wildcard) :
    ((segment.given taken).map Prod.fst).Sublist segment.param?.toList ∧
      ∀ entry ∈ segment.given taken, entry.2 ≠ "" := by
  cases takes with
  | literal => exact ⟨List.nil_sublist _, nofun⟩
  | param ne | optional ne => exact ⟨List.Sublist.refl _, by simpa [Segment.given] using ne⟩
  | absent => exact ⟨List.nil_sublist _, nofun⟩
  | wildcard => contradiction

/-- Without a wildcard parameters alone are given, in their order, and none is empty. -/
theorem shares_of_no_wildcard (shares : Shares segments parts params)
    (noWildcard : .wildcard ∉ segments) :
    (params.map Prod.fst).Sublist (paramNames segments) ∧ ∀ entry ∈ params, entry.2 ≠ "" := by
  induction segments generalizing parts params with
  | nil =>
    obtain ⟨-, rfl⟩ := shares_nil.1 shares
    exact ⟨List.nil_sublist _, nofun⟩
  | cons segment segments ih =>
    obtain ⟨taken, left, more, takes, others, -, rfl⟩ := shares_cons.1 shares
    rw [List.mem_cons, not_or] at noWildcard
    obtain ⟨first, filled⟩ := given_of_takes takes (Ne.symm noWildcard.1)
    obtain ⟨rest, filledRest⟩ := ih others noWildcard.2
    rw [List.map_append, paramNames_cons, List.forall_mem_append]
    exact ⟨first.append rest, filled, filledRest⟩

/--
With a wildcard all parameters are given, none of them empty, and behind them what it takes, which is
empty just when it takes nothing but one empty part.
-/
theorem shares_of_wildcard (oneByOne : OneByOne segments) (shares : Shares segments parts params)
    (wildcard : .wildcard ∈ segments) :
    ∃ named rest, params = named ++ [(Segment.wildcardName, rest)] ∧
      named.map Prod.fst = paramNames segments ∧ (∀ entry ∈ named, entry.2 ≠ "") ∧
      (rest = "" ↔ EndsEmpty segments parts) := by
  induction oneByOne generalizing parts params with
  | nil => contradiction
  | literal text _ ih =>
    obtain ⟨left, rfl, others⟩ := shares_literal.1 shares
    have behind := List.mem_of_ne_of_mem (by simp) wildcard
    rw [endsEmpty_cons behind]
    exact ih others behind
  | param name _ ih =>
    obtain ⟨part, left, more, ne, rfl, others, rfl⟩ := shares_param.1 shares
    have behind := List.mem_of_ne_of_mem (by simp) wildcard
    obtain ⟨named, rest, rfl, keys, filled, empty⟩ := ih others behind
    rw [endsEmpty_cons behind]
    exact ⟨(name, part) :: named, rest, rfl, congrArg (name :: ·) keys,
      List.forall_mem_cons.2 ⟨ne, filled⟩, empty⟩
  | optional name => simp at wildcard
  | wildcard =>
    obtain ⟨ne, rfl⟩ := shares_wildcard.1 shares
    have taken : EndsEmpty [.wildcard] parts ↔ parts = [""] := by
      simp [EndsEmpty]
    refine ⟨[], _, rfl, rfl, nofun, ?_⟩
    rw [taken, intercalate_slash_eq_empty_iff ne]

/-- A path whose last part is empty ends in two slashes. -/
theorem HasParts.ends_in_slashes {path : String} {front : List String}
    (h : HasParts path (front ++ [""])) : ∃ before, path = before ++ "//" := by
  generalize eq : front ++ [""] = parts at h
  cases h with
  | root => simp at eq
  | @split inner _ encloses ne split =>
    subst eq
    have joined := split.joined
    by_cases empty : front = []
    · subst empty
      exact absurd joined.symm ne
    · rw [String.intercalate_append_of_ne_nil empty (List.cons_ne_nil _ _)] at joined
      simp only [String.intercalate_singleton, String.append_empty] at joined
      cases encloses with
      | closed =>
        refine ⟨"/" ++ "/".intercalate front, ?_⟩
        rw [← joined]
        simp [String.append_assoc]
      | bare last => exact absurd joined.symm (last _)

namespace Pattern

variable {text : String} {pattern : Pattern}

theorem oneByOne_of_ofText (h : ofText text = .ok pattern) : OneByOne pattern.segments := by
  obtain ⟨parts, -, wellFormed, stand⟩ := segmentsOf_eq_ok_iff.1 (ofText_eq_ok_iff.1 h).2
  exact oneByOne_of_standsFor stand wellFormed

theorem paramNames_nodup_of_ofText (h : ofText text = .ok pattern) :
    (paramNames pattern.segments).Nodup := by
  obtain ⟨parts, -, wellFormed, stand⟩ := segmentsOf_eq_ok_iff.1 (ofText_eq_ok_iff.1 h).2
  exact paramNames_nodup stand wellFormed

theorem shares_of_matches? {path : String} {params : Params} (h : ofText text = .ok pattern)
    (matched : pattern.matches? path = some params) :
    ∃ parts, HasParts path parts ∧ Shares pattern.segments parts params.entries := by
  obtain ⟨parts, hasParts, bound⟩ := matches?_eq_some_iff.1 matched
  exact ⟨parts, hasParts, (bind_eq_some_iff (oneByOne_of_ofText h)).1 bound⟩

/--
The names of the parameters of a pattern are distinct, and none of them clashes with the name of a
wildcard unless a parameter has just that name. If there is no clash, every value that is given for a
path is found under its name; if there is one, what the wildcard takes, and nothing else, is hidden
behind the parameter.
-/
theorem get?_captured (h : ofText text = .ok pattern) :
    (paramNames pattern.segments).Nodup ∧
    (pattern.names.Nodup ↔ ¬ Clash pattern.segments) ∧
    ∀ path params, pattern.matches? path = some params →
      (¬ Clash pattern.segments → ∀ entry ∈ params.entries, params.get? entry.1 = some entry.2) ∧
      (Clash pattern.segments → ∃ named rest part,
        params.entries = named ++ [(Segment.wildcardName, rest)] ∧
        (Segment.wildcardName, part) ∈ named ∧
        ∀ entry ∈ named, params.get? entry.1 = some entry.2) := by
  have oneByOne := oneByOne_of_ofText h
  have nodup := paramNames_nodup_of_ofText h
  refine ⟨nodup, names_nodup_iff oneByOne nodup, ?_⟩
  intro path params matched
  obtain ⟨parts, -, shares⟩ := shares_of_matches? h matched
  obtain ⟨entries⟩ := params
  unfold Params.get?
  dsimp only at shares ⊢
  by_cases wildcard : .wildcard ∈ pattern.segments
  · obtain ⟨named, rest, rfl, keys, -⟩ := shares_of_wildcard oneByOne shares wildcard
    constructor
    · intro apart entry mem
      have distinct := (names_nodup_iff oneByOne nodup).2 apart
      rw [names_eq oneByOne, if_pos wildcard, ← keys] at distinct
      exact (lookup_eq_some_iff (by simpa using distinct)).2 mem
    · rintro ⟨param, -⟩
      rw [← mem_paramNames_of_wildcard oneByOne wildcard, ← keys, List.mem_map] at param
      obtain ⟨⟨_, part⟩, mem, rfl⟩ := param
      refine ⟨named, rest, part, rfl, mem, ?_⟩
      -- a parameter stands in front of the wildcard and is found first
      intro entry isNamed
      rw [List.lookup_append, (lookup_eq_some_iff (keys ▸ nodup)).2 isNamed]
      rfl
  · obtain ⟨sublist, -⟩ := shares_of_no_wildcard shares wildcard
    constructor
    · intro _ entry mem
      exact (lookup_eq_some_iff (nodup.sublist sublist)).2 mem
    · exact fun clash => absurd clash.2 wildcard

theorem get?_captured_files :
    let pattern : Pattern := ⟨"/files/:owner/*",
      [.literal "files", .param "owner", .wildcard]⟩
    let params : Params := ⟨[("owner", "ann"), ("*", "a/b.txt")]⟩
    ofText "/files/:owner/*" = .ok pattern ∧ pattern.names.Nodup ∧
      pattern.matches? "/files/ann/a/b.txt" = some params ∧
      params.get? "owner" = some "ann" ∧ params.get? "*" = some "a/b.txt" := by
  intro pattern params
  have compiled : ofText "/files/:owner/*" = .ok pattern := rfl
  have matched : pattern.matches? "/files/ann/a/b.txt" = some params := by decide
  have apart : ¬ Clash pattern.segments := by simp [Clash, pattern, Segment.wildcardName]
  obtain ⟨-, names, captured⟩ := get?_captured compiled
  have found := (captured _ _ matched).1 apart
  exact ⟨compiled, names.2 apart, matched, found ("owner", "ann") (by decide),
    found ("*", "a/b.txt") (by decide)⟩

/-- A parameter with the name of a wildcard hides what the wildcard takes. -/
theorem wildcard_hidden :
    let pattern : Pattern := ⟨"/:*/*", [.param "*", .wildcard]⟩
    let params : Params := ⟨[("*", "x"), ("*", "y/z")]⟩
    ofText "/:*/*" = .ok pattern ∧ ¬ pattern.names.Nodup ∧
      pattern.matches? "/x/y/z" = some params ∧
      ("*", "y/z") ∈ params.entries ∧ params.get? "*" ≠ some "y/z" := by
  refine ⟨rfl, ?_⟩
  decide

/--
What a parameter takes is not empty. What a wildcard takes is empty just when it takes one part only,
which is empty; then the path ends in two slashes.
-/
theorem captured_ne_empty (h : ofText text = .ok pattern) {path : String} {params : Params}
    (matched : pattern.matches? path = some params) :
    (.wildcard ∉ pattern.segments → ∀ entry ∈ params.entries, entry.2 ≠ "") ∧
    (.wildcard ∈ pattern.segments → ∃ named rest,
      params.entries = named ++ [(Segment.wildcardName, rest)] ∧
      named.map Prod.fst = paramNames pattern.segments ∧
      (∀ entry ∈ named, entry.2 ≠ "") ∧
      (rest = "" ↔ ∃ parts, HasParts path parts ∧ EndsEmpty pattern.segments parts)) ∧
    ((∀ before, path ≠ before ++ "//") → ∀ entry ∈ params.entries, entry.2 ≠ "") := by
  obtain ⟨parts, hasParts, shares⟩ := shares_of_matches? h matched
  have same : EndsEmpty pattern.segments parts ↔
      ∃ parts, HasParts path parts ∧ EndsEmpty pattern.segments parts := by
    refine ⟨fun ends => ⟨parts, hasParts, ends⟩, ?_⟩
    rintro ⟨others, hasOthers, ends⟩
    have eq := parts?_eq_some_iff.2 hasOthers
    rw [parts?_eq_some_iff.2 hasParts, Option.some.injEq] at eq
    rwa [eq]
  by_cases wildcard : .wildcard ∈ pattern.segments
  · obtain ⟨named, rest, eq, keys, filled, empty⟩ :=
      shares_of_wildcard (oneByOne_of_ofText h) shares wildcard
    refine ⟨absurd wildcard, fun _ => ⟨named, rest, eq, keys, filled, empty.trans same⟩, ?_⟩
    intro noSlashes
    have rest_ne : rest ≠ "" := by
      intro isEmpty
      obtain ⟨front, rfl, -⟩ := empty.1 isEmpty
      obtain ⟨before, ends⟩ := hasParts.ends_in_slashes
      exact noSlashes before ends
    rw [eq, List.forall_mem_append]
    exact ⟨filled, List.forall_mem_singleton.2 rest_ne⟩
  · obtain ⟨-, filled⟩ := shares_of_no_wildcard shares wildcard
    exact ⟨fun _ => filled, fun there => absurd there wildcard, fun _ => filled⟩

theorem captured_ne_empty_between :
    let pattern : Pattern := ⟨"/files/:owner/*",
      [.literal "files", .param "owner", .wildcard]⟩
    let params : Params := ⟨[("owner", "ann"), ("*", "/b.txt")]⟩
    ofText "/files/:owner/*" = .ok pattern ∧
      pattern.matches? "/files/ann//b.txt" = some params ∧
      ∀ entry ∈ params.entries, entry.2 ≠ "" := by
  intro pattern params
  have compiled : ofText "/files/:owner/*" = .ok pattern := rfl
  have matched : pattern.matches? "/files/ann//b.txt" = some params := by decide
  refine ⟨compiled, matched, (captured_ne_empty compiled matched).2.2 ?_⟩
  intro before eq
  have ends := congrArg (fun text => text.toList.getLast?) eq
  simp at ends

/-- Behind two slashes a wildcard takes a part that is empty. -/
theorem wildcard_captures_empty :
    let pattern : Pattern := ⟨"/files/*", [.literal "files", .wildcard]⟩
    ofText "/files/*" = .ok pattern ∧ pattern.matches? "/files//" = some ⟨[("*", "")]⟩ := by
  refine ⟨rfl, ?_⟩
  decide

end Pattern

end Hostlink.Route
