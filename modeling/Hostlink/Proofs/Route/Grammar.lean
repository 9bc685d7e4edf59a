import Mathlib.Data.List.Forall2
import Hostlink.Proofs.Except
import Hostlink.Proofs.Route.Path
/-!
Which texts are patterns, and what their parts stand for, said of the text alone.
-/

namespace Hostlink.Route

/--
A part that starts with a colon names a parameter. One question mark at its end is no part of the
name.
-/
inductive Names (part : String) : String → Prop where
  | param {name : String} (eq : part = ":" ++ name) (plain : ∀ front, name ≠ front ++ "?") :
    Names part name
  | optional {name : String} (eq : part = ":" ++ name ++ "?") : Names part name

/-- The segment that a part of a pattern stands for. -/
inductive StandsFor (part : String) : Segment → Prop where
  | wildcard (eq : part = "*") : StandsFor part .wildcard
  | param {name : String} (eq : part = ":" ++ name) (plain : ∀ front, name ≠ front ++ "?") :
    StandsFor part (.param name)
  | optional {name : String} (eq : part = ":" ++ name ++ "?") : StandsFor part (.optional name)
  | literal (ne : part ≠ "*") (bare : ∀ name, part ≠ ":" ++ name) : StandsFor part (.literal part)

/-- What is asked of the parts of a pattern. -/
structure WellFormed (parts : List String) : Prop where
  ne_empty : "" ∉ parts
  wildcard_last : "*" ∉ parts.dropLast
  named : ":" ∉ parts ∧ ":?" ∉ parts
  optional_last : ∀ name, ":" ++ name ++ "?" ∉ parts.dropLast
  distinct : parts.Pairwise fun a b => ∀ name, Names a name → ¬ Names b name

/-- What is asked of one part, behind parts with given names. -/
structure Fits (last : Bool) (names : List String) (part : String) : Prop where
  ne_empty : part ≠ ""
  wildcard_last : part = "*" → last = true
  named : part ≠ ":" ∧ part ≠ ":?"
  optional_last : ∀ name, part = ":" ++ name ++ "?" → last = true
  fresh : ∀ name, Names part name → name ∉ names

section

variable {part name : String} {last : Bool} {names : List String} {segment : Segment}

theorem toList_ne_of_bare {text : List Char} (bare : ∀ name, part ≠ ":" ++ name) :
    part.toList ≠ ':' :: text := by
  intro starts
  apply bare (String.ofList text)
  rw [← String.toList_inj, starts]
  simp

theorem paramName_optional (name : String) : paramName (name ++ "?").toList = (name, true) := by
  simp [paramName]

theorem paramName_plain (plain : ∀ front, name ≠ front ++ "?") :
    paramName name.toList = (name, false) := by
  unfold paramName
  rw [if_neg, String.ofList_toList]
  intro isMark
  apply plain (String.ofList name.toList.dropLast)
  rw [← String.toList_inj]
  simpa using (List.dropLast_append_getLast? '?' (beq_iff_eq.1 isMark)).symm

theorem ofPart_named {text : List Char} (starts : part.toList = ':' :: text) {isOptional : Bool}
    (eq : paramName text = (name, isOptional)) :
    Segment.ofPart part last names = .ok segment ↔
      name ≠ "" ∧ (isOptional = true → last = true) ∧ name ∉ names ∧
        (if isOptional then .optional name else .param name) = segment := by
  unfold Segment.ofPart
  rw [starts]
  simp only [eq, error_else_eq_ok_iff, String.isEmpty_iff, Bool.and_eq_true, Bool.not_eq_true',
    List.contains_iff_mem, Except.ok.injEq, not_and, Bool.not_eq_false, ne_eq]

theorem ofPart_optional :
    Segment.ofPart (":" ++ name ++ "?") last names = .ok segment ↔
      name ≠ "" ∧ last = true ∧ name ∉ names ∧ .optional name = segment := by
  have starts : (":" ++ name ++ "?").toList = ':' :: (name ++ "?").toList := by simp
  rw [ofPart_named starts (paramName_optional name)]
  simp

theorem ofPart_param (plain : ∀ front, name ≠ front ++ "?") :
    Segment.ofPart (":" ++ name) last names = .ok segment ↔
      name ≠ "" ∧ name ∉ names ∧ .param name = segment := by
  have starts : (":" ++ name).toList = ':' :: name.toList := by simp
  rw [ofPart_named starts (paramName_plain plain)]
  simp

theorem ofPart_wildcard :
    Segment.ofPart "*" last names = .ok segment ↔ last = true ∧ .wildcard = segment := by
  show (if last then Except.ok Segment.wildcard else .error Defect.wildcardInside) = _ ↔ _
  cases last <;> simp

theorem ofPart_literal (empty : part ≠ "") (ne : part ≠ "*") (bare : ∀ name, part ≠ ":" ++ name) :
    Segment.ofPart part last names = .ok (.literal part) := by
  unfold Segment.ofPart
  split
  · next eq => exact absurd (String.toList_eq_nil_iff.1 eq) empty
  · next eq => exact absurd (String.toList_inj.1 eq) ne
  · next eq => exact absurd eq (toList_ne_of_bare bare)
  · rfl

theorem Names.colon (h : Names part name) : ∃ text, part = ":" ++ text := by
  cases h with
  | param eq => exact ⟨name, eq⟩
  | optional eq => exact ⟨name ++ "?", by rw [eq, String.append_assoc]⟩

theorem Names.unique {other : String} (h : Names part name) (h' : Names part other) :
    name = other := by
  cases h with
  | param eq plain =>
    cases h' with
    | param eq' => simpa [eq] using eq'
    | optional eq' =>
      rw [eq, String.append_assoc, String.append_right_inj] at eq'
      exact absurd eq' (plain other)
  | optional eq =>
    cases h' with
    | param eq' plain =>
      rw [eq, String.append_assoc, String.append_right_inj] at eq'
      exact absurd eq'.symm (plain name)
    | optional eq' => simpa [eq] using eq'

theorem star_ne_colon (text : String) : "*" ≠ ":" ++ text := by
  intro eq
  simpa using congrArg String.toList eq

theorem colon_ne_empty (text : String) : ":" ++ text ≠ "" := by
  intro eq
  simpa using congrArg String.toList eq

theorem fits_of_names (h : Names part name) :
    Fits last names part ↔
      name ≠ "" ∧ ((∃ text, part = ":" ++ text ++ "?") → last = true) ∧ name ∉ names := by
  constructor
  · intro fits
    refine ⟨?_, fun ⟨text, eq⟩ => fits.optional_last text eq, fits.fresh name h⟩
    rintro rfl
    cases h with
    | param eq => exact fits.named.1 eq
    | optional eq => exact fits.named.2 eq
  · rintro ⟨ne, optional_last, fresh⟩
    obtain ⟨text, starts⟩ := h.colon
    constructor
    · exact starts ▸ colon_ne_empty text
    · exact fun eq => absurd (eq.symm.trans starts) (star_ne_colon text)
    · constructor
      · rintro rfl
        exact ne (h.unique (.param rfl fun front eq => by simp at eq))
      · rintro rfl
        exact ne (h.unique (.optional rfl))
    · exact fun text eq => optional_last ⟨text, eq⟩
    · intro other names
      rwa [names.unique h]

theorem fits_of_bare (bare : ∀ text, part ≠ ":" ++ text) :
    Fits last names part ↔ part ≠ "" ∧ (part = "*" → last = true) := by
  constructor
  · exact fun fits => ⟨fits.ne_empty, fits.wildcard_last⟩
  · rintro ⟨ne_empty, wildcard_last⟩
    refine ⟨ne_empty, wildcard_last, ⟨bare "", bare "?"⟩, ?_, ?_⟩
    · intro text eq
      rw [String.append_assoc] at eq
      exact absurd eq (bare _)
    · intro name names
      obtain ⟨text, eq⟩ := names.colon
      exact absurd eq (bare text)

theorem ofPart_of_standsFor {stood : Segment} (stands : StandsFor part stood) :
    Segment.ofPart part last names = .ok segment ↔ Fits last names part ∧ stood = segment := by
  cases stands with
  | wildcard eq =>
    subst eq
    rw [ofPart_wildcard, fits_of_bare star_ne_colon]
    simp
  | @param name eq plain =>
    subst eq
    have unmarked : ∀ text, ":" ++ name ≠ ":" ++ text ++ "?" := by
      intro text eq
      rw [String.append_assoc, String.append_right_inj] at eq
      exact plain text eq
    rw [ofPart_param plain, fits_of_names (.param rfl plain)]
    simp [unmarked, and_assoc]
  | @optional name eq =>
    subst eq
    have marked : ∃ text, ":" ++ name ++ "?" = ":" ++ text ++ "?" := ⟨name, rfl⟩
    rw [ofPart_optional, fits_of_names (.optional rfl)]
    simp only [marked, true_imp_iff, and_assoc]
  | literal ne bare =>
    rw [fits_of_bare bare]
    by_cases empty : part = ""
    · subst empty
      exact ⟨nofun, fun h => absurd rfl h.1.1⟩
    · rw [ofPart_literal empty ne bare]
      simp [empty, ne]

theorem exists_standsFor (part : String) : ∃ segment, StandsFor part segment := by
  by_cases star : part = "*"
  · exact ⟨_, .wildcard star⟩
  by_cases colon : ∃ text, part = ":" ++ text
  · obtain ⟨text, eq⟩ := colon
    by_cases mark : ∃ name, text = name ++ "?"
    · obtain ⟨name, rfl⟩ := mark
      exact ⟨_, .optional (eq.trans String.append_assoc.symm)⟩
    · exact ⟨_, .param eq (not_exists.1 mark)⟩
  · exact ⟨_, .literal star (not_exists.1 colon)⟩

/-- The segment of one part. -/
theorem ofPart_eq_ok_iff :
    Segment.ofPart part last names = .ok segment ↔
      StandsFor part segment ∧ Fits last names part := by
  constructor
  · intro h
    obtain ⟨_, stands⟩ := exists_standsFor part
    obtain ⟨fits, rfl⟩ := (ofPart_of_standsFor stands).1 h
    exact ⟨stands, fits⟩
  · rintro ⟨stands, fits⟩
    exact (ofPart_of_standsFor stands).2 ⟨fits, rfl⟩

theorem StandsFor.mem_name? (h : StandsFor part segment) (ne : segment ≠ .wildcard) :
    name ∈ segment.name?.toList ↔ Names part name := by
  cases h with
  | wildcard => contradiction
  | param eq plain =>
    have named := Names.param eq plain
    simp only [Segment.name?, Option.toList_some, List.mem_singleton]
    exact ⟨fun same => same ▸ named, fun other => other.unique named⟩
  | optional eq =>
    have named := Names.optional eq
    simp only [Segment.name?, Option.toList_some, List.mem_singleton]
    exact ⟨fun same => same ▸ named, fun other => other.unique named⟩
  | literal _ bare =>
    refine ⟨nofun, fun names => ?_⟩
    obtain ⟨text, eq⟩ := names.colon
    exact absurd eq (bare text)

end

section

variable {parts names : List String} {segments : List Segment}

theorem wellFormed_nil : WellFormed [] := by
  constructor <;> simp

theorem wellFormed_cons {part : String} :
    WellFormed (part :: parts) ↔ Fits parts.isEmpty [] part ∧ WellFormed parts ∧
      ∀ other ∈ parts, ∀ name, Names part name → ¬ Names other name := by
  have before : ∀ text, text ∈ (part :: parts).dropLast ↔
      (part = text ∧ parts ≠ []) ∨ text ∈ parts.dropLast := by
    intro text
    cases parts with
    | nil => simp
    | cons next rest => simp [List.dropLast_cons_of_ne_nil, eq_comm]
  have only : parts.isEmpty = true ↔ ¬ parts ≠ [] := by simp
  constructor
  · intro h
    have ⟨empty, distinct⟩ := And.intro h.ne_empty h.distinct
    have ⟨colon, mark⟩ := h.named
    rw [List.mem_cons, not_or] at empty colon mark
    rw [List.pairwise_cons] at distinct
    refine ⟨⟨Ne.symm empty.1, ?_, ⟨Ne.symm colon.1, Ne.symm mark.1⟩, ?_, fun _ _ => nofun⟩,
      ⟨empty.2, ?_, ⟨colon.2, mark.2⟩, ?_, distinct.2⟩, distinct.1⟩
    · intro eq
      exact only.2 fun ne => h.wildcard_last ((before "*").2 (.inl ⟨eq, ne⟩))
    · intro name eq
      exact only.2 fun ne => h.optional_last name ((before _).2 (.inl ⟨eq, ne⟩))
    · exact fun mem => h.wildcard_last ((before "*").2 (.inr mem))
    · exact fun name mem => h.optional_last name ((before _).2 (.inr mem))
  · rintro ⟨fits, rest, apart⟩
    constructor
    · exact List.not_mem_cons_of_ne_of_not_mem (Ne.symm fits.ne_empty) rest.ne_empty
    · intro mem
      obtain ⟨eq, ne⟩ | mem := (before "*").1 mem
      · exact only.1 (fits.wildcard_last eq) ne
      · exact rest.wildcard_last mem
    · exact ⟨List.not_mem_cons_of_ne_of_not_mem (Ne.symm fits.named.1) rest.named.1,
        List.not_mem_cons_of_ne_of_not_mem (Ne.symm fits.named.2) rest.named.2⟩
    · intro name mem
      obtain ⟨eq, ne⟩ | mem := (before _).1 mem
      · exact only.1 (fits.optional_last name eq) ne
      · exact rest.optional_last name mem
    · exact List.pairwise_cons.2 ⟨apart, rest.distinct⟩

theorem fits_iff {part : String} {last : Bool} :
    Fits last names part ↔ Fits last [] part ∧ ∀ name, Names part name → name ∉ names := by
  constructor
  · exact fun h => ⟨⟨h.ne_empty, h.wildcard_last, h.named, h.optional_last, fun _ _ => nofun⟩,
      h.fresh⟩
  · exact fun ⟨h, fresh⟩ => ⟨h.ne_empty, h.wildcard_last, h.named, h.optional_last, fresh⟩

/-- No name that is known behind a segment is that of a later part. -/
theorem fresh_behind {part : String} {segment : Segment} (stands : StandsFor part segment)
    (fits : Fits parts.isEmpty [] part) :
    (∀ other ∈ parts, ∀ name, Names other name → name ∉ names ++ segment.name?.toList) ↔
      (∀ other ∈ parts, ∀ name, Names other name → name ∉ names) ∧
        ∀ other ∈ parts, ∀ name, Names part name → ¬ Names other name := by
  by_cases isWildcard : segment = .wildcard
  · -- a wildcard has a name for the handler, but there is no part behind it
    subst isWildcard
    cases stands with
    | wildcard eq =>
      rw [List.isEmpty_iff.1 (fits.wildcard_last eq)]
      simp
  · simp only [List.mem_append, not_or, stands.mem_name? isWildcard]
    constructor
    · intro h
      exact ⟨fun other mem name names => (h other mem name names).1,
        fun other mem name first later => (h other mem name later).2 first⟩
    · intro ⟨fresh, apart⟩ other mem name names
      exact ⟨fresh other mem name names, fun first => apart other mem name first names⟩

/-- The segments of the parts of a pattern. -/
theorem ofParts_eq_ok_iff :
    Segment.ofParts names parts = .ok segments ↔
      List.Forall₂ StandsFor parts segments ∧ WellFormed parts ∧
        ∀ part ∈ parts, ∀ name, Names part name → name ∉ names := by
  induction parts generalizing names segments with
  | nil =>
    rw [Segment.ofParts, List.forall₂_nil_left_iff]
    constructor
    · intro eq
      exact ⟨(Except.ok.inj eq).symm, wellFormed_nil, fun _ => nofun⟩
    · rintro ⟨rfl, -⟩
      rfl
  | cons part rest ih =>
    rw [Segment.ofParts, bind_eq_ok_iff, wellFormed_cons, List.forall_mem_cons]
    constructor
    · rintro ⟨segment, first, eq⟩
      obtain ⟨more, others, eq⟩ := bind_eq_ok_iff.1 eq
      cases eq
      obtain ⟨stands, fits⟩ := ofPart_eq_ok_iff.1 first
      obtain ⟨fits, new⟩ := fits_iff.1 fits
      obtain ⟨spelled, wellFormed, fresh⟩ := ih.1 others
      obtain ⟨fresh, apart⟩ := (fresh_behind stands fits).1 fresh
      exact ⟨.cons stands spelled, ⟨fits, wellFormed, apart⟩, new, fresh⟩
    · rintro ⟨spelled, ⟨fits, wellFormed, apart⟩, new, fresh⟩
      cases spelled with
      | @cons _ segment _ more stands spelled =>
        have first := ofPart_eq_ok_iff.2 ⟨stands, fits_iff.2 ⟨fits, new⟩⟩
        have others := ih.2 ⟨spelled, wellFormed, (fresh_behind stands fits).2 ⟨fresh, apart⟩⟩
        exact ⟨segment, first, bind_eq_ok_iff.2 ⟨more, others, rfl⟩⟩

end

theorem exists_segments (parts : List String) :
    ∃ segments, List.Forall₂ StandsFor parts segments := by
  induction parts with
  | nil => exact ⟨[], .nil⟩
  | cons part parts ih =>
    obtain ⟨segment, stands⟩ := exists_standsFor part
    obtain ⟨segments, spelled⟩ := ih
    exact ⟨segment :: segments, .cons stands spelled⟩

namespace Pattern

theorem segmentsOf_eq_ok_iff {text : String} {segments : List Segment} :
    segmentsOf text = .ok segments ↔
      ∃ parts, HasParts text parts ∧ WellFormed parts ∧ List.Forall₂ StandsFor parts segments := by
  unfold segmentsOf
  constructor
  · intro h
    split at h
    · contradiction
    · next parts eq =>
      obtain ⟨spelled, wellFormed, -⟩ := ofParts_eq_ok_iff.1 h
      exact ⟨parts, parts?_eq_some_iff.1 eq, wellFormed, spelled⟩
  · rintro ⟨parts, hasParts, wellFormed, spelled⟩
    rw [parts?_eq_some_iff.2 hasParts]
    exact ofParts_eq_ok_iff.2 ⟨spelled, wellFormed, fun _ _ _ _ => List.not_mem_nil⟩

theorem ofText_eq_ok_iff {text : String} {pattern : Pattern} :
    ofText text = .ok pattern ↔ pattern.text = text ∧ segmentsOf text = .ok pattern.segments := by
  unfold ofText
  cases segmentsOf text with
  | ok segments =>
    obtain ⟨name, kinds⟩ := pattern
    simp [eq_comm]
  | error defect => simp

/--
A text is a pattern just when its parts are well-formed, and then the segments are what the parts
stand for, in their order. A slash behind a pattern changes nothing, if there was none.
-/
theorem ofText_wellFormed (text : String) :
    ((∃ pattern, ofText text = .ok pattern) ↔ ∃ parts, HasParts text parts ∧ WellFormed parts) ∧
    ((¬ ∃ parts, HasParts text parts ∧ WellFormed parts) →
      ∃ why, ofText text = .error (.invalidRoute why)) ∧
    (∀ pattern, ofText text = .ok pattern ↔ pattern.text = text ∧
      ∃ parts, HasParts text parts ∧ WellFormed parts ∧
        List.Forall₂ StandsFor parts pattern.segments) ∧
    (∀ pattern, ofText text = .ok pattern → (∀ front, text ≠ front ++ "/") →
      ∃ closed, ofText (text ++ "/") = .ok closed ∧ closed.segments = pattern.segments) := by
  have spelled : ∀ pattern, ofText text = .ok pattern ↔ pattern.text = text ∧
      ∃ parts, HasParts text parts ∧ WellFormed parts ∧
        List.Forall₂ StandsFor parts pattern.segments :=
    fun pattern => ofText_eq_ok_iff.trans (and_congr_right fun _ => segmentsOf_eq_ok_iff)
  have accepts : (∃ pattern, ofText text = .ok pattern) ↔
      ∃ parts, HasParts text parts ∧ WellFormed parts := by
    constructor
    · rintro ⟨pattern, eq⟩
      obtain ⟨-, parts, hasParts, wellFormed, -⟩ := (spelled pattern).1 eq
      exact ⟨parts, hasParts, wellFormed⟩
    · rintro ⟨parts, hasParts, wellFormed⟩
      obtain ⟨segments, stand⟩ := exists_segments parts
      exact ⟨⟨text, segments⟩, (spelled _).2 ⟨rfl, parts, hasParts, wellFormed, stand⟩⟩
  refine ⟨accepts, ?_, spelled, ?_⟩
  · intro malformed
    unfold ofText
    split
    · next segments eq =>
      exact absurd (accepts.1 ⟨⟨text, segments⟩, ofText_eq_ok_iff.2 ⟨rfl, eq⟩⟩) malformed
    · exact ⟨_, rfl⟩
  · intro pattern eq last
    obtain ⟨-, parts, hasParts, wellFormed, stand⟩ := (spelled pattern).1 eq
    refine ⟨⟨text ++ "/", pattern.segments⟩, ofText_eq_ok_iff.2 ⟨rfl, ?_⟩, rfl⟩
    exact segmentsOf_eq_ok_iff.2 ⟨parts, hasParts.append_slash last, wellFormed, stand⟩

end Pattern

end Hostlink.Route
