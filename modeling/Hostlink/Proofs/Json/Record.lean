import Hostlink.Json.Record
import Hostlink.Proofs.Json.Value
import Hostlink.Proofs.Lookup
/-!
Records that are written with some of their fields left out are read back: the fields that have a
value are found, each with its draft.
-/

namespace Hostlink.Json

/-- The fields that have a value, in their order. -/
def present (parts : List (String × Option Draft)) : List (String × Draft) :=
  parts.filterMap fun p => p.2.map (p.1, ·)

/-- The object with given members. -/
def objectDraft (entries : List (String × Draft)) : Draft :=
  .object (entries.map fun e => (.ok e.1, e.2)) .closed

/-- A part that a field can be read from. -/
structure Fills (source : Source) (field : Field) (part : String × Option Draft) : Prop where
  name : part.1 = field.name
  check : ∀ draft, part.2 = some draft → field.check source draft = .ok ()
  required : field.presence = .required → part.2.isSome = true

theorem mem_present {parts : List (String × Option Draft)} {e : String × Draft} :
    e ∈ present parts ↔ (e.1, some e.2) ∈ parts := by
  unfold present
  rw [List.mem_filterMap]
  constructor
  · rintro ⟨⟨name, value⟩, mem, eq⟩
    cases value with
    | none => contradiction
    | some draft =>
      cases eq
      exact mem
  · intro mem
    exact ⟨_, mem, rfl⟩

theorem keys_present_sublist (parts : List (String × Option Draft)) :
    ((present parts).map Prod.fst).Sublist (parts.map Prod.fst) := by
  induction parts with
  | nil => exact .slnil
  | cons part parts ih =>
    obtain ⟨name, value⟩ := part
    cases value with
    | none => exact .cons _ ih
    | some draft => exact .cons_cons _ ih

theorem lookup_present {parts : List (String × Option Draft)}
    (nodup : (parts.map Prod.fst).Nodup) (name : String) :
    (present parts).lookup name = (parts.lookup name).join := by
  induction parts with
  | nil => rfl
  | cons part parts ih =>
    obtain ⟨key, value⟩ := part
    rw [List.map_cons, List.nodup_cons] at nodup
    have rest := ih nodup.2
    by_cases h : name = key
    · subst h
      rw [List.lookup_cons_self]
      cases value with
      | none =>
        show (present parts).lookup name = none
        exact lookup_eq_none fun mem => nodup.1 ((keys_present_sublist parts).subset mem)
      | some draft =>
        show List.lookup name ((name, draft) :: present parts) = some draft
        rw [List.lookup_cons_self]
    · have ne : (name == key) = false := beq_eq_false_iff_ne.2 h
      rw [List.lookup_cons, ne]
      cases value with
      | none => exact rest
      | some draft =>
        show List.lookup name ((key, draft) :: present parts) = _
        rw [List.lookup_cons, ne]
        exact rest

theorem find?_name {fields : List Field} (nodup : (fields.map Field.name).Nodup) {field : Field}
    (mem : field ∈ fields) : fields.find? (·.name == field.name) = some field := by
  induction fields with
  | nil => contradiction
  | cons first fields ih =>
    rw [List.map_cons, List.nodup_cons] at nodup
    rw [List.find?_cons]
    cases mem with
    | head => simp
    | tail _ mem =>
      have ne : (first.name == field.name) = false := by
        rw [beq_eq_false_iff_ne]
        intro eq
        rw [eq] at nodup
        exact nodup.1 (List.mem_map_of_mem mem)
      rw [ne]
      exact ih nodup.2 mem

theorem gatherMembers_known {fields : List Field} {source : Source}
    {entries found : List (String × Draft)}
    (known : ∀ e ∈ entries, ∃ field, fields.find? (·.name == e.1) = some field ∧
      field.check source e.2 = .ok ())
    (nodup : ((found ++ entries).map Prod.fst).Nodup) :
    gatherMembers fields source (entries.map fun e => (.ok e.1, e.2)) found =
      .ok (found ++ entries) := by
  induction entries generalizing found with
  | nil => simp [gatherMembers]
  | cons e entries ih =>
    obtain ⟨key, draft⟩ := e
    obtain ⟨field, find, check⟩ := known (key, draft) (by simp)
    -- a key that is found again would be refused as a duplicate
    have fresh : found.lookup key = none := by
      apply lookup_eq_none
      intro mem
      rw [List.map_append, List.map_cons] at nodup
      exact (List.nodup_append.1 nodup).2.2 key mem key (by simp) rfl
    have tail : ∀ e ∈ entries, ∃ field, fields.find? (·.name == e.1) = some field ∧
        field.check source e.2 = .ok () := fun e mem => known e (by simp [mem])
    rw [List.append_cons] at nodup
    simp only at find check
    simp only [List.map_cons, gatherMembers, orFault, Except.mapError, ok_bind, find, fresh, check]
    rw [if_neg (by simp), ih tail nodup]
    simp

variable {fields : List Field} {parts : List (String × Option Draft)} {n : Nat}

theorem names_of_fills {source : Source} (fills : List.Forall₂ (Fills source) fields parts) :
    parts.map Prod.fst = fields.map Field.name := by
  induction fills with
  | nil => rfl
  | cons head _ ih => rw [List.map_cons, List.map_cons, head.name, ih]

theorem exists_of_mem_right {α β : Type} {R : α → β → Prop} {as : List α} {bs : List β}
    (h : List.Forall₂ R as bs) {b : β} (mem : b ∈ bs) : ∃ a ∈ as, R a b := by
  induction h with
  | nil => contradiction
  | cons head _ ih =>
    cases mem with
    | head => exact ⟨_, by simp, head⟩
    | tail _ mem =>
      obtain ⟨a, isMember, related⟩ := ih mem
      exact ⟨a, by simp [isMember], related⟩

theorem checkPresence_eq_ok_iff {found : List (String × Draft)} :
    checkPresence fields found = .ok () ↔
      ∀ field ∈ fields, field.presence = .required → (found.lookup field.name).isSome = true := by
  unfold checkPresence
  split
  · next h =>
    rw [List.find?_eq_none] at h
    simpa using h
  · next field h =>
    have mem := List.mem_of_find?_eq_some h
    have missing := List.find?_some h
    simp only [Bool.and_eq_true, beq_iff_eq, Option.isNone_iff_eq_none] at missing
    refine ⟨nofun, fun there => ?_⟩
    have isThere := there field mem missing.1
    rw [missing.2] at isThere
    contradiction

theorem checkPresence_present {source : Source}
    (fills : List.Forall₂ (Fills source) fields parts) :
    checkPresence fields (present parts) = .ok () := by
  rw [checkPresence_eq_ok_iff]
  intro field mem required
  obtain ⟨⟨name, value⟩, isPart, fill⟩ := exists_of_mem_right fills.flip mem
  obtain ⟨draft, there⟩ := Option.isSome_iff_exists.1 (fill.required required)
  simp only at there
  subst there
  rw [List.lookup_isSome_iff]
  exact ⟨(name, draft), mem_present.2 isPart, beq_iff_eq.2 fill.name.symm⟩

theorem readFields_present (name : String) (nodup : (fields.map Field.name).Nodup)
    (fills : List.Forall₂ (Fills (.text n)) fields parts) :
    readFields name fields (.text (n + 1)) (objectDraft (present parts)) =
      .ok ⟨.text n, present parts⟩ := by
  have keys : (([] ++ present parts).map Prod.fst).Nodup := by
    apply (keys_present_sublist parts).nodup
    rwa [names_of_fills fills]
  have known : ∀ e ∈ present parts, ∃ field, fields.find? (·.name == e.1) = some field ∧
      field.check (.text n) e.2 = .ok () := by
    intro e mem
    obtain ⟨field, isField, fill⟩ := exists_of_mem_right fills (mem_present.1 mem)
    refine ⟨field, ?_, fill.check e.2 rfl⟩
    have : e.1 = field.name := fill.name
    rw [this]
    exact find?_name nodup isField
  have gathered := gatherMembers_known known keys
  rw [List.nil_append] at gathered
  simp only [objectDraft, readFields, Source.enter, ok_bind, gathered, ObjectStop.reading, orFault,
    Except.mapError, checkPresence_present fills]
  rfl

/-- Texts of the members that a record with given parts has. -/
def PartsSpelled (texts : List (List Char)) (parts : List (String × Option Draft)) : Prop :=
  List.Forall₂ Spells.Member texts ((present parts).map fun e => (.ok e.1, e.2))

namespace PartsSpelled

theorem append {texts more : List (List Char)} {parts others : List (String × Option Draft)}
    (first : PartsSpelled texts parts) (second : PartsSpelled more others) :
    PartsSpelled (texts ++ more) (parts ++ others) := by
  unfold PartsSpelled present
  rw [List.filterMap_append, List.map_append]
  exact List.rel_append first second

theorem optional {α : Type} (key : String) {value : Option α} {chars : α → List Char}
    {draft : α → Draft} (h : ∀ a, value = some a → Spells (chars a) (draft a)) :
    PartsSpelled (value.map fun a => memberChars key (chars a)).toList
      [(key, value.map draft)] := by
  cases value with
  | none => exact .nil
  | some a => exact .cons ((h a rfl).member key) .nil

theorem required {chars : List Char} {draft : Draft} (key : String) (h : Spells chars draft) :
    PartsSpelled [memberChars key chars] [(key, some draft)] :=
  .cons (h.member key) .nil

theorem spells {texts : List (List Char)} (h : PartsSpelled texts parts) :
    Spells (objectChars texts) (objectDraft (present parts)) :=
  Spells.object h

end PartsSpelled

section Fields

variable {α : Type} [Decode α] {source : Source} {name : String} {draft : Draft}

theorem check_eq_ok_iff {presence : Presence} :
    (Field.of α name presence).check source draft = .ok () ↔
      ∃ a : α, decode source draft = .ok a := by
  simp only [Field.of, bind_eq_ok_iff]
  exact exists_congr fun a => and_iff_left rfl

theorem Fills.of {presence : Presence} {value : Option Draft}
    (check : ∀ draft, value = some draft → ∃ a : α, decode source draft = .ok a)
    (required : presence = .required → value.isSome = true) :
    Fills source (.of α name presence) (name, value) := by
  refine ⟨rfl, ?_, ?_⟩
  · exact fun draft eq => check_eq_ok_iff.2 (check draft eq)
  · intro isRequired
    apply required
    simp only [Field.of] at isRequired
    split at isRequired
    · contradiction
    · exact isRequired

variable {found : Fields}

theorem Fields.get?_eq {β : Type} {draft : β → Draft} {part : Option β} {value : β → α}
    (lookup : found.found.lookup name = part.map draft)
    (read : ∀ b, part = some b → decode found.source (draft b) = .ok (value b)) :
    found.get? α name = .ok (part.map value) := by
  unfold get?
  rw [lookup]
  cases part with
  | none => rfl
  | some b =>
    simp only [Option.map_some, read b rfl]
    rfl

theorem Fields.get_eq {a : α} (lookup : found.found.lookup name = some draft)
    (read : decode found.source draft = .ok a) : found.get α name = .ok a := by
  have there : found.found.lookup name = (some a).map fun _ => draft := lookup
  unfold get
  rw [get?_eq there fun _ _ => read]
  rfl

theorem Fields.getOption_eq {draft : α → Draft} {part : Option α}
    (lookup : found.found.lookup name = part.map draft)
    (read : ∀ a, part = some a → decode found.source (draft a) = .ok (some a)) :
    found.getOption α name = .ok part := by
  unfold getOption
  rw [get?_eq lookup read]
  cases part <;> rfl

end Fields

end Hostlink.Json
