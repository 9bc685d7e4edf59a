import Mathlib.Data.List.Nodup
import Hostlink.Proofs.Json.Record
/-!
From which values a record is read: objects that name no field twice, in whatever order and with
whatever other members, and arrays of the fields in their order. What is found are the values of the
fields, and only they matter.
-/

namespace Hostlink.Json

theorem mismatch_ne_ok {α : Type} {wanted : String} {draft : Draft} {a : α} :
    mismatch wanted draft ≠ .ok a := by
  unfold mismatch
  split <;> simp

mutual

/-- Nothing in the draft of a value keeps it from being passed over. -/
theorem Value.skip_draft : ∀ v : Value, v.draft.skip = .ok ()
  | .null => rfl
  | .bool _ => rfl
  | .number _ => rfl
  | .string _ => rfl
  | .array items => by
    rw [Value.draft, Draft.skip, Value.skipItems_draftItems items]
    rfl
  | .object members => by
    rw [Value.draft, Draft.skip, Value.skipMembers_draftMembers members]
    rfl

theorem Value.skipItems_draftItems : ∀ items : List Value,
    Draft.skipItems (Value.draftItems items) = .ok ()
  | [] => rfl
  | item :: rest => by
    rw [Value.draftItems, Draft.skipItems, Value.skip_draft item]
    exact Value.skipItems_draftItems rest

theorem Value.skipMembers_draftMembers : ∀ members : List (String × Value),
    Draft.skipMembers (Value.draftMembers members) = .ok ()
  | [] => rfl
  | (_, value) :: rest => by
    rw [Value.draftMembers, Draft.skipMembers, Value.skip_draft value]
    exact Value.skipMembers_draftMembers rest

end

/-- The members whose keys are names of fields. -/
def known (fields : List Field) (members : List (String × Value)) : List (String × Value) :=
  members.filter fun m => (fields.find? (·.name == m.1)).isSome

/-- The drafts of parts of a record. -/
def draftParts (parts : List (String × Value)) : List (String × Draft) :=
  parts.map fun part => (part.1, part.2.draft)

/-- The values that stand for the fields of a record. -/
inductive Laid (fields : List Field) : Value → List (String × Value) → Prop where
  | object {members : List (String × Value)}
      (nodup : ((known fields members).map Prod.fst).Nodup)
      (there : ∀ field ∈ fields, field.presence = .required →
        ((known fields members).lookup field.name).isSome = true) :
    Laid fields (.object members) (known fields members)
  | array {items : List Value} (length : items.length ≤ fields.length)
      (rest : ∀ field ∈ fields.drop items.length, field.presence = .defaulted) :
    Laid fields (.array items) ((fields.map Field.name).zip items)

/-- The values of a record pass the checks of their fields. -/
def Passes (source : Source) (fields : List Field) (parts : List (String × Value)) : Prop :=
  ∀ field ∈ fields, ∀ value, parts.lookup field.name = some value →
    field.check source value.draft = .ok ()

section

variable {fields : List Field} {source : Source}

theorem lookup_draftParts (parts : List (String × Value)) (name : String) :
    (draftParts parts).lookup name = (parts.lookup name).map Value.draft := by
  induction parts with
  | nil => rfl
  | cons part parts ih =>
    unfold draftParts at ih ⊢
    rw [List.map_cons, List.lookup_cons, List.lookup_cons]
    split
    · rfl
    · exact ih

theorem lookup_concat_eq_none {found : List (String × Draft)} {key name : String} {draft : Draft} :
    (found ++ [(key, draft)]).lookup name = none ↔ found.lookup name = none ∧ name ≠ key := by
  rw [List.lookup_append, Option.or_eq_none_iff, List.lookup_cons]
  apply and_congr_right
  intro _
  by_cases h : name = key
  · simp [h]
  · simp [h, beq_eq_false_iff_ne.2 h]

/-- The members of an object are taken in, if no field among them is there twice. -/
theorem gatherMembers_eq_ok_iff {members : List (String × Value)}
    {found after : List (String × Draft)} :
    gatherMembers fields source (Value.draftMembers members) found = .ok after ↔
      after = found ++ draftParts (known fields members) ∧
      ((known fields members).map Prod.fst).Nodup ∧
      (∀ m ∈ known fields members, found.lookup m.1 = none) ∧
      ∀ m ∈ known fields members, ∀ field, fields.find? (·.name == m.1) = some field →
        field.check source m.2.draft = .ok () := by
  induction members generalizing found with
  | nil =>
    rw [Value.draftMembers, gatherMembers, Except.ok.injEq, eq_comm]
    simp [known, draftParts]
  | cons m members ih =>
    obtain ⟨key, value⟩ := m
    simp only [Value.draftMembers, gatherMembers, orFault, Except.mapError, ok_bind]
    cases find : fields.find? (·.name == key) with
    | none =>
      have same : known fields ((key, value) :: members) = known fields members := by
        simp [known, find]
      rw [same, Value.skip_draft]
      exact ih
    | some field =>
      have more : known fields ((key, value) :: members) =
          (key, value) :: known fields members := by
        simp [known, find]
      rw [more]
      simp only [throw_bind_eq_ok_iff, bind_eq_ok_iff, ih, lookup_concat_eq_none, forall_and,
        List.forall_mem_cons, List.map_cons, List.nodup_cons, find, Option.some.injEq,
        forall_eq', Bool.not_eq_true, Option.isSome_eq_false_iff, Option.isNone_iff_eq_none]
      have apart : key ∉ (known fields members).map Prod.fst ↔
          ∀ m ∈ known fields members, m.1 ≠ key := by
        simp only [List.mem_map, not_exists, not_and, ne_eq]
      have joined : found ++ [(key, value.draft)] ++ draftParts (known fields members) =
          found ++ draftParts ((key, value) :: known fields members) := by
        simp [draftParts]
      rw [apart, joined]
      constructor
      · rintro ⟨fresh, _, check, eq, nodup, ⟨others, ne⟩, checks⟩
        exact ⟨eq, ⟨ne, nodup⟩, ⟨fresh, others⟩, check, checks⟩
      · rintro ⟨eq, ⟨ne, nodup⟩, ⟨fresh, others⟩, check, checks⟩
        exact ⟨fresh, (), check, eq, nodup, ⟨others, ne⟩, checks⟩

/-- The items of an array are taken in with none left, if there are no more than fields. -/
theorem gatherItems_eq_ok_iff {position : Nat} {wanted : String} {items : List Value}
    {found : List (String × Draft)} :
    gatherItems source position .closed wanted fields (Value.draftItems items) = .ok (found, []) ↔
      items.length ≤ fields.length ∧
      (∀ field ∈ fields.drop items.length, field.presence = .defaulted) ∧
      found = draftParts ((fields.map Field.name).zip items) ∧
      ∀ p ∈ fields.zip items, p.1.check source p.2.draft = .ok () := by
  induction fields generalizing position items found with
  | nil =>
    cases items with
    | nil =>
      simp only [Value.draftItems, gatherItems, Except.ok.injEq, Prod.mk.injEq, and_true]
      exact ⟨fun eq => ⟨Nat.le_refl 0, nofun, eq.symm, nofun⟩, fun h => h.2.2.1.symm⟩
    | cons item items => simp [Value.draftItems, gatherItems]
  | cons field fields ih =>
    cases items with
    | nil =>
      have rest := @ih (position + 1) [] found
      rw [Value.draftItems] at rest ⊢
      simp only [gatherItems, ArrayStop.reading, orFault, Except.mapError, ok_bind,
        throw_bind_eq_ok_iff, rest]
      simp [draftParts, and_assoc]
    | cons item items =>
      simp only [Value.draftItems, gatherItems, bind_eq_ok_iff]
      constructor
      · rintro ⟨_, check, ⟨others, surplus⟩, eq, same⟩
        cases same
        obtain ⟨length, rest, rfl, checks⟩ := ih.1 eq
        refine ⟨Nat.succ_le_succ length, rest, rfl, ?_⟩
        rw [List.zip_cons_cons, List.forall_mem_cons]
        exact ⟨check, checks⟩
      · rintro ⟨length, rest, rfl, checks⟩
        rw [List.zip_cons_cons, List.forall_mem_cons] at checks
        refine ⟨(), checks.1, (_, []), ?_, rfl⟩
        exact ih.2 ⟨Nat.le_of_succ_le_succ length, rest, rfl, checks.2⟩

theorem passes_known {members : List (String × Value)} (nodup : (fields.map Field.name).Nodup)
    (keys : ((known fields members).map Prod.fst).Nodup) :
    Passes source fields (known fields members) ↔
      ∀ m ∈ known fields members, ∀ field, fields.find? (·.name == m.1) = some field →
        field.check source m.2.draft = .ok () := by
  constructor
  · intro passes m mem field find
    have name := List.find?_some find
    rw [beq_iff_eq] at name
    apply passes field (List.mem_of_find?_eq_some find)
    rw [name]
    exact (lookup_eq_some_iff keys).2 mem
  · intro checks field mem value there
    have isMember := (lookup_eq_some_iff keys).1 there
    exact checks (field.name, value) isMember field (find?_name nodup mem)

theorem passes_zip {items : List Value} (nodup : (fields.map Field.name).Nodup) :
    Passes source fields ((fields.map Field.name).zip items) ↔
      ∀ p ∈ fields.zip items, p.1.check source p.2.draft = .ok () := by
  unfold Passes
  induction fields generalizing items with
  | nil => exact ⟨nofun, nofun⟩
  | cons field fields ih =>
    cases items with
    | nil => exact ⟨nofun, nofun⟩
    | cons item items =>
      rw [List.map_cons, List.nodup_cons] at nodup
      rw [List.map_cons, List.zip_cons_cons, List.zip_cons_cons, List.forall_mem_cons,
        List.forall_mem_cons, ← ih nodup.2]
      have first : ((field.name, item) :: (fields.map Field.name).zip items).lookup field.name =
          some item := List.lookup_cons_self
      have others : ∀ other ∈ fields,
          ((field.name, item) :: (fields.map Field.name).zip items).lookup other.name =
            ((fields.map Field.name).zip items).lookup other.name := by
        intro other mem
        have ne : (other.name == field.name) = false :=
          beq_eq_false_iff_ne.2 fun eq => nodup.1 (eq ▸ List.mem_map_of_mem mem)
        rw [List.lookup_cons, ne]
      constructor
      · rintro ⟨check, checks⟩
        exact ⟨check item first, fun other mem value there =>
          checks other mem value ((others other mem).trans there)⟩
      · rintro ⟨check, checks⟩
        refine ⟨fun value there => ?_, fun other mem value there =>
          checks other mem value ((others other mem).symm.trans there)⟩
        cases first.symm.trans there
        exact check

theorem readFields_object {name : String} (nodup : (fields.map Field.name).Nodup) {n : Nat}
    {members : List (String × Value)} {found : Fields} :
    readFields name fields (.text (n + 1)) (.object (Value.draftMembers members) .closed) =
        .ok found ↔
      ∃ parts, Laid fields (.object members) parts ∧ Passes (.text n) fields parts ∧
        found = ⟨.text n, draftParts parts⟩ := by
  simp only [readFields, Source.enter, ok_bind, bind_eq_ok_iff, gatherMembers_eq_ok_iff,
    ObjectStop.reading, orFault, Except.mapError]
  constructor
  · rintro ⟨_, ⟨rfl, keys, -, checks⟩, _, present, eq⟩
    cases eq
    refine ⟨known fields members, .object keys ?_, (passes_known nodup keys).2 checks, rfl⟩
    intro field mem required
    have := checkPresence_eq_ok_iff.1 present field mem required
    simpa [lookup_draftParts] using this
  · rintro ⟨_, laid, passes, rfl⟩
    cases laid with
    | object keys there =>
      refine ⟨_, ⟨rfl, keys, fun _ _ => rfl, (passes_known nodup keys).1 passes⟩, (), ?_, rfl⟩
      rw [checkPresence_eq_ok_iff]
      intro field mem required
      simpa [lookup_draftParts] using there field mem required

theorem readFields_array {name : String} (nodup : (fields.map Field.name).Nodup) {n : Nat}
    {items : List Value} {found : Fields} :
    readFields name fields (.text (n + 1)) (.array (Value.draftItems items) .closed) = .ok found ↔
      ∃ parts, Laid fields (.array items) parts ∧ Passes (.text n) fields parts ∧
        found = ⟨.text n, draftParts parts⟩ := by
  simp only [readFields, Source.enter, ok_bind, bind_eq_ok_iff]
  constructor
  · rintro ⟨⟨_, surplus⟩, gathered, _, last, eq⟩
    cases eq
    cases surplus with
    | cons => contradiction
    | nil =>
      obtain ⟨length, rest, rfl, checks⟩ := gatherItems_eq_ok_iff.1 gathered
      exact ⟨_, .array length rest, (passes_zip nodup).2 checks, rfl⟩
  · rintro ⟨_, laid, passes, rfl⟩
    cases laid with
    | array length rest =>
      exact ⟨(_, []), gatherItems_eq_ok_iff.2 ⟨length, rest, rfl, (passes_zip nodup).1 passes⟩, (),
        rfl, rfl⟩

/-- A record is read from the values that stand for its fields, if they pass their checks. -/
theorem readFields_eq_ok_iff {name : String} (nodup : (fields.map Field.name).Nodup) {n : Nat}
    {v : Value} {found : Fields} :
    readFields name fields (.text (n + 1)) v.draft = .ok found ↔
      ∃ parts, Laid fields v parts ∧ Passes (.text n) fields parts ∧
        found = ⟨.text n, draftParts parts⟩ := by
  cases v with
  | object members => exact readFields_object nodup
  | array items => exact readFields_array nodup
  | null | bool | number | string =>
    simp only [Value.draft, readFields]
    constructor
    · exact fun h => (mismatch_ne_ok h).elim
    · rintro ⟨_, laid, -⟩
      cases laid

end

/-- What stands for something that need not be there: null stands for nothing, as if it were not. -/
inductive Nullable {α : Type} (R : Value → α → Prop) : Option Value → Option α → Prop where
  | absent : Nullable R none none
  | null : Nullable R (some .null) none
  | value {v : Value} {a : α} (h : R v a) : Nullable R (some v) (some a)

theorem Nullable.congr {α : Type} {R S : Value → α → Prop} {part : Option Value} {o : Option α}
    (same : ∀ v a, part = some v → (R v a ↔ S v a)) : Nullable R part o ↔ Nullable S part o := by
  constructor
  · rintro (_ | _ | h)
    · exact .absent
    · exact .null
    · exact .value ((same _ _ rfl).1 h)
  · rintro (_ | _ | h)
    · exact .absent
    · exact .null
    · exact .value ((same _ _ rfl).2 h)

section

variable {α : Type} [Decode α] {source : Source} {v : Value} {name : String}
  {parts : List (String × Value)}

theorem decode_string_eq_ok_iff {text : String} :
    decode source v.draft = .ok text ↔ v = .string text := by
  cases v with
  | string s =>
    show Except.ok s = Except.ok text ↔ _
    rw [Except.ok.injEq, Value.string.injEq]
  | null | bool | number | array | object =>
    simp only [Value.draft]
    exact ⟨fun h => (mismatch_ne_ok h).elim, nofun⟩

theorem decode_option_eq_ok_iff {o : Option α} :
    decode source v.draft = .ok o ↔
      v = .null ∧ o = none ∨ v ≠ .null ∧ ∃ a : α, decode source v.draft = .ok a ∧ o = some a := by
  have some_iff : (do return some (← decode (α := α) source v.draft)) = Except.ok o ↔
      ∃ a : α, decode source v.draft = .ok a ∧ o = some a := by
    rw [bind_eq_ok_iff]
    exact exists_congr fun a => and_congr_right fun _ => ⟨fun h => (Except.ok.inj h).symm,
      fun eq => congrArg Except.ok eq.symm⟩
  cases v with
  | null =>
    show Except.ok none = Except.ok o ↔ _
    simp [eq_comm]
  | bool | number | string | array | object => exact Iff.trans some_iff (by simp)

theorem get?_eq_ok_iff {o : Option α} :
    Fields.get? α ⟨source, draftParts parts⟩ name = .ok o ↔
      Option.Rel (fun v a => decode source v.draft = .ok a) (parts.lookup name) o := by
  unfold Fields.get?
  rw [lookup_draftParts]
  cases parts.lookup name with
  | none =>
    constructor
    · rintro ⟨⟩
      exact .none
    · rintro ⟨⟩
      rfl
  | some v =>
    simp only [Option.map_some, bind_eq_ok_iff]
    constructor
    · rintro ⟨a, read, ⟨⟩⟩
      exact .some read
    · rintro (read | _)
      exact ⟨_, read, rfl⟩

theorem get_eq_ok_iff (required : Decode.missing (α := α) = none) {a : α} :
    Fields.get α ⟨source, draftParts parts⟩ name = .ok a ↔
      ∃ v, parts.lookup name = some v ∧ decode source v.draft = .ok a := by
  unfold Fields.get
  rw [required]
  simp only [bind_eq_ok_iff, get?_eq_ok_iff, Option.or_none]
  constructor
  · rintro ⟨o, found, eq⟩
    cases o with
    | none => contradiction
    | some b =>
      cases eq
      cases there : parts.lookup name with
      | none =>
        rw [there] at found
        contradiction
      | some v =>
        rw [there] at found
        cases found with
        | some read => exact ⟨v, rfl, read⟩
  · rintro ⟨v, there, read⟩
    rw [there]
    exact ⟨some a, .some read, rfl⟩

theorem getOption_eq_ok_iff (null : ∀ a : α, decode source .null ≠ .ok a) {o : Option α} :
    Fields.getOption α ⟨source, draftParts parts⟩ name = .ok o ↔
      Nullable (fun v a => decode source v.draft = .ok a) (parts.lookup name) o := by
  unfold Fields.getOption
  simp only [bind_eq_ok_iff, get?_eq_ok_iff, decode_option_eq_ok_iff]
  generalize parts.lookup name = part
  constructor
  · rintro ⟨_, found, ⟨⟩⟩
    cases found with
    | none => exact .absent
    | some read =>
      obtain ⟨rfl, rfl⟩ | ⟨-, a, read, rfl⟩ := read
      · exact .null
      · exact .value read
  · intro found
    cases found with
    | absent => exact ⟨none, .none, rfl⟩
    | null => exact ⟨some none, .some (.inl ⟨rfl, rfl⟩), rfl⟩
    | @value v a read =>
      have ne : v ≠ .null := by
        rintro rfl
        exact null a read
      exact ⟨some (some a), .some (.inr ⟨ne, a, read, rfl⟩), rfl⟩

theorem get_string_eq_ok_iff {text : String} :
    Fields.get String ⟨source, draftParts parts⟩ name = .ok text ↔
      parts.lookup name = some (.string text) := by
  rw [get_eq_ok_iff rfl]
  simp only [decode_string_eq_ok_iff, exists_eq_right]

theorem getOption_string_eq_ok_iff {o : Option String} :
    Fields.getOption String ⟨source, draftParts parts⟩ name = .ok o ↔
      Nullable (fun v text => v = .string text) (parts.lookup name) o := by
  rw [getOption_eq_ok_iff fun _ => mismatch_ne_ok]
  simp only [decode_string_eq_ok_iff]

/-- What could be read passes the check of its field. -/
theorem check_of_get? {presence : Presence} {o : Option α}
    (h : Fields.get? α ⟨source, draftParts parts⟩ name = .ok o) (value : Value)
    (there : parts.lookup name = some value) :
    (Field.of α name presence).check source value.draft = .ok () := by
  rw [get?_eq_ok_iff, there] at h
  cases h with
  | some read => exact check_eq_ok_iff.2 ⟨_, read⟩

theorem check_of_get {presence : Presence} {a : α}
    (h : Fields.get α ⟨source, draftParts parts⟩ name = .ok a) (value : Value)
    (there : parts.lookup name = some value) :
    (Field.of α name presence).check source value.draft = .ok () := by
  obtain ⟨o, found, -⟩ := bind_eq_ok_iff.1 h
  exact check_of_get? found value there

theorem check_of_getOption {presence : Presence} {o : Option α}
    (h : Fields.getOption α ⟨source, draftParts parts⟩ name = .ok o) (value : Value)
    (there : parts.lookup name = some value) :
    (Field.of (Option α) name presence).check source value.draft = .ok () := by
  obtain ⟨o, found, -⟩ := bind_eq_ok_iff.1 h
  exact check_of_get? found value there

end

/-- A record is read from the values that stand for its fields, if each of them is looked at. -/
theorem readFields_bind_eq_ok_iff {β : Type} {fields : List Field} {name : String}
    (nodup : (fields.map Field.name).Nodup) {n : Nat} {v : Value}
    {read : Fields → Except Mismatch β} {b : β}
    (looks : ∀ parts, read ⟨.text n, draftParts parts⟩ = .ok b → Passes (.text n) fields parts) :
    (readFields name fields (.text (n + 1)) v.draft >>= read) = .ok b ↔
      ∃ parts, Laid fields v parts ∧ read ⟨.text n, draftParts parts⟩ = .ok b := by
  rw [bind_eq_ok_iff]
  constructor
  · rintro ⟨found, eq, h⟩
    obtain ⟨parts, laid, -, rfl⟩ := (readFields_eq_ok_iff nodup).1 eq
    exact ⟨parts, laid, h⟩
  · rintro ⟨parts, laid, h⟩
    exact ⟨_, (readFields_eq_ok_iff nodup).2 ⟨parts, laid, looks parts h, rfl⟩, h⟩

theorem Value.depth_le_of_mem_items {items : List Value} {item : Value} (mem : item ∈ items) :
    item.depth ≤ Value.itemsDepth items := by
  induction items with
  | nil => contradiction
  | cons first rest ih =>
    rw [Value.itemsDepth]
    cases mem with
    | head => exact Nat.le_max_left _ _
    | tail _ mem => exact Nat.le_trans (ih mem) (Nat.le_max_right _ _)

theorem Value.depth_le_of_mem_members {members : List (String × Value)} {m : String × Value}
    (mem : m ∈ members) : m.2.depth ≤ Value.membersDepth members := by
  induction members with
  | nil => contradiction
  | cons first rest ih =>
    rw [Value.membersDepth]
    cases mem with
    | head => exact Nat.le_max_left _ _
    | tail _ mem => exact Nat.le_trans (ih mem) (Nat.le_max_right _ _)

/-- The values of the fields of a record lie deeper than the record. -/
theorem Laid.depth_le {fields : List Field} {v value : Value} {parts : List (String × Value)}
    {name : String} {n : Nat} (laid : Laid fields v parts) (there : parts.lookup name = some value)
    (depth : v.depth ≤ n + 1) : value.depth ≤ n := by
  apply Nat.le_of_lt_succ (Nat.lt_of_lt_of_le _ depth)
  obtain ⟨before, behind, eq, -⟩ := List.lookup_eq_some_iff.1 there
  have mem : (name, value) ∈ parts := by simp [eq]
  cases laid with
  | object => exact Nat.lt_succ_of_le (Value.depth_le_of_mem_members (List.mem_filter.1 mem).1)
  | array => exact Nat.lt_succ_of_le (Value.depth_le_of_mem_items (List.of_mem_zip mem).2)

end Hostlink.Json
