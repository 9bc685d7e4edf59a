import Hostlink.Proofs.Json.Fields
import Hostlink.Proofs.Wire
/-!
Which values are read as envelopes, and as which: what counts are the values of the five parts, be
they the members of an object in any order or the items of an array.
-/

namespace Hostlink

open Json

namespace Channel

variable {n : Nat} {v : Value}

theorem Kind.ofName_eq_ok_iff {name : String} {kind : Kind} :
    ofName name = .ok kind ↔ name = kind.name := by
  constructor
  · intro h
    unfold ofName ofName? at h
    split at h
    · next eq =>
      cases h
      split at eq <;> cases eq <;> rfl
    · contradiction
  · rintro rfl
    exact ofName_name kind

theorem decode_unit_eq_ok_iff {source : Json.Source} :
    decode source v.draft = .ok () ↔ v = .null := by
  cases v with
  | null => exact ⟨fun _ => rfl, fun _ => rfl⟩
  | bool | number | string | array | object =>
    simp only [Value.draft]
    exact ⟨fun h => (mismatch_ne_ok h).elim, nofun⟩

/-- A value that names a kind: a text, or the key of an object without any other content. -/
def Kind.NamedBy (kind : Kind) (value : Value) : Prop :=
  value = .string kind.name ∨ value = .object [(kind.name, .null)]

theorem Kind.decode_eq_ok_iff {kind : Kind} (depth : v.depth ≤ n) :
    decode (.text n) v.draft = .ok kind ↔ kind.NamedBy v := by
  unfold NamedBy
  cases v with
  | string s =>
    show ofName s = .ok kind ↔ _
    rw [ofName_eq_ok_iff]
    simp
  | object members =>
    show Kind.ofMembers (.text n) (Value.draftMembers members) .closed = .ok kind ↔ _
    unfold ofMembers
    cases n with
    | zero => exact absurd depth (Nat.not_succ_le_zero _)
    | succ n =>
      cases members with
      | nil => exact ⟨nofun, by simp⟩
      | cons m rest =>
        obtain ⟨key, content⟩ := m
        simp only [Value.draftMembers, Source.enter, ok_bind, bind_eq_ok_iff, throw_bind_eq_ok_iff]
        constructor
        · rintro ⟨-, _, ⟨⟩, _, named, _, isNull, _, last, ⟨⟩⟩
          obtain rfl := decode_unit_eq_ok_iff.1 isNull
          obtain rfl := ofName_eq_ok_iff.1 named
          cases rest with
          | nil => exact .inr rfl
          | cons => contradiction
        · rintro (⟨⟨⟩⟩ | ⟨⟨⟩⟩)
          exact ⟨by simp, _, rfl, kind, ofName_name kind, (), rfl, (), rfl, rfl⟩
  | null | bool | number | array => simp [Value.draft]

/-- A channel is read from a record of its parts. -/
structure ReadFrom (c : Channel) (parts : List (String × Value)) : Prop where
  id : parts.lookup "id" = some (.string c.id)
  kind : ∃ value, parts.lookup "type" = some value ∧ c.kind.NamedBy value
  name : parts.lookup "name" = some (.string c.name)
  parent : Nullable (fun value text => value = .string text) (parts.lookup "parent_id") c.parent
  self : Nullable (fun value text => value = .string text) (parts.lookup "self_id") c.self

theorem decode_eq_ok_iff {c : Channel} (depth : v.depth ≤ n + 1) :
    decode (.text (n + 1)) v.draft = .ok c ↔ ∃ parts, Laid fields v parts ∧ c.ReadFrom parts := by
  have required : Decode.missing (α := Kind) = none := rfl
  show (readFields "Channel" fields (.text (n + 1)) v.draft >>= fun found => do
    return ({
      id := ← found.get String "id"
      kind := ← found.get Kind "type"
      name := ← found.get String "name"
      parent := ← found.getOption String "parent_id"
      self := ← found.getOption String "self_id" } : Channel)) = _ ↔ _
  rw [readFields_bind_eq_ok_iff (by decide)]
  · apply exists_congr
    intro parts
    apply and_congr_right
    intro laid
    have kind : ∀ value kind, parts.lookup "type" = some value →
        (decode (.text n) value.draft = .ok kind ↔ Kind.NamedBy kind value) :=
      fun _ _ there => Kind.decode_eq_ok_iff (laid.depth_le there depth)
    simp only [bind_eq_ok_iff, get_string_eq_ok_iff, get_eq_ok_iff required,
      getOption_string_eq_ok_iff]
    constructor
    · rintro ⟨_, id, _, ⟨value, there, read⟩, _, name, _, parent, _, self, ⟨⟩⟩
      exact ⟨id, ⟨value, there, (kind value _ there).1 read⟩, name, parent, self⟩
    · intro ⟨id, ⟨value, there, named⟩, name, parent, self⟩
      have read := (kind value _ there).2 named
      exact ⟨_, id, _, ⟨value, there, read⟩, _, name, _, parent, _, self, rfl⟩
  · intro parts h
    simp only [bind_eq_ok_iff] at h
    obtain ⟨_, id, _, kind, _, name, _, parent, _, self, -⟩ := h
    intro field mem
    simp only [fields, List.mem_cons, List.not_mem_nil, or_false] at mem
    obtain rfl | rfl | rfl | rfl | rfl := mem
    · exact check_of_get id
    · exact check_of_get kind
    · exact check_of_get name
    · exact check_of_getOption parent
    · exact check_of_getOption self

theorem decode_null_ne_ok {source : Json.Source} {c : Channel} : decode source .null ≠ .ok c :=
  nofun

end Channel

namespace Envelope

/-- The values that stand for the parts of an envelope, as far as they are there. -/
structure Layout where
  path : Option Value
  correlation : Option Value
  channel : Option Value
  payload : Option Value
  error : Option Value

/-- A value that is read as a channel. -/
def IsChannel (value : Value) (channel : Channel) : Prop :=
  decode (.text maxLevels) value.draft = .ok channel

/-- The parts of an envelope among those of a record. -/
def layoutOf (parts : List (String × Value)) : Layout where
  path := parts.lookup "path"
  correlation := parts.lookup "correlation"
  channel := parts.lookup "channel"
  payload := parts.lookup "payload"
  error := parts.lookup "error"

variable {n : Nat} {v : Value} {parts : List (String × Value)} {layout : Layout}

theorem ofParts_eq_ok_iff {path : Option String} {correlation : String} {channel : Option Channel}
    {payload : Option Value} {error : Option String} {e : Envelope} :
    ofParts path correlation channel payload error = .ok e ↔
      (path = none ∧ e = .response { correlation, channel, payload, error }) ∨
      ∃ text, ∃ ne : text ≠ "", path = some text ∧ error = none ∧
        e = .request { path := text, correlation, channel, payload, path_ne := ne } := by
  cases path with
  | none => simp [ofParts, eq_comm]
  | some text =>
    by_cases empty : text = ""
    · simp [ofParts, empty]
    · cases error with
      | none => simp [ofParts, empty, eq_comm]
      | some => simp [ofParts, empty]

/-- A channel inside an envelope is read as it is by itself. -/
theorem isChannel_iff {channel : Channel} (depth : v.depth ≤ 126) :
    decode (.text 126) v.draft = .ok channel ↔ IsChannel v channel :=
  (Channel.decode_eq_ok_iff depth).trans (Channel.decode_eq_ok_iff (Nat.le_succ_of_le depth)).symm

theorem payload_eq_iff {n : Nat} {part payload : Option Value}
    (depth : ∀ value, part = some value → value.depth ≤ n) :
    Option.Rel (fun v a => decode (.text n) v.draft = .ok a) part payload ↔
      payload = part.map Value.normal := by
  cases part with
  | none =>
    constructor
    · rintro ⟨⟩
      rfl
    · rintro rfl
      exact .none
  | some value =>
    have read : decode (.text n) value.draft = .ok value.normal :=
      value.value_draft n (depth value rfl)
    constructor
    · rintro (h | _)
      rw [read] at h
      cases h
      rfl
    · rintro rfl
      exact .some read

/-- The parts that are read from the values of a record. -/
structure PartsFrom (layout : Layout) (path : Option String) (correlation : String)
    (channel : Option Channel) (payload : Option Value) (error : Option String) : Prop where
  path : Nullable (fun value text => value = .string text) layout.path path
  correlation : layout.correlation = some (.string correlation)
  channel : Nullable IsChannel layout.channel channel
  payload : payload = layout.payload.map Value.normal
  error : Nullable (fun value text => value = .string text) layout.error error

theorem decode_eq_ok_iff {e : Envelope} (depth : v.depth ≤ maxLevels) :
    decode (.text maxLevels) v.draft = .ok e ↔
      ∃ parts, Laid (fields Value) v parts ∧ ∃ path correlation channel payload error,
        PartsFrom (layoutOf parts) path correlation channel payload error ∧
          ofParts path correlation channel payload error = .ok e := by
  show (readFields "WireEnvelope" (fields Value) (.text (126 + 1)) v.draft >>= fun found => do
    let path ← found.getOption String "path"
    let correlation ← found.get String "correlation"
    let channel ← found.getOption Channel "channel"
    let payload ← found.get? Value "payload"
    let error ← found.getOption String "error"
    (ofParts path correlation channel payload error).mapError fun e =>
      Mismatch.refused (Fault.message e)) = _ ↔ _
  rw [readFields_bind_eq_ok_iff (by decide)]
  · apply exists_congr
    intro parts
    apply and_congr_right
    intro laid
    have deep : ∀ {name value}, parts.lookup name = some value → value.depth ≤ 126 :=
      fun there => laid.depth_le there depth
    have channel : ∀ o, Nullable (fun v c => decode (.text 126) v.draft = .ok c)
        (parts.lookup "channel") o ↔ Nullable IsChannel (parts.lookup "channel") o :=
      fun _ => Nullable.congr fun _ _ there => isChannel_iff (deep there)
    have payload : ∀ o, Option.Rel (fun v a => decode (.text 126) v.draft = .ok a)
        (parts.lookup "payload") o ↔ o = (parts.lookup "payload").map Value.normal :=
      fun _ => payload_eq_iff fun _ => deep
    simp only [bind_eq_ok_iff, mapError_eq_ok_iff, get_string_eq_ok_iff, getOption_string_eq_ok_iff,
      getOption_eq_ok_iff fun _ => Channel.decode_null_ne_ok, get?_eq_ok_iff, channel, payload]
    constructor
    · rintro ⟨path, hpath, correlation, hcorrelation, channel, hchannel, payload, hpayload, error,
        herror, eq⟩
      exact ⟨path, correlation, channel, payload, error,
        ⟨hpath, hcorrelation, hchannel, hpayload, herror⟩, eq⟩
    · rintro ⟨path, correlation, channel, payload, error, from_, eq⟩
      exact ⟨path, from_.path, correlation, from_.correlation, channel, from_.channel, payload,
        from_.payload, error, from_.error, eq⟩
  · intro parts h
    simp only [bind_eq_ok_iff] at h
    obtain ⟨_, path, _, correlation, _, channel, _, payload, _, error, -⟩ := h
    intro field mem
    simp only [fields, List.mem_cons, List.not_mem_nil, or_false] at mem
    obtain rfl | rfl | rfl | rfl | rfl := mem
    · exact check_of_getOption path
    · exact check_of_get correlation
    · exact check_of_getOption channel
    · exact check_of_get? payload
    · exact check_of_getOption error

end Envelope

end Hostlink
