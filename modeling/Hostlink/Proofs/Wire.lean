import Hostlink.Wire
import Hostlink.Proofs.Json.Record
/-!
An envelope is read back from its bytes, with every part as it was written.
-/

namespace Hostlink

open Json Bytes

def textDraft (s : String) : Draft :=
  .string (.ok s)

namespace Channel

/-- The fields of a channel, in the order in which they are written. -/
def parts (channel : Channel) : List (String × Option Draft) :=
  [("id", some (textDraft channel.id)), ("type", some (textDraft channel.kind.name)),
    ("name", some (textDraft channel.name)), ("parent_id", channel.parent.map textDraft),
    ("self_id", channel.self.map textDraft)]

def draft (channel : Channel) : Draft :=
  objectDraft (present channel.parts)

theorem spells (channel : Channel) : Spells channel.chars channel.draft := by
  have parent : PartsSpelled _ [("parent_id", channel.parent.map textDraft)] :=
    .optional "parent_id" fun s _ => Spells.text s
  have self : PartsSpelled _ [("self_id", channel.self.map textDraft)] :=
    .optional "self_id" fun s _ => Spells.text s
  have always := ((PartsSpelled.required "id" (.text channel.id)).append
    (.required "type" (.text channel.kind.name))).append (.required "name" (.text channel.name))
  exact ((always.append parent).append self).spells

theorem Kind.ofName_name (kind : Kind) : Kind.ofName kind.name = .ok kind := by
  cases kind <;> rfl

theorem decode_kind (kind : Kind) (source : Json.Source) :
    decode source (textDraft kind.name) = .ok kind := by
  show Kind.ofName kind.name = .ok kind
  exact Kind.ofName_name kind

theorem fills (channel : Channel) (source : Json.Source) :
    List.Forall₂ (Fills source) fields channel.parts := by
  have text : ∀ (s : String) d, some (textDraft s) = some d →
      ∃ a : String, decode source d = .ok a := by
    rintro s _ ⟨⟩
    exact ⟨s, rfl⟩
  have optional : ∀ (o : Option String) d, o.map textDraft = some d →
      ∃ a : Option String, decode source d = .ok a := by
    intro o d eq
    obtain ⟨s, -, rfl⟩ := Option.map_eq_some_iff.1 eq
    exact ⟨some s, rfl⟩
  have kind : ∀ d, some (textDraft channel.kind.name) = some d →
      ∃ a : Kind, decode source d = .ok a := by
    rintro _ ⟨⟩
    exact ⟨channel.kind, decode_kind channel.kind source⟩
  apply List.Forall₂.cons (.of (text channel.id) fun _ => rfl)
  apply List.Forall₂.cons (.of kind fun _ => rfl)
  apply List.Forall₂.cons (.of (text channel.name) fun _ => rfl)
  apply List.Forall₂.cons (.of (optional channel.parent) nofun)
  apply List.Forall₂.cons (.of (optional channel.self) nofun)
  exact .nil

theorem decode_draft (channel : Channel) (n : Nat) :
    decode (.text (n + 1)) channel.draft = .ok channel := by
  have nodup : (fields.map Field.name).Nodup := by decide
  have read := readFields_present "Channel" nodup (channel.fills (.text n))
  have lookup := @lookup_present channel.parts nodup
  show (do
    let found ← readFields "Channel" fields (.text (n + 1)) channel.draft
    return ({
      id := ← found.get String "id"
      kind := ← found.get Kind "type"
      name := ← found.get String "name"
      parent := ← found.getOption String "parent_id"
      self := ← found.getOption String "self_id" } : Channel)) = _
  unfold draft
  rw [read, ok_bind, Fields.get_eq (lookup "id") rfl,
    Fields.get_eq (lookup "type") (decode_kind channel.kind _), Fields.get_eq (lookup "name") rfl,
    Fields.getOption_eq (lookup "parent_id") fun _ _ => rfl,
    Fields.getOption_eq (lookup "self_id") fun _ _ => rfl]
  rfl

theorem decode_some (channel : Channel) (n : Nat) :
    decode (.text (n + 1)) channel.draft = .ok (some channel) := by
  show (do return some (← decode (.text (n + 1)) channel.draft)) = _
  rw [decode_draft]
  rfl

end Channel

namespace Envelope

/-- The payload of an envelope of either kind. -/
def payload {π : Type} : Envelope π → Option π
  | request r => r.payload
  | response r => r.payload

/-- The error of a response; a request has none. -/
def error {π : Type} : Envelope π → Option String
  | request _ => none
  | response r => r.error

/-- An envelope whose payload, if there is one, is read back from its text inside the envelope. -/
structure Portable (envelope : Envelope) : Prop where
  exact : ∀ v, envelope.payload = some v → v.Exact
  depth : ∀ v, envelope.payload = some v → v.depth < maxLevels
  normal : ∀ v, envelope.payload = some v → v.normal = v

theorem portable_of_none {envelope : Envelope} (h : envelope.payload = none) :
    envelope.Portable := by
  constructor <;>
  · intro v there
    rw [h] at there
    contradiction

def parts (envelope : Envelope) : List (String × Option Draft) :=
  [("path", envelope.path?.map textDraft), ("correlation", some (textDraft envelope.correlation)),
    ("channel", envelope.channel.map Channel.draft), ("payload", envelope.payload.map Value.draft),
    ("error", envelope.error.map textDraft)]

def draft (envelope : Envelope) : Draft :=
  objectDraft (present envelope.parts)

/-- The texts of the members of an envelope of either kind. -/
def texts (envelope : Envelope) : List (List Char) :=
  (envelope.path?.map fun p => memberChars "path" (textChars p)).toList ++
  [memberChars "correlation" (textChars envelope.correlation)] ++
  (envelope.channel.map fun c => memberChars "channel" c.chars).toList ++
  (envelope.payload.map fun v => memberChars "payload" v.chars).toList ++
  (envelope.error.map fun e => memberChars "error" (textChars e)).toList

theorem optionalMember_eq {α : Type} [Encode α] (chars : α → List Char)
    (h : ∀ a, Encode.chars a = .ok (chars a)) (key : String) (value : Option α) :
    optionalMember key value = .ok (value.map fun a => memberChars key (chars a)).toList := by
  cases value with
  | none => rfl
  | some a =>
    simp only [optionalMember, h]
    rfl

theorem memberTexts_eq (envelope : Envelope) : envelope.memberTexts = .ok envelope.texts := by
  have channel := optionalMember_eq Channel.chars (fun _ => rfl) "channel"
  have payload := optionalMember_eq Value.chars (fun _ => rfl) "payload"
  have error := optionalMember_eq textChars (fun _ => rfl) "error"
  cases envelope with
  | request r =>
    simp only [memberTexts, channel, payload, ok_bind]
    exact congrArg Except.ok (List.append_nil _).symm
  | response r =>
    simp only [memberTexts, channel, payload, error, ok_bind]
    rfl

theorem spells {envelope : Envelope} (exact : ∀ v, envelope.payload = some v → v.Exact) :
    Spells (objectChars envelope.texts) envelope.draft := by
  have path : PartsSpelled _ [("path", envelope.path?.map textDraft)] :=
    .optional "path" fun s _ => Spells.text s
  have channel : PartsSpelled _ [("channel", envelope.channel.map Channel.draft)] :=
    .optional "channel" fun c _ => c.spells
  have payload : PartsSpelled _ [("payload", envelope.payload.map Value.draft)] :=
    .optional "payload" fun v eq => v.spells (exact v eq)
  have error : PartsSpelled _ [("error", envelope.error.map textDraft)] :=
    .optional "error" fun s _ => Spells.text s
  have correlation := PartsSpelled.required "correlation" (.text envelope.correlation)
  exact ((((path.append correlation).append channel).append payload).append error).spells

theorem ofParts_eq (envelope : Envelope) :
    ofParts envelope.path? envelope.correlation envelope.channel envelope.payload envelope.error =
      .ok envelope := by
  cases envelope with
  | request r => simp [ofParts, path?, r.path_ne, error, correlation, channel, payload]
  | response r => rfl

theorem fills {envelope : Envelope} {n : Nat}
    (depth : ∀ v, envelope.payload = some v → v.depth ≤ n + 1) :
    List.Forall₂ (Fills (.text (n + 1))) (fields Value) envelope.parts := by
  have optional : ∀ (o : Option String) d, o.map textDraft = some d →
      ∃ a : Option String, decode (.text (n + 1)) d = .ok a := by
    intro o d eq
    obtain ⟨s, -, rfl⟩ := Option.map_eq_some_iff.1 eq
    exact ⟨some s, rfl⟩
  have correlation : ∀ d, some (textDraft envelope.correlation) = some d →
      ∃ a : String, decode (.text (n + 1)) d = .ok a := by
    rintro _ ⟨⟩
    exact ⟨envelope.correlation, rfl⟩
  have channel : ∀ d, envelope.channel.map Channel.draft = some d →
      ∃ a : Option Channel, decode (.text (n + 1)) d = .ok a := by
    intro d eq
    obtain ⟨c, -, rfl⟩ := Option.map_eq_some_iff.1 eq
    exact ⟨some c, c.decode_some n⟩
  have payload : ∀ d, envelope.payload.map Value.draft = some d →
      ∃ a : Value, decode (.text (n + 1)) d = .ok a := by
    intro d eq
    obtain ⟨v, there, rfl⟩ := Option.map_eq_some_iff.1 eq
    exact ⟨v.normal, v.value_draft (n + 1) (depth v there)⟩
  apply List.Forall₂.cons (.of (optional envelope.path?) nofun)
  apply List.Forall₂.cons (.of correlation fun _ => rfl)
  apply List.Forall₂.cons (.of channel nofun)
  apply List.Forall₂.cons (.of payload nofun)
  apply List.Forall₂.cons (.of (optional envelope.error) nofun)
  exact .nil

theorem decode_draft {envelope : Envelope} (portable : envelope.Portable) :
    decode (.text maxLevels) envelope.draft = .ok envelope := by
  have depth : ∀ v, envelope.payload = some v → v.depth ≤ 126 :=
    fun v there => Nat.le_of_lt_succ (portable.depth v there)
  have nodup : ((fields Value).map Field.name).Nodup := by decide
  have read := readFields_present "WireEnvelope" nodup (fills depth)
  have lookup := @lookup_present envelope.parts nodup
  have normal : envelope.payload.map Value.normal = envelope.payload := by
    cases eq : envelope.payload with
    | none => rfl
    | some v => rw [Option.map_some, portable.normal v eq]
  -- the parts are read one by one, each from the draft that was written for it
  show (do
    let found ← readFields "WireEnvelope" (fields Value) (.text 127) envelope.draft
    let path ← found.getOption String "path"
    let correlation ← found.get String "correlation"
    let channel ← found.getOption Channel "channel"
    let payload ← found.get? Value "payload"
    let error ← found.getOption String "error"
    (ofParts path correlation channel payload error).mapError fun e =>
      Mismatch.refused (Fault.message e)) = _
  unfold draft
  rw [read, ok_bind, Fields.getOption_eq (lookup "path") fun _ _ => rfl, ok_bind,
    Fields.get_eq (lookup "correlation") rfl, ok_bind,
    Fields.getOption_eq (lookup "channel") fun c _ => c.decode_some 125, ok_bind,
    Fields.get?_eq (lookup "payload") fun v there => v.value_draft 126 (depth v there), ok_bind,
    Fields.getOption_eq (lookup "error") fun _ _ => rfl, ok_bind, normal, ofParts_eq]
  rfl

end Envelope

namespace Wire

/-- The bytes of an envelope. -/
def body (envelope : Envelope) : Bytes :=
  ofChars (objectChars envelope.texts)

theorem encode_eq (envelope : Envelope) : encode envelope = .ok (body envelope) := by
  unfold encode write body
  rw [← ofString_ofList]
  show Except.mapError _ (Except.map _ (do return objectChars (← envelope.memberTexts))) = _
  rw [Envelope.memberTexts_eq]
  rfl

theorem exists_commaSeparated_cons (text : List Char) (rest : List (List Char)) :
    ∃ more, commaSeparated (text :: rest) = text ++ more := by
  cases rest with
  | nil => exact ⟨[], (List.append_nil _).symm⟩
  | cons => exact ⟨_, rfl⟩

/-- The bytes of an envelope begin with a brace and a quote. -/
theorem exists_body_eq (envelope : Envelope) : ∃ rest, body envelope = 0x7b :: 0x22 :: rest := by
  cases envelope with
  | request r => exact ⟨_, rfl⟩
  | response r =>
    obtain ⟨more, separated⟩ := exists_commaSeparated_cons
      (memberChars "correlation" (textChars r.correlation))
      ((r.channel.map fun c => memberChars "channel" c.chars).toList ++
        (r.payload.map fun v => memberChars "payload" v.chars).toList ++
        (r.error.map fun e => memberChars "error" (textChars e)).toList)
    have texts : commaSeparated (Envelope.response r).texts =
        memberChars "correlation" (textChars r.correlation) ++ more := by
      rw [← separated]
      simp [Envelope.texts, Envelope.path?, Envelope.correlation, Envelope.channel,
        Envelope.payload, Envelope.error]
    unfold body objectChars
    rw [texts]
    exact ⟨_, rfl⟩

/-- An envelope is read back from its bytes. -/
theorem decode_body {envelope : Envelope} (portable : envelope.Portable) :
    decode (body envelope) = .ok envelope := by
  unfold decode Json.read body
  rw [(Envelope.spells portable.exact).ofBytes]
  show Except.mapError _ (do
    let value ← Json.decode (.text maxLevels) envelope.draft
    if false then throw (.malformed .trailingCharacters)
    return value) = _
  rw [Envelope.decode_draft portable]
  rfl

end Wire
end Hostlink
