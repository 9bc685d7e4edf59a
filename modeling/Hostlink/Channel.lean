import Hostlink.Json.Encode
import Hostlink.Json.Record
/-!
Channels: where in the host's world a message belongs.
-/

namespace Hostlink

open Json

/-- What a channel connects. -/
inductive Channel.Kind where
  | group
  | direct
  | privateRoom
deriving Repr, DecidableEq, Inhabited

/-- A channel of the host. -/
structure Channel where
  id : String
  kind : Channel.Kind
  name : String
  /-- The channel that this one belongs to. -/
  parent : Option String := none
  /-- The plugin's own identity in the channel. -/
  self : Option String := none
deriving Repr, DecidableEq, Inhabited

namespace Channel

/-- The names of the kinds. -/
def Kind.names : List String :=
  ["group", "direct", "private"]

/-- The name of a kind. -/
def Kind.name : Kind → String
  | group => "group"
  | direct => "direct"
  | privateRoom => "private"

/-- The kind with a given name. -/
def Kind.ofName? : String → Option Kind
  | "group" => some group
  | "direct" => some direct
  | "private" => some privateRoom
  | _ => none

/-- The kind with a given name, or what is wrong with the name. -/
def Kind.ofName (name : String) : Except Mismatch Kind :=
  match ofName? name with
  | some kind => .ok kind
  | none => .error (.unknownVariant name names)

/-- A direct channel that was opened from a group. -/
def directFromGroup (group id name : String) : Channel :=
  { id, name, kind := .direct, parent := some group }

/-- What may follow the one member that names a kind. -/
def Kind.endObject : List Draft.Member → ObjectStop → Except Mismatch Unit
  | [], .closed => .ok ()
  | [], .ended => .error (.malformed .endInObject)
  | _, _ => .error (.malformed .noValue)

/-- A kind given as an object with one member, whose key is the name and whose value is null. -/
def Kind.ofMembers (source : Source) (members : List Draft.Member) (stop : ObjectStop) :
    Except Mismatch Kind := do
  let inner ← source.enter
  match source, members with
  | _, (key, content) :: rest =>
    if source == .memory && !rest.isEmpty then
      throw (.invalidValue .map "map with a single key")
    let kind ← ofName (← orFault key)
    decode (α := Unit) inner content
    endObject rest stop
    return kind
  | .memory, [] => throw (.invalidValue .map "map with a single key")
  | .text _, [] =>
    orFault stop.reading
    throw (.malformed .noValue)

instance : Decode Kind where
  decode
    | _, .string text => do Kind.ofName (← orFault text)
    | source, .object members stop => Kind.ofMembers source members stop
    | .memory, draft => mismatch "string or map" draft
    | .text _, .absent fault => .error (.malformed fault)
    | .text _, .badString reading _ => .error (.malformed reading)
    | .text _, _ => .error (.malformed .noValue)

instance : Encode Kind where
  chars kind := .ok (textChars kind.name)

/-- The fields of a channel. -/
def fields : List Json.Field :=
  [.of String "id" .required, .of Kind "type" .required, .of String "name" .required,
    .of (Option String) "parent_id" .defaulted, .of (Option String) "self_id" .defaulted]

instance : Decode Channel where
  decode source draft := do
    let found ← readFields "Channel" fields source draft
    return {
      id := ← found.get String "id"
      kind := ← found.get Kind "type"
      name := ← found.get String "name"
      parent := ← found.getOption String "parent_id"
      self := ← found.getOption String "self_id" }

/-- The texts of the members of a channel. -/
def memberTexts (channel : Channel) : List (List Char) :=
  [memberChars "id" (textChars channel.id), memberChars "type" (textChars channel.kind.name),
    memberChars "name" (textChars channel.name)] ++
  (channel.parent.map fun p => memberChars "parent_id" (textChars p)).toList ++
  (channel.self.map fun s => memberChars "self_id" (textChars s)).toList

/-- The JSON text of a channel. -/
def chars (channel : Channel) : List Char :=
  objectChars channel.memberTexts

instance : Encode Channel where
  chars channel := .ok channel.chars

end Channel
end Hostlink
