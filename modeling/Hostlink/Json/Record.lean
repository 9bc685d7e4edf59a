import Hostlink.Json.Decode
/-!
Records: JSON objects with known members, or arrays that hold the same values in the order of the
fields. An object may name each field once and may name other members, which are passed over.
-/

namespace Hostlink.Json

/-- When a field of a record may be missing. -/
inductive Presence where
  | required
  /-- It may be missing from an object, and not from an array. -/
  | optional
  /-- It may be missing from an object and from the end of an array. -/
  | defaulted
deriving Repr, DecidableEq

/-- A field of a record: its name and what its value has to be. -/
structure Field where
  name : String
  presence : Presence
  check : Source → Draft → Except Mismatch Unit

/--
A field whose values are of a given type, which may be one that has a value for missing fields.
-/
def Field.of (α : Type) [Decode α] (name : String) (presence : Presence) : Field where
  name := name
  presence :=
    if presence == .required && (Decode.missing (α := α)).isSome then .optional else presence
  check source draft := do let _ ← decode (α := α) source draft

/-- The fields of a record that were found, with their drafts, all of them checked. -/
structure Fields where
  source : Source
  found : List (String × Draft)

namespace Fields

/-- The value of a field, if it was found. -/
def get? (α : Type) [Decode α] (fields : Fields) (name : String) : Except Mismatch (Option α) :=
  match fields.found.lookup name with
  | none => .ok none
  | some draft => return some (← decode fields.source draft)

/-- The value of a field that has to be there. -/
def get (α : Type) [Decode α] (fields : Fields) (name : String) : Except Mismatch α := do
  match (← fields.get? α name).or Decode.missing with
  | some value => return value
  | none => throw (.missingField name)

/-- The value of a field for which null stands for nothing. -/
def getOption (α : Type) [Decode α] (fields : Fields) (name : String) :
    Except Mismatch (Option α) := do
  return (← fields.get? (Option α) name).join

end Fields

/-- Take in the members of an object, in their order. -/
def gatherMembers (fields : List Field) (source : Source) :
    List Draft.Member → List (String × Draft) → Except Mismatch (List (String × Draft))
  | [], found => .ok found
  | (key, draft) :: rest, found => do
    let key ← orFault key
    match fields.find? (·.name == key) with
    | none =>
      orFault draft.skip
      gatherMembers fields source rest found
    | some field =>
      if (found.lookup key).isSome then throw (.duplicateField key)
      field.check source draft
      gatherMembers fields source rest (found ++ [(key, draft)])

/-- A field that was not found has to be one that may be missing. -/
def checkPresence (fields : List Field) (found : List (String × Draft)) : Except Mismatch Unit :=
  match fields.find? fun f => f.presence == .required && (found.lookup f.name).isNone with
  | none => .ok ()
  | some field => .error (.missingField field.name)

/-- Take in the items of an array as the values of fields, from a given position on. -/
def gatherItems (source : Source) (position : Nat) (stop : ArrayStop) (wanted : String) :
    List Field → List Draft → Except Mismatch (List (String × Draft) × List Draft)
  | [], surplus => .ok ([], surplus)
  | field :: fields, [] => do
    orFault stop.reading
    if field.presence != .defaulted then throw (.invalidLength position wanted)
    gatherItems source (position + 1) stop wanted fields []
  | field :: fields, item :: rest => do
    field.check source item
    let (found, surplus) ← gatherItems source (position + 1) stop wanted fields rest
    return ((field.name, item) :: found, surplus)

/-- How a record names its length. -/
def lengthWords (name : String) (fields : List Field) : String :=
  "struct " ++ name ++ " with " ++ toString fields.length ++
    (if fields.length == 1 then " element" else " elements")

/-- Find and check the fields of a record. -/
def readFields (name : String) (fields : List Field) (source : Source) :
    Draft → Except Mismatch Fields
  | .object members stop => do
    let inner ← source.enter
    let found ← gatherMembers fields inner members []
    orFault stop.reading
    checkPresence fields found
    return ⟨inner, found⟩
  | .array items stop => do
    let inner ← source.enter
    let (found, surplus) ← gatherItems inner 0 stop (lengthWords name fields) fields items
    endArray source items.length surplus stop
    return ⟨inner, found⟩
  | draft => mismatch ("struct " ++ name) draft

end Hostlink.Json
