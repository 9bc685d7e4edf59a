import Hostlink.Text.Integer
import Hostlink.Text.Quoted
import Hostlink.Json.Value
/-!
Typed reading of JSON. A decoder takes a draft and gives a value of its type or the first mismatch
that stands in the way, whether the draft is that of a text or that of a value.
-/

namespace Hostlink.Json

/-- Why a draft cannot be read as a type. -/
inductive Mismatch where
  | malformed (fault : SyntaxFault)
  | invalidType (found : Found) (wanted : String)
  | invalidValue (found : Found) (wanted : String)
  | invalidLength (length : Nat) (wanted : String)
  | missingField (name : String)
  | duplicateField (name : String)
  | unknownVariant (name : String) (known : List String)
  /-- The value has the form of its type and breaks a rule of it. -/
  | refused (text : String)
deriving Repr, Inhabited

/-- The words for what was found. -/
def Found.words : Found → String
  | null => "null"
  | bool value => if value then "boolean `true`" else "boolean `false`"
  | number (.int value) => "integer `" ++ toString value ++ "`"
  | number (.float value) => "floating point `" ++ floatText value ++ "`"
  | string text => "string " ++ Text.quoted text
  | sequence => "sequence"
  | map => "map"

/-- Names in backquotes: one, two with `or`, more as a list. -/
def oneOf : List String → String
  | [a] => "`" ++ a ++ "`"
  | [a, b] => "`" ++ a ++ "` or `" ++ b ++ "`"
  | names => "one of " ++ ", ".intercalate (names.map fun n => "`" ++ n ++ "`")

/-- The message for a mismatch. -/
def Mismatch.message : Mismatch → String
  | malformed fault => fault.message
  | invalidType found wanted => "invalid type: " ++ found.words ++ ", expected " ++ wanted
  | invalidValue found wanted => "invalid value: " ++ found.words ++ ", expected " ++ wanted
  | invalidLength length wanted =>
    "invalid length " ++ toString length ++ ", expected " ++ wanted
  | missingField name => "missing field `" ++ name ++ "`"
  | duplicateField name => "duplicate field `" ++ name ++ "`"
  | unknownVariant name known => "unknown variant `" ++ name ++ "`, expected " ++ oneOf known
  | refused text => text

/-- A fault of form as a mismatch. -/
def orFault {α : Type} (r : Except SyntaxFault α) : Except Mismatch α :=
  r.mapError .malformed

/-- Where a draft comes from. -/
inductive Source where
  /-- A text, of which this many more levels of arrays and objects may be entered. -/
  | text (levels : Nat)
  /-- A value in memory. -/
  | memory
deriving Repr, DecidableEq

/-- The number of levels that a text may nest. -/
def maxLevels : Nat := 127

/-- Enter an array or an object. -/
def Source.enter : Source → Except Mismatch Source
  | text 0 => .error (.malformed .tooDeep)
  | text (levels + 1) => .ok (.text levels)
  | memory => .ok .memory

/-- Types that can be read from JSON. -/
class Decode (α : Type) where
  decode : Source → Draft → Except Mismatch α
  /-- The value that a field of this type has when it is missing, if that is a value. -/
  missing : Option α := none

export Decode (decode)

/-- A draft of another type than the wanted one. -/
def mismatch {α : Type} (wanted : String) (draft : Draft) : Except Mismatch α :=
  match draft.found with
  | .ok found => .error (.invalidType found wanted)
  | .error fault => .error (.malformed fault)

mutual

/-- Read any value; objects come out in normal form. -/
def Draft.value (source : Source) : Draft → Except Mismatch Value
  | .null => .ok .null
  | .bool value => .ok (.bool value)
  | .number value => (orFault value).map .number
  | .string text => (orFault text).map .string
  | .array items stop => do
    let inner ← source.enter
    let items ← Draft.itemValues inner items
    orFault stop.reading
    return .array items
  | .object members stop => do
    let inner ← source.enter
    let members ← Draft.memberValues inner members
    orFault stop.reading
    return .object (sortMembers members)
  | .absent fault => .error (.malformed fault)
  | .stray => .error (.malformed .noValue)
  | .badWord fault => .error (.malformed fault)
  | .badNumber reading => .error (.malformed reading)
  | .badString reading _ => .error (.malformed reading)

/-- Read the items of an array. -/
def Draft.itemValues (source : Source) : List Draft → Except Mismatch (List Value)
  | [] => .ok []
  | item :: rest => do
    let value ← Draft.value source item
    return value :: (← Draft.itemValues source rest)

/-- Read the members of an object. -/
def Draft.memberValues (source : Source) :
    List (Except SyntaxFault String × Draft) → Except Mismatch (List (String × Value))
  | [] => .ok []
  | (key, draft) :: rest => do
    let key ← orFault key
    let value ← Draft.value source draft
    return (key, value) :: (← Draft.memberValues source rest)

end

instance : Decode Value where
  decode := Draft.value

instance : Decode Unit where
  decode
    | _, .null => .ok ()
    | _, draft => mismatch "unit" draft

instance : Decode Bool where
  decode
    | _, .bool value => .ok value
    | _, draft => mismatch "a boolean" draft

instance : Decode String where
  decode
    | _, .string text => orFault text
    | _, draft => mismatch "a string" draft

instance : Decode Char where
  decode
    | _, .string text => do
      let text ← orFault text
      match text.toList with
      | [c] => return c
      | _ => throw (.invalidValue (.string text) "a character")
    | _, draft => mismatch "a character" draft

/-- Read an integer of a range. -/
def decodeInt (name : String) (range : Text.IntegerRange) : Draft → Except Mismatch Int
  | .number value => do
    match ← orFault value with
    | .int i =>
      if range.low ≤ i ∧ i ≤ range.high then return i
      else throw (.invalidValue (.number (.int i)) name)
    | .float f => throw (.invalidType (.number (.float f)) name)
  | draft => mismatch name draft

instance : Decode UInt8 where
  decode _ draft := return UInt8.ofInt (← decodeInt "u8" (.unsigned 8) draft)

instance : Decode UInt32 where
  decode _ draft := return UInt32.ofInt (← decodeInt "u32" (.unsigned 32) draft)

instance : Decode UInt64 where
  decode _ draft := return UInt64.ofInt (← decodeInt "u64" (.unsigned 64) draft)

instance : Decode Int32 where
  decode _ draft := return Int32.ofInt (← decodeInt "i32" (.signed 32) draft)

instance : Decode Int64 where
  decode _ draft := return Int64.ofInt (← decodeInt "i64" (.signed 64) draft)

instance : Decode Float where
  decode
    | _, .number value => do
      match ← orFault value with
      | .int i => return Float.ofInt i
      | .float f => return f
    | _, draft => mismatch "f64" draft

instance {α : Type} [Decode α] : Decode (Option α) where
  decode
    | _, .null => .ok none
    | source, draft => return some (← decode source draft)
  missing := some none

instance {α : Type} [Decode α] : Decode (List α) where
  decode
    | source, .array items stop => do
      let inner ← source.enter
      let values ← items.mapM (decode inner)
      orFault stop.reading
      return values
    | _, draft => mismatch "a sequence" draft

/-- Members with keys that ascend. -/
structure SortedMap (α : Type) where
  entries : List (String × α)

instance {α : Type} [Decode α] : Decode (SortedMap α) where
  decode
    | source, .object members stop => do
      let inner ← source.enter
      let entries ← members.mapM fun (key, draft) =>
        return (← orFault key, ← decode inner draft)
      orFault stop.reading
      return ⟨sortMembers entries⟩
    | _, draft => mismatch "a map" draft

/-- An array has to end after the items that were wanted. -/
def endArray (source : Source) (length : Nat) (surplus : List Draft) (stop : ArrayStop) :
    Except Mismatch Unit :=
  match source, surplus with
  | .text _, [] => orFault stop.ending
  | .text _, _ => .error (.malformed .trailingCharacters)
  | .memory, [] => .ok ()
  | .memory, _ => .error (.invalidLength length "fewer elements in array")

/-- An array that is too short: the fault of its text comes before that of its length. -/
def tooShort {α : Type} (stop : ArrayStop) (length : Nat) (wanted : String) :
    Except Mismatch α := do
  orFault stop.reading
  throw (.invalidLength length wanted)

instance {α β : Type} [Decode α] [Decode β] : Decode (α × β) where
  decode
    | source, .array items stop => do
      let inner ← source.enter
      match items with
      | [] => tooShort stop 0 "a tuple of size 2"
      | first :: rest =>
        let a ← decode inner first
        match rest with
        | [] => tooShort stop 1 "a tuple of size 2"
        | second :: surplus =>
          let b ← decode inner second
          endArray source items.length surplus stop
          return (a, b)
    | _, draft => mismatch "a tuple of size 2" draft

/-- Read a whole text. -/
def read {α : Type} [Decode α] (bytes : Bytes) : Except Mismatch α := do
  let (draft, surplus) := Draft.ofBytes bytes
  let value ← decode (.text maxLevels) draft
  if surplus then throw (.malformed .trailingCharacters)
  return value

/-- Read a value in memory. -/
def ofValue {α : Type} [Decode α] (value : Value) : Except Mismatch α :=
  decode .memory value.draft

end Hostlink.Json
