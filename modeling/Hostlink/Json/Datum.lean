import Hostlink.Json.Value
/-!
Data that is to become JSON but need not fit: integers of any size, floating-point numbers that are
no reals, and maps whose keys need not be texts.
-/

namespace Hostlink.Json

/-- Data on its way into JSON. A record is a map with its field names as keys. -/
inductive Datum where
  | null
  | bool (value : Bool)
  | int (value : Int)
  | float (value : Float)
  | text (value : String)
  | list (items : List Datum)
  | map (entries : List (Datum × Datum))
deriving Inhabited

/-- Why data does not fit JSON. -/
inductive Misfit where
  | keyNotText
  | numberOutOfRange
deriving Repr, DecidableEq

/-- The message for a misfit. -/
def Misfit.message : Misfit → String
  | keyNotText => "key must be a string"
  | numberOutOfRange => "number out of range"

namespace Datum

/-- The key that a datum can serve as: texts, integers and truth values have one. -/
def key : Datum → Except Misfit String
  | text value => .ok value
  | int value => .ok (toString value)
  | bool value => .ok (if value then "true" else "false")
  | _ => .error .keyNotText

mutual

/-- The JSON text of data. What is no real number becomes null. -/
def chars : Datum → Except Misfit (List Char)
  | .null => .ok nullChars
  | .bool value => .ok (boolChars value)
  | .int value => .ok (toString value).toList
  | .float value => .ok (floatText value).toList
  | .text value => .ok (textChars value)
  | .list items => return arrayChars (← itemChars items)
  | .map entries => return objectChars (← entryChars entries)

/-- The JSON texts of the items of a list. -/
def itemChars : List Datum → Except Misfit (List (List Char))
  | [] => .ok []
  | item :: rest => return (← item.chars) :: (← itemChars rest)

/-- The JSON texts of the entries of a map. -/
def entryChars : List (Datum × Datum) → Except Misfit (List (List Char))
  | [] => .ok []
  | (k, v) :: rest => do
    let key ← k.key
    let value ← v.chars
    return memberChars key value :: (← entryChars rest)

end

mutual

/-- The JSON value of data, in normal form. Integers have to fit a 64-bit word. -/
def value : Datum → Except Misfit Value
  | .null => .ok .null
  | .bool b => .ok (.bool b)
  | .int i =>
    if Number.minInt ≤ i ∧ i ≤ Number.maxInt then .ok (.number (.int i))
    else .error .numberOutOfRange
  | .float f => .ok (if f.isFinite then .number (.float f) else .null)
  | .text s => .ok (.string s)
  | .list items => return .array (← itemValues items)
  | .map entries => return .object (sortMembers (← entryValues entries))

/-- The JSON values of the items of a list. -/
def itemValues : List Datum → Except Misfit (List Value)
  | [] => .ok []
  | item :: rest => return (← item.value) :: (← itemValues rest)

/-- The members that the entries of a map become. -/
def entryValues : List (Datum × Datum) → Except Misfit (List (String × Value))
  | [] => .ok []
  | (k, v) :: rest => do
    let key ← k.key
    let v ← v.value
    return (key, v) :: (← entryValues rest)

end

/-- A record with named fields. -/
def record (fields : List (String × Datum)) : Datum :=
  .map (fields.map fun (name, value) => (.text name, value))

end Datum
end Hostlink.Json
