import Hostlink.Json.Draft
/-!
JSON values and their text. The members of an object are a list of pairs; `Value.normal` brings a
value into normal form, in which the keys of every object ascend and no key is repeated.
-/

namespace Hostlink.Json

/-- A JSON value. -/
inductive Value where
  | null
  | bool (value : Bool)
  | number (value : Number)
  | string (text : String)
  | array (items : List Value)
  | object (members : List (String × Value))
deriving Inhabited

/-- Of neighbours with one key the last. -/
def keepLast {α : Type} : List (String × α) → List (String × α)
  | first :: next :: rest =>
    if first.1 = next.1 then keepLast (next :: rest) else first :: keepLast (next :: rest)
  | rest => rest

/-- The members in ascending order of their keys; of several with one key the last counts. -/
def sortMembers {α : Type} (members : List (String × α)) : List (String × α) :=
  keepLast (members.mergeSort fun a b => !decide (b.1 < a.1))

/-- Texts with commas between them. -/
def commaSeparated : List (List Char) → List Char
  | [] => []
  | [text] => text
  | text :: rest => text ++ ',' :: commaSeparated rest

/-- An array with given texts of its items. -/
def arrayChars (items : List (List Char)) : List Char :=
  '[' :: commaSeparated items ++ [']']

/-- A member with a given text of its value. -/
def memberChars (key : String) (value : List Char) : List Char :=
  textChars key ++ ':' :: value

/-- An object with given texts of its members. -/
def objectChars (members : List (List Char)) : List Char :=
  '\x7b' :: commaSeparated members ++ ['\x7d']

/-- The text of a truth value. -/
def boolChars (value : Bool) : List Char :=
  if value then ['t', 'r', 'u', 'e'] else ['f', 'a', 'l', 's', 'e']

/-- The text of null. -/
def nullChars : List Char :=
  ['n', 'u', 'l', 'l']

mutual

/-- The text of a value, without blanks. -/
def Value.chars : Value → List Char
  | .null => nullChars
  | .bool value => boolChars value
  | .number value => value.text.toList
  | .string text => textChars text
  | .array items => arrayChars (Value.itemChars items)
  | .object members => objectChars (Value.memberTexts members)

/-- The texts of the items of an array. -/
def Value.itemChars : List Value → List (List Char)
  | [] => []
  | item :: rest => item.chars :: Value.itemChars rest

/-- The texts of the members of an object. -/
def Value.memberTexts : List (String × Value) → List (List Char)
  | [] => []
  | (key, value) :: rest => memberChars key value.chars :: Value.memberTexts rest

end

/-- The text of a value. -/
def Value.text (v : Value) : String :=
  String.ofList v.chars

mutual

/-- The value with the members of every object in normal form. -/
def Value.normal : Value → Value
  | .array items => .array (Value.normalItems items)
  | .object members => .object (sortMembers (Value.normalMembers members))
  | value => value

/-- The items of an array in normal form. -/
def Value.normalItems : List Value → List Value
  | [] => []
  | item :: rest => item.normal :: Value.normalItems rest

/-- The members of an object with values in normal form, in their order. -/
def Value.normalMembers : List (String × Value) → List (String × Value)
  | [] => []
  | (key, value) :: rest => (key, value.normal) :: Value.normalMembers rest

end

mutual

/-- The draft of a value: nothing in it is faulty. -/
def Value.draft : Value → Draft
  | .null => .null
  | .bool value => .bool value
  | .number value => .number (.ok value)
  | .string text => .string (.ok text)
  | .array items => .array (Value.draftItems items) .closed
  | .object members => .object (Value.draftMembers members) .closed

/-- The drafts of the items of an array. -/
def Value.draftItems : List Value → List Draft
  | [] => []
  | item :: rest => item.draft :: Value.draftItems rest

/-- The drafts of the members of an object. -/
def Value.draftMembers : List (String × Value) → List Draft.Member
  | [] => []
  | (key, value) :: rest => (.ok key, value.draft) :: Value.draftMembers rest

end

end Hostlink.Json
