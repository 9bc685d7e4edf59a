import Hostlink.Json.Datum
import Hostlink.Json.Decode
/-!
Typed writing of JSON: the text of a value of a type that has one.
-/

namespace Hostlink.Json

/-- Types with a JSON text. -/
class Encode (α : Type) where
  chars : α → Except Misfit (List Char)

/-- The JSON text of a value, as bytes. -/
def write {α : Type} [Encode α] (a : α) : Except Misfit Bytes :=
  (Encode.chars a).map fun chars => Bytes.ofString (String.ofList chars)

instance : Encode Value where
  chars v := .ok v.chars

instance : Encode Datum where
  chars := Datum.chars

instance : Encode Unit where
  chars _ := .ok nullChars

instance : Encode Bool where
  chars b := .ok (boolChars b)

instance : Encode String where
  chars s := .ok (textChars s)

instance : Encode Char where
  chars c := .ok (textChars c.toString)

instance : Encode Int where
  chars i := .ok (toString i).toList

instance : Encode UInt8 where
  chars n := .ok (toString n.toNat).toList

instance : Encode UInt32 where
  chars n := .ok (toString n.toNat).toList

instance : Encode UInt64 where
  chars n := .ok (toString n.toNat).toList

instance : Encode Int32 where
  chars n := .ok (toString n.toInt).toList

instance : Encode Int64 where
  chars n := .ok (toString n.toInt).toList

instance : Encode Float where
  chars f := .ok (floatText f).toList

instance {α : Type} [Encode α] : Encode (Option α) where
  chars
    | none => .ok nullChars
    | some a => Encode.chars a

instance {α : Type} [Encode α] : Encode (List α) where
  chars items := return arrayChars (← items.mapM Encode.chars)

instance {α β : Type} [Encode α] [Encode β] : Encode (α × β) where
  chars p := return arrayChars [← Encode.chars p.1, ← Encode.chars p.2]

instance {α : Type} [Encode α] : Encode (SortedMap α) where
  chars m := return objectChars (← m.entries.mapM fun (key, a) =>
    return memberChars key (← Encode.chars a))

/-- The text of a member, if it is there. -/
def optionalMember {α : Type} [Encode α] (key : String) :
    Option α → Except Misfit (List (List Char))
  | none => .ok []
  | some a => return [memberChars key (← Encode.chars a)]

end Hostlink.Json
