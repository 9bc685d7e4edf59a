import Hostlink.Decimal.Nearest
import Hostlink.Text.Integer
/-!
Types whose values can be read from a text of their own, such as a part of a path.
-/

namespace Hostlink.Text

/-- Types that can be read from text; a text that is no value has a message that says why. -/
class OfText (α : Type) where
  ofText : String → Except String α

export OfText (ofText)

/-- Read an integer of a range. -/
def integer (range : IntegerRange) (text : String) : Except String Int :=
  (range.read 10 text.toList).mapError IntegerFault.message

instance : OfText String where
  ofText := .ok

instance : OfText UInt64 where
  ofText text := (integer (.unsigned 64) text).map fun n => UInt64.ofNat n.toNat

instance : OfText UInt8 where
  ofText text := (integer (.unsigned 8) text).map fun n => UInt8.ofNat n.toNat

instance : OfText Int64 where
  ofText text := (integer (.signed 64) text).map Int64.ofInt

instance : OfText Int8 where
  ofText text := (integer (.signed 8) text).map Int8.ofInt

instance : OfText Bool where
  ofText text :=
    if text == "true" then .ok true
    else if text == "false" then .ok false
    else .error "provided string was not `true` or `false`"

instance : OfText Char where
  ofText text :=
    match text.toList with
    | [] => .error "cannot parse char from empty string"
    | [c] => .ok c
    | _ => .error "too many characters in string"

instance : OfText Float where
  ofText text :=
    if text.isEmpty then .error "cannot parse float from empty string"
    else
      match Decimal.ofText? text with
      | some value => .ok value
      | none => .error "invalid float literal"

end Hostlink.Text
