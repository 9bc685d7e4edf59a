import Hostlink.Decimal.Nearest
import Hostlink.Decimal.Notation
import Hostlink.Text.Integer
import Hostlink.Text.Quoted
import Hostlink.Yaml.Node
/-!
What a scalar stands for. A plain one is null, a truth value, an integer, a floating-point number
or, failing these, a text; one written in another way is a text; and a tag may ask for a type.
-/

namespace Hostlink.Yaml

open Text (IntegerRange)

/-- What a scalar stands for. -/
inductive Datum where
  | null
  | bool (value : Bool)
  | int (value : Int)
  | float (value : Float)
  | text (text : String)
deriving Repr, Inhabited

/-- The text of null. -/
def isNull (text : String) : Bool :=
  text == "null" || text == "Null" || text == "NULL" || text == "~"

/-- The truth value that a text stands for. -/
def bool? (text : String) : Option Bool :=
  if text == "true" || text == "True" || text == "TRUE" then some true
  else if text == "false" || text == "False" || text == "FALSE" then some false
  else none

/-- Whether a text is more than one digit, the first of them a zero, with or without a sign. -/
def isPadded (text : List Char) : Bool :=
  let digits := match text with
    | '-' :: rest | '+' :: rest => rest
    | rest => rest
  1 < digits.length && digits.head? == some '0' && digits.all Char.isDigit

/-- The base that a letter after a zero stands for. -/
def base? : Char → Option Nat
  | 'x' => some 16
  | 'o' => some 8
  | 'b' => some 2
  | _ => none

/--
Digits in the base that a letter names, in front of which a sign has been read or is not wanted.
-/
def based? (range : IntegerRange) (letter : Char) (sign digits : List Char) : Option Int := do
  let base ← base? letter
  if digits.head?.any fun c => c == '+' || c == '-' then none
  (range.read base (sign ++ digits)).toOption

/-- A decimal integer without superfluous zeros. -/
def decimal? (range : IntegerRange) (text : List Char) : Option Int :=
  if isPadded text then none else (range.read 10 text).toOption

/-- The integer from zero up to a limit that a text stands for. -/
def unsigned? (bits : Nat) (text : List Char) : Option Int :=
  let range := IntegerRange.unsigned bits
  let unsigned := match text with
    | '+' :: rest => rest
    | rest => rest
  let based := match unsigned with
    | '0' :: letter :: digits => based? range letter [] digits
    | _ => none
  based.orElse fun _ =>
    if unsigned.head?.any fun c => c == '+' || c == '-' then none
    else if isPadded text then none
    else (range.read 10 unsigned).toOption

/-- The integer of at most so many bits that a text with a minus stands for. -/
def negative? (bits : Nat) (text : List Char) : Option Int :=
  let range := IntegerRange.signed bits
  let based := match text with
    | '-' :: '0' :: letter :: digits => based? range letter ['-'] digits
    | _ => none
  based.orElse fun _ => decimal? range text

/-- The integer that a text stands for, of at most 128 bits. -/
def int? (text : String) : Option Int :=
  let text := text.toList
  (unsigned? 128 text).orElse fun _ => negative? 128 text

/-- The floating-point number that a text stands for. -/
def float? (text : String) : Option Float :=
  let unsigned := match text.toList with
    | '+' :: rest => rest
    | rest => rest
  if unsigned.length < text.length && unsigned.head?.any (fun c => c == '+' || c == '-') then none
  else
    match String.ofList unsigned with
    | ".inf" | ".Inf" | ".INF" => some (1.0 / 0.0)
    | unsigned =>
      if ["-.inf", "-.Inf", "-.INF"].contains text then some (-1.0 / 0.0)
      else if [".nan", ".NaN", ".NAN"].contains text then some (0.0 / 0.0)
      else (Decimal.ofText? unsigned).filter Float.isFinite

/-- What a plain scalar stands for. -/
def Datum.ofPlain (text : String) : Datum :=
  if text.isEmpty || isNull text then .null
  else
    match bool? text, int? text with
    | some value, _ => .bool value
    | none, some value => .int value
    | none, none =>
      if isPadded text.toList then .text text
      else
        match float? text with
        | some value => .float value
        | none => .text text

/-- The tag of the types that every text knows. -/
def commonTag (name : String) : Bytes :=
  Bytes.ofString ("tag:yaml.org,2002:" ++ name)

/-- What a scalar stands for, or the type that its tag asks for in vain. -/
def Datum.ofScalar (tag : Option Bytes) (style : Style) (text : String) : Except String Datum :=
  let untagged := if style = .plain then Datum.ofPlain text else .text text
  match tag with
  | none => .ok untagged
  | some tag =>
    if tag = commonTag "bool" then
      (bool? text).elim (.error "a boolean") (.ok ∘ .bool)
    else if tag = commonTag "int" then
      (int? text).elim (.error "an integer") (.ok ∘ .int)
    else if tag = commonTag "float" then
      (float? text).elim (.error "a float") (.ok ∘ .float)
    else if tag = commonTag "null" then
      if isNull text then .ok .null else .error "null"
    else if tag.head? = some 33 then .ok untagged
    else .ok (.text text)

/-- What was found in place of something else. -/
inductive Found where
  | datum (datum : Datum)
  | sequence
  | map
deriving Repr, Inhabited

/-- The words for what was found. -/
def Found.words : Found → String
  | datum .null => "unit value"
  | datum (.bool value) => if value then "boolean `true`" else "boolean `false`"
  | datum (.int value) =>
    let width :=
      if (Text.IntegerRange.unsigned 64).high < value then " as u128"
      else if value < (Text.IntegerRange.signed 64).low then " as i128"
      else ""
    "integer `" ++ toString value ++ "`" ++ width
  | datum (.float value) => "floating point `" ++ Notation.positional.write value ++ "`"
  | datum (.text text) => "string " ++ Text.quoted text
  | sequence => "sequence"
  | map => "map"

end Hostlink.Yaml
