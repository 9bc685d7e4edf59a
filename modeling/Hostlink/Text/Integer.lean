/-!
Integers in text: a sign and digits of some base, read from left to right. The first digit that is
none, or that leaves the range, says what is wrong.
-/

namespace Hostlink.Text

/-- Why a text is no integer of a range. -/
inductive IntegerFault where
  | empty
  | badDigit
  | tooLarge
  | tooSmall
deriving Repr, DecidableEq, Inhabited

/-- The message for a text that is no integer. -/
def IntegerFault.message : IntegerFault → String
  | empty => "cannot parse integer from empty string"
  | badDigit => "invalid digit found in string"
  | tooLarge => "number too large to fit in target type"
  | tooSmall => "number too small to fit in target type"

/-- A range of integers. -/
structure IntegerRange where
  low : Int
  high : Int
deriving Repr, DecidableEq

namespace IntegerRange

/-- The integers of so many bits from zero on. -/
def unsigned (bits : Nat) : IntegerRange :=
  ⟨0, Int.ofNat (1 <<< bits) - 1⟩

/-- The integers of so many bits, of either sign. -/
def signed (bits : Nat) : IntegerRange :=
  ⟨-Int.ofNat (1 <<< (bits - 1)), Int.ofNat (1 <<< (bits - 1)) - 1⟩

/-- The value of a digit in a base of at most sixteen. -/
def digit? (base : Nat) (c : Char) : Option Nat :=
  let value :=
    if c.isDigit then c.toNat - 48
    else if 'a' ≤ c && c ≤ 'f' then c.toNat - 87
    else if 'A' ≤ c && c ≤ 'F' then c.toNat - 55
    else base
  if value < base then some value else none

/-- The value of digits behind those of a given value; `negative` says which way they count. -/
def readDigits (range : IntegerRange) (base : Nat) (negative : Bool) (value : Int) :
    List Char → Except IntegerFault Int
  | [] => .ok value
  | c :: rest =>
    match digit? base c with
    | none => .error .badDigit
    | some digit =>
      let value := value * base + if negative then -(digit : Int) else digit
      if range.high < value then .error .tooLarge
      else if value < range.low then .error .tooSmall
      else readDigits range base negative value rest

/-- The integer that a text stands for. Only in a range below zero a minus counts as a sign. -/
def read (range : IntegerRange) (base : Nat) (text : List Char) : Except IntegerFault Int :=
  match text with
  | [] => .error .empty
  | '+' :: c :: rest => range.readDigits base false 0 (c :: rest)
  | '-' :: c :: rest =>
    if range.low < 0 then range.readDigits base true 0 (c :: rest) else .error .badDigit
  | text => range.readDigits base false 0 text

end IntegerRange
end Hostlink.Text
