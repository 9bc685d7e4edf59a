import Hostlink.Decimal.Digits
/-!
The floating-point number nearest to a decimal, and the decimals of texts: digits with or without a
point and an exponent.
-/

namespace Hostlink

namespace Decimal

/-- The whole number nearest to `num / den`; of two, the even one. -/
def roundDiv (num den : Nat) : Nat :=
  let q := num / den
  let twice := 2 * (num % den)
  if den < twice ∨ (twice = den ∧ q % 2 = 1) then q + 1 else q

/-- The power of two that the leading bit of the positive number `num / den` stands for. -/
def leadingPower (num den : Nat) : Int :=
  let guess : Int := num.log2 - den.log2
  if den <<< guess.toNat ≤ num <<< (-guess).toNat then guess else guess - 1

/--
The floating-point number nearest to the positive number `num / den`: 53 bits from the leading one
on, but none below `2 ^ -1074`. What lies beyond the greatest number is infinite.
-/
def nearest (num den : Nat) : Float :=
  let unit := max (leadingPower num den - 52) (-1074)
  let mantissa := roundDiv (num <<< (-unit).toNat) (den <<< unit.toNat)
  let bits := (unit + 1074).toNat <<< 52 + mantissa
  Float.ofBits (UInt64.ofNat (min bits (2047 <<< 52)))

/--
The floating-point number nearest to the one with some digits, the first of them not zero, and an
exponent for the last. Exponents far beyond the range of the format need no computation.
-/
def toFloat (digits : List Nat) (exponent : Int) : Float :=
  let leading := exponent + digits.length
  if digits.isEmpty ∨ leading < -400 then 0.0
  else if 400 < leading then nearest (1 <<< 1024) 1
  else
    let coefficient := ofDigits 10 digits.reverse
    nearest (coefficient * Nat.pow 10 exponent.toNat) (Nat.pow 10 (-exponent).toNat)

/-- The values of decimal digits, of none if another character is among them. -/
def digits? (text : List Char) : Option (List Nat) :=
  if text.all Char.isDigit then some (text.map fun c => c.toNat - 48) else none

/-- An exponent that is so large takes no more digits. -/
def maxExponent : Nat := 0x10000

/-- The value of the digits of an exponent. -/
def exponentValue (digits : List Nat) : Nat :=
  digits.foldl (fun n d => if n < maxExponent then n * 10 + d else n) 0

/-- The value of an exponent: digits with or without a sign. -/
def exponentOf? : List Char → Option Int
  | [] => none
  | '-' :: text => if text.isEmpty then none else (digits? text).map fun d => -exponentValue d
  | '+' :: text => if text.isEmpty then none else (digits? text).map fun d => exponentValue d
  | text => (digits? text).map fun d => exponentValue d

/-- The number that an unsigned text stands for; the words for what is no real in any case. -/
def ofUnsigned? (text : List Char) : Option Float := do
  let lower := String.ofList (text.map Char.toLower)
  if lower == "inf" || lower == "infinity" then return nearest (1 <<< 1024) 1
  if lower == "nan" then return 0.0 / 0.0
  let isMark (c : Char) : Bool := c == 'e' || c == 'E'
  let mantissa := text.takeWhile (!isMark ·)
  let exponent ← match text.dropWhile (!isMark ·) with
    | [] => some 0
    | _ :: rest => exponentOf? rest
  let whole := mantissa.takeWhile (· != '.')
  let fraction := (mantissa.dropWhile (· != '.')).drop 1
  if whole.isEmpty && fraction.isEmpty then none
  let digits ← digits? (whole ++ fraction)
  return toFloat (digits.dropWhile (· == 0)) (exponent - fraction.length)

/-- The number that a text with or without a sign stands for. -/
def ofText? (text : String) : Option Float :=
  match text.toList with
  | '-' :: rest => (ofUnsigned? rest).map fun f => -f
  | '+' :: rest => ofUnsigned? rest
  | rest => ofUnsigned? rest

end Decimal
end Hostlink
