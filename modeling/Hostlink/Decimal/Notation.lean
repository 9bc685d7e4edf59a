import Hostlink.Decimal.Shortest
/-!
How a floating-point number is laid out as text: where positional notation ends, the sign of the
exponent, and the texts of the numbers that are no reals.
-/

namespace Hostlink

/-- The decisions of a number format. -/
structure Notation where
  /-- Leading digits from this power of ten on are written positionally … -/
  plainFrom : Int
  /-- … up to this one. -/
  plainTo : Int
  /-- Whether a positive exponent carries its sign. -/
  plus : Bool
  tie : Decimal.Tie
  infinity : String
  notANumber : String

namespace Notation

/-- A decimal in positional notation, with at least one digit on either side of the point. -/
def plain (d : Decimal) : List Char :=
  let digits := d.digits
  if 0 ≤ d.exponent then digits ++ List.replicate d.exponent.toNat '0' ++ ['.', '0']
  else
    let places := (-d.exponent).toNat
    let padded := List.replicate (places + 1 - digits.length) '0' ++ digits
    padded.take (padded.length - places) ++ ['.'] ++ padded.drop (padded.length - places)

/-- A decimal with one digit before the point and an exponent; a lone digit has no point. -/
def scientific (plus : Bool) (d : Decimal) : List Char :=
  let mantissa := match d.digits with
    | [] => ['0']
    | [c] => [c]
    | c :: rest => c :: '.' :: rest
  let sign := if d.leading < 0 then ['-'] else if plus then ['+'] else []
  mantissa ++ ['e'] ++ sign ++ Nat.toDigits 10 d.leading.natAbs

/-- The text of a number. -/
def write (layout : Notation) (f : Float) : String :=
  if f.isNaN then layout.notANumber
  else
    let sign := if f.toBits >>> 63 == 1 then "-" else ""
    if f.isInf then sign ++ layout.infinity
    else
      let d := Decimal.ofFloat f layout.tie
      let body :=
        if d.coefficient == 0 || (layout.plainFrom ≤ d.leading && d.leading ≤ layout.plainTo) then
          plain d
        else scientific layout.plus d
      sign ++ String.ofList body

/-- Numbers as messages and log fields show them. -/
def readable : Notation where
  plainFrom := -4
  plainTo := 15
  plus := false
  tie := .up
  infinity := "inf"
  notANumber := "NaN"

/-- Numbers written out in full, whatever their size. -/
def positional : Notation where
  plainFrom := -400
  plainTo := 400
  plus := false
  tie := .up
  infinity := "inf"
  notANumber := "NaN"

end Notation
end Hostlink
