/-!
The shortest decimal that reads back to a binary floating-point number: among the decimals that
round to the number, the ones with the fewest digits, and of those the nearest.
-/

namespace Hostlink

/-- The decimal `coefficient * 10 ^ exponent`. -/
structure Decimal where
  coefficient : Nat
  exponent : Int
deriving Repr, DecidableEq, Inhabited

/-- Which of two equally near decimals is taken. -/
inductive Decimal.Tie where
  | even
  | up
deriving Repr, DecidableEq

namespace Decimal

/-- The digits of the coefficient, the most significant first. -/
def digits (d : Decimal) : List Char :=
  Nat.toDigits 10 d.coefficient

/-- The power of ten that the leading digit stands for. -/
def leading (d : Decimal) : Int :=
  d.exponent + d.digits.length - 1

/-- The same decimal without trailing zeros in the coefficient. -/
def strip (coefficient : Nat) (exponent : Int) : Decimal :=
  if 0 < coefficient ∧ coefficient % 10 = 0 then strip (coefficient / 10) (exponent + 1)
  else ⟨coefficient, exponent⟩
termination_by coefficient
decreasing_by omega

/--
A positive real number `value / unit` with the interval of reals that round to it; `closed` says
whether the ends of the interval round to it too.
-/
structure Target where
  value : Nat
  low : Nat
  high : Nat
  unit : Nat
  closed : Bool
deriving Repr

namespace Target

/--
The positive number `mantissa * 2 ^ power` of a format with 53 bits. At a power of two the numbers
below are twice as dense, so the lower end is nearer, unless `lowest` says that the density no
longer changes there.
-/
def ofBinary (mantissa : Nat) (power : Int) (lowest : Bool) : Target :=
  let scale := 1 <<< (power - 2).toNat
  { value := 4 * mantissa * scale
    low := (4 * mantissa - if mantissa == 1 <<< 52 && !lowest then 1 else 2) * scale
    high := (4 * mantissa + 2) * scale
    unit := 1 <<< (2 - power).toNat
    closed := mantissa % 2 == 0 }

/-- The power of ten of the leading digit. -/
def leading (t : Target) : Int :=
  if t.unit ≤ t.value then (Nat.toDigits 10 (t.value / t.unit)).length - 1
  else -((Nat.toDigits 10 ((t.unit - 1) / t.value)).length : Int)

/-- Whether the decimal `n * 10 ^ k` rounds to the number. -/
def holds (t : Target) (n : Nat) (k : Int) : Bool :=
  let point := n * Nat.pow 10 k.toNat * t.unit
  let scale := Nat.pow 10 (-k).toNat
  if t.closed then t.low * scale ≤ point && point ≤ t.high * scale
  else t.low * scale < point && point < t.high * scale

/--
The decimal on the grid of multiples of `10 ^ k` that is to stand for the number, if any does.
-/
def onGrid? (t : Target) (tie : Tie) (k : Int) : Option Nat :=
  let top := t.value * Nat.pow 10 (-k).toNat
  let step := t.unit * Nat.pow 10 k.toNat
  let below := top / step
  let rest := top % step
  let above := below + 1
  match t.holds below k && 0 < below, t.holds above k with
  | false, false => none
  | true, false => some below
  | false, true => some above
  | true, true =>
    if 2 * rest < step then some below
    else if step < 2 * rest then some above
    else match tie with
      | .up => some above
      | .even => some (if below % 2 == 0 then below else above)

/-- The first grid, from the coarsest on, that has a decimal for the number. -/
def shortest (t : Target) (tie : Tie) : Decimal :=
  let grids := (List.range 17).map fun (n : Nat) => t.leading - (n : Int)
  match grids.findSome? fun k => (t.onGrid? tie k).map (strip · k) with
  | some d => d
  | none => ⟨0, 0⟩

end Target

/-- The shortest decimal for the absolute value of a finite number. -/
def ofFloat (f : Float) (tie : Tie) : Decimal :=
  let bits := f.toBits.toNat
  let mantissa := bits % (1 <<< 52)
  let power := (bits >>> 52) % (1 <<< 11)
  if power == 0 && mantissa == 0 then ⟨0, 0⟩
  else if power == 0 then (Target.ofBinary mantissa (-1074) true).shortest tie
  else (Target.ofBinary (mantissa + 1 <<< 52) (Int.ofNat power - 1075) (power == 1)).shortest tie

end Decimal
end Hostlink
