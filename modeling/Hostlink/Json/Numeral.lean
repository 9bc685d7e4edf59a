import Hostlink.Bytes
import Hostlink.Decimal.Notation
import Hostlink.Json.Fault
/-!
Numerals of JSON text and the numbers they stand for. A numeral without fraction and exponent is an
integer if a signed or an unsigned 64-bit word holds it; every other numeral is a floating-point
number, found from as many leading digits as fit a 64-bit word.
-/

namespace Hostlink.Json

/-- A JSON number. -/
inductive Number where
  | int (value : Int)
  | float (value : Float)
deriving Repr, Inhabited

/-- The least integer that stays an integer. -/
def Number.minInt : Int := -0x8000000000000000

/-- The greatest integer that stays an integer. -/
def Number.maxInt : Int := 0xffffffffffffffff

/--
Floating-point numbers in JSON text: positional from `0.00001` up to sixteen digits before the
point, otherwise with a signed exponent; what is no real is null.
-/
def numberNotation : Notation where
  plainFrom := -5
  plainTo := 15
  plus := true
  tie := .even
  infinity := "null"
  notANumber := "null"

/-- The text of a floating-point number; infinities and what is no number are null. -/
def floatText (f : Float) : String :=
  if f.isInf then "null" else numberNotation.write f

/-- The text of a number. -/
def Number.text : Number → String
  | int value => toString value
  | float value => floatText value

/-- Whether a byte is a decimal digit. -/
def isDigit (b : UInt8) : Bool :=
  48 ≤ b && b ≤ 57

/-- The parts of a numeral, each digit by its value. -/
structure Numeral where
  negative : Bool
  whole : List Nat
  /-- The digits after the point, if there is one. -/
  fraction : Option (List Nat)
  /-- The exponent: whether it is negative, and its digits. -/
  exponent : Option (Bool × List Nat)
deriving Repr, DecidableEq

/-- Why no numeral could be read: the text ended, or something else stood in the way. -/
inductive Numeral.Cut where
  | ended
  | malformed
deriving Repr, DecidableEq

namespace Numeral

/-- The digits that a text starts with, by value. -/
def leadingDigits (bytes : Bytes) : List Nat :=
  (bytes.takeWhile isDigit).map fun b => b.toNat - 48

/-- What follows the digits that a text starts with. -/
def afterDigits (bytes : Bytes) : Bytes :=
  bytes.dropWhile isDigit

theorem afterDigits_length_le (bytes : Bytes) : (afterDigits bytes).length ≤ bytes.length := by
  unfold afterDigits
  exact (List.dropWhile_sublist _).length_le

/-- The digits that a text has to start with, and the rest. -/
def someDigits (bytes : Bytes) : Except Cut (List Nat × Bytes) :=
  match leadingDigits bytes with
  | [] => .error (if bytes.isEmpty then .ended else .malformed)
  | digits => .ok (digits, afterDigits bytes)

theorem someDigits_length_le {bytes rest : Bytes} {digits : List Nat}
    (h : someDigits bytes = .ok (digits, rest)) : rest.length ≤ bytes.length := by
  unfold someDigits at h
  split at h
  · simp at h
  · simp only [Except.ok.injEq, Prod.mk.injEq] at h
    rw [← h.2]
    exact afterDigits_length_le bytes

/-- The sign of an exponent, and what follows it. -/
def exponentSign : Bytes → Bool × Bytes
  | 43 :: rest => (false, rest)
  | 45 :: rest => (true, rest)
  | rest => (false, rest)

theorem exponentSign_length_le (bytes : Bytes) : (exponentSign bytes).2.length ≤ bytes.length := by
  unfold exponentSign
  split <;> simp

/-- The exponent, if one comes next. -/
def readExponent : Bytes → Except Cut (Option (Bool × List Nat) × Bytes)
  | [] => .ok (none, [])
  | b :: rest =>
    if b == 101 || b == 69 then
      let (negative, rest) := exponentSign rest
      (someDigits rest).map fun (digits, rest) => (some (negative, digits), rest)
    else .ok (none, b :: rest)

theorem readExponent_length_le {bytes rest : Bytes} {e : Option (Bool × List Nat)}
    (h : readExponent bytes = .ok (e, rest)) : rest.length ≤ bytes.length := by
  unfold readExponent at h
  split at h
  · simp_all
  · rename_i b tail
    split at h
    · cases hd : someDigits (exponentSign tail).2 with
      | error c => simp [hd, Except.map] at h
      | ok p =>
        obtain ⟨digits, rest'⟩ := p
        simp only [hd, Except.map, Except.ok.injEq, Prod.mk.injEq] at h
        have h1 := someDigits_length_le hd
        have h2 := exponentSign_length_le tail
        simp only [List.length_cons]
        rw [← h.2]
        omega
    · simp only [Except.ok.injEq, Prod.mk.injEq] at h
      exact Nat.le_of_eq (congrArg List.length h.2.symm)

/-- The fraction, if a point comes next. -/
def readFraction : Bytes → Except Cut (Option (List Nat) × Bytes)
  | 46 :: rest => (someDigits rest).map fun (digits, rest) => (some digits, rest)
  | rest => .ok (none, rest)

theorem readFraction_length_le {bytes rest : Bytes} {f : Option (List Nat)}
    (h : readFraction bytes = .ok (f, rest)) : rest.length ≤ bytes.length := by
  unfold readFraction at h
  split at h
  · rename_i tail
    cases hd : someDigits tail with
    | error c => simp [hd, Except.map] at h
    | ok p =>
      obtain ⟨digits, rest'⟩ := p
      simp only [hd, Except.map, Except.ok.injEq, Prod.mk.injEq] at h
      have h1 := someDigits_length_le hd
      simp only [List.length_cons]
      rw [← h.2]
      omega
  · simp only [Except.ok.injEq, Prod.mk.injEq] at h
    exact Nat.le_of_eq (congrArg List.length h.2.symm)

/-- The digits before the point. A leading zero stands alone. -/
def readWhole : Bytes → Except Cut (List Nat × Bytes)
  | 48 :: rest =>
    if (leadingDigits rest).isEmpty then .ok ([0], rest) else .error .malformed
  | bytes => someDigits bytes

theorem readWhole_length_lt {bytes rest : Bytes} {digits : List Nat}
    (h : readWhole bytes = .ok (digits, rest)) : rest.length < bytes.length := by
  unfold readWhole at h
  split at h
  · split at h
    · simp only [Except.ok.injEq, Prod.mk.injEq] at h
      simp [← h.2]
    · simp at h
  · unfold someDigits at h
    split at h
    · simp at h
    · rename_i hne
      simp only [Except.ok.injEq, Prod.mk.injEq] at h
      rw [← h.2]
      unfold afterDigits
      cases bytes with
      | nil => simp [leadingDigits] at hne
      | cons b tail =>
        by_cases hb : isDigit b = true
        · have := (List.dropWhile_sublist isDigit (l := tail)).length_le
          simp [hb]
          omega
        · simp [leadingDigits, hb] at hne

/-- A sign, and what follows it. -/
def readSign : Bytes → Bool × Bytes
  | 45 :: rest => (true, rest)
  | rest => (false, rest)

theorem readSign_length_le (bytes : Bytes) : (readSign bytes).2.length ≤ bytes.length := by
  unfold readSign
  split <;> simp

/-- The numeral that a text starts with, and the rest of the text. -/
def read (bytes : Bytes) : Except Cut (Numeral × Bytes) :=
  let (negative, bytes) := readSign bytes
  match readWhole bytes with
  | .error cut => .error cut
  | .ok (whole, bytes) =>
    match readFraction bytes with
    | .error cut => .error cut
    | .ok (fraction, bytes) =>
      match readExponent bytes with
      | .error cut => .error cut
      | .ok (exponent, bytes) => .ok (⟨negative, whole, fraction, exponent⟩, bytes)

theorem read_length_lt {bytes rest : Bytes} {n : Numeral} (h : read bytes = .ok (n, rest)) :
    rest.length < bytes.length := by
  unfold read at h
  simp only at h
  split at h
  · simp at h
  · rename_i hw
    split at h
    · simp at h
    · rename_i hf
      split at h
      · simp at h
      · rename_i he
        simp only [Except.ok.injEq, Prod.mk.injEq] at h
        rw [← h.2]
        have h1 := readSign_length_le bytes
        have h2 := readWhole_length_lt hw
        have h3 := readFraction_length_le hf
        have h4 := readExponent_length_le he
        omega

/-- Whether a digit can be appended to a 64-bit significand. -/
def fits (significand digit : Nat) : Bool :=
  significand * 10 + digit < UInt64.size

/--
Append digits to a significand while they fit. Returns the significand, how many digits went in, and
how many were left out.
-/
def accumulate (significand : Nat) : List Nat → Nat × Nat × Nat
  | [] => (significand, 0, 0)
  | d :: rest =>
    if fits significand d then
      let (s, taken, dropped) := accumulate (significand * 10 + d) rest
      (s, taken + 1, dropped)
    else (significand, 0, rest.length + 1)

/-- The greatest exponent that is told from others; no number is that large or that small. -/
def maxExponent : Nat := 0x7fffffff

/-- The value of the digits of an exponent. -/
def exponentValue (digits : List Nat) : Nat :=
  digits.foldl (fun n d => min (n * 10 + d) maxExponent) 0

/-- The power of ten nearest to `10 ^ n` among the floating-point numbers. -/
def powerOfTen (n : Nat) : Float :=
  Float.ofScientific 1 false n

/-- Divide by `10 ^ n`, in steps of `10 ^ 308` as long as `n` is beyond that. -/
def scaleDown (f : Float) (n : Nat) : Float :=
  if n ≤ 308 then f / powerOfTen n
  else if f == 0 then f
  else scaleDown (f / powerOfTen 308) (n - 308)
termination_by n

/-- `significand * 10 ^ exponent`, computed by one rounded operation where the exponent allows. -/
def scale (significand : Nat) (exponent : Int) : Except SyntaxFault Float :=
  let f := Float.ofNat significand
  match exponent with
  | .negSucc n => .ok (scaleDown f (n + 1))
  | .ofNat n =>
    if n ≤ 308 then
      let f := f * powerOfTen n
      if f.isInf then .error .numberOutOfRange else .ok f
    else if f == 0 then .ok f
    else .error .numberOutOfRange

/-- The number that a numeral stands for. -/
def value (n : Numeral) : Except SyntaxFault Number :=
  let (significand, _, dropped) := accumulate 0 n.whole
  let signed (f : Float) : Number := .float (if n.negative then -f else f)
  match n.fraction, n.exponent, dropped with
  | none, none, 0 =>
    if !n.negative then .ok (.int significand)
    else if significand = 0 ∨ -(significand : Int) < Number.minInt then
      .ok (signed (Float.ofNat significand))
    else .ok (.int (-significand))
  | fraction, exponent, _ =>
    let (significand, taken, _) := accumulate significand (fraction.getD [])
    let shift : Int := match exponent with
      | none => 0
      | some (true, digits) => -(exponentValue digits : Int)
      | some (false, digits) => exponentValue digits
    (scale significand (shift + dropped - taken)).map signed

/-- The fault of a numeral that could not be read, when its value is wanted. -/
def Cut.fault : Cut → SyntaxFault
  | .ended => .endInValue
  | .malformed => .badNumber

end Numeral
end Hostlink.Json
