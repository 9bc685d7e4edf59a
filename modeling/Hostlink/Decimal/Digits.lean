/-!
The number that a string of digits stands for. Digits are put together in pairs, the pairs in pairs
again and so on, which takes a long string far fewer steps than one digit after the other; the
result is the same (`ofDigits_eq_foldDigits`).
-/

namespace Hostlink.Decimal

/-- Digits put together in pairs, the least significant first. -/
def pairs (base : Nat) : List Nat → List Nat
  | low :: high :: rest => (low + base * high) :: pairs base rest
  | digits => digits

theorem pairs_length_le (base : Nat) (digits : List Nat) :
    (pairs base digits).length ≤ digits.length := by
  fun_induction pairs base digits with
  | case1 low high rest ih =>
    simp only [List.length_cons]
    omega
  | case2 => exact Nat.le_refl _

/-- The value of digits in a base, the least significant first. -/
def ofDigits (base : Nat) : List Nat → Nat
  | [] => 0
  | [digit] => digit
  | low :: high :: rest => ofDigits (base * base) ((low + base * high) :: pairs base rest)
termination_by digits => digits.length
decreasing_by
  have := pairs_length_le base rest
  simp only [List.length_cons]
  omega

/-- The value of digits, one after the other. -/
def foldDigits (base : Nat) (digits : List Nat) : Nat :=
  digits.foldr (fun digit value => digit + base * value) 0

theorem foldDigits_pairs (base : Nat) (digits : List Nat) :
    foldDigits (base * base) (pairs base digits) = foldDigits base digits := by
  fun_induction pairs base digits with
  | case1 low high rest ih =>
    simp only [foldDigits, List.foldr_cons] at ih ⊢
    rw [ih, Nat.mul_add, ← Nat.mul_assoc, Nat.add_assoc]
  | case2 digits h =>
    match digits, h with
    | [], _ => rfl
    | [digit], _ => rfl
    | low :: high :: rest, h => exact absurd rfl (h low high rest)

theorem ofDigits_eq_foldDigits (base : Nat) (digits : List Nat) :
    ofDigits base digits = foldDigits base digits := by
  fun_induction ofDigits base digits with
  | case1 => rfl
  | case2 base digit => rfl
  | case3 base low high rest ih => rw [ih]; exact foldDigits_pairs base (low :: high :: rest)

end Hostlink.Decimal
