import Mathlib.Data.List.Forall2
import Hostlink.Text.Integer
/-!
Which texts are natural numbers of so many bits, and which number each of them is, said by the digits
and not by how they are read.
-/

namespace Hostlink.Text

open IntegerRange (digit?)

/-- The number that digits of a base stand for. -/
def ofDigits (base : Nat) (digits : List Nat) : Nat :=
  digits.foldl (fun n digit => n * base + digit) 0

/-- A text of at least one digit of a base, and the number that it spells. -/
def Spells (base : Nat) (text : List Char) (n : Nat) : Prop :=
  text ≠ [] ∧ ∃ digits, List.Forall₂ (fun c digit => digit? base c = some digit) text digits ∧
    ofDigits base digits = n

/-- A text with a plus in front of it or not. -/
def Plus (text unsigned : List Char) : Prop :=
  text = unsigned ∨ text = '+' :: unsigned

variable {base : Nat} {text rest : List Char} {n : Nat} {w : Int}

theorem digit?_plus (base : Nat) : digit? base '+' = none := by
  show (if base < base then some base else none) = none
  rw [if_neg (Nat.lt_irrefl base)]

theorem digit?_minus (base : Nat) : digit? base '-' = none := by
  show (if base < base then some base else none) = none
  rw [if_neg (Nat.lt_irrefl base)]

theorem Spells.digit_head {c : Char} (h : Spells base (c :: rest) n) :
    (digit? base c).isSome = true := by
  obtain ⟨-, digits, all, -⟩ := h
  cases all with
  | cons first _ => rw [first]; rfl

theorem Spells.head_ne {c : Char} (h : Spells base (c :: rest) n) : c ≠ '+' ∧ c ≠ '-' := by
  have digit := h.digit_head
  constructor
  · rintro rfl
    rw [digit?_plus] at digit
    contradiction
  · rintro rfl
    rw [digit?_minus] at digit
    contradiction

theorem isDigit_of_digit? {c : Char} {d : Nat} (h : digit? 10 c = some d) : c.isDigit = true := by
  unfold digit? at h
  by_cases isDigit : c.isDigit = true
  · exact isDigit
  · -- letters stand for ten and more
    rw [if_neg isDigit] at h
    by_cases lower : ('a' ≤ c && c ≤ 'f') = true
    · have low : 97 ≤ c.toNat := Char.le_def.1 (by simpa using (Bool.and_eq_true_iff.1 lower).1)
      rw [if_pos lower] at h
      simp only [Option.ite_none_right_eq_some] at h
      omega
    · by_cases upper : ('A' ≤ c && c ≤ 'F') = true
      · have low : 65 ≤ c.toNat := Char.le_def.1 (by simpa using (Bool.and_eq_true_iff.1 upper).1)
        rw [if_neg lower, if_pos upper] at h
        simp only [Option.ite_none_right_eq_some] at h
        omega
      · rw [if_neg lower, if_neg upper] at h
        simp at h

theorem Spells.all_isDigit (h : Spells 10 text n) : text.all Char.isDigit = true := by
  obtain ⟨-, digits, all, -⟩ := h
  induction all with
  | nil => rfl
  | cons first _ ih => rw [List.all_cons, isDigit_of_digit? first, ih]; rfl

theorem le_foldl_digits (hbase : 0 < base) (n : Nat) (digits : List Nat) :
    n ≤ digits.foldl (fun n digit => n * base + digit) n := by
  induction digits generalizing n with
  | nil => exact Nat.le_refl n
  | cons digit digits ih =>
    calc n
      _ ≤ n * base := Nat.le_mul_of_pos_right n hbase
      _ ≤ n * base + digit := Nat.le_add_right _ _
      _ ≤ _ := ih _

namespace IntegerRange

variable {bits : Nat}

theorem le_high_unsigned {bits : Nat} : (n : Int) ≤ (unsigned bits).high ↔ n < 1 <<< bits := by
  show (n : Int) ≤ Int.ofNat (1 <<< bits) - 1 ↔ _
  rw [Int.ofNat_eq_natCast]
  omega

/-- Digits are read as their number, unless it or a beginning of it is too large. -/
theorem readDigits_eq_ok_iff (hbase : 0 < base) {start : Nat} (fits : start < 1 <<< bits) :
    (unsigned bits).readDigits base false start text = .ok w ↔
      ∃ digits, List.Forall₂ (fun c digit => digit? base c = some digit) text digits ∧
        digits.foldl (fun n digit => n * base + digit) start < 1 <<< bits ∧
        w = digits.foldl (fun n digit => n * base + digit) start := by
  induction text generalizing start with
  | nil =>
    rw [readDigits, Except.ok.injEq]
    constructor
    · rintro rfl
      exact ⟨[], .nil, fits, rfl⟩
    · rintro ⟨_, ⟨⟩, -, rfl⟩
      rfl
  | cons c rest ih =>
    rw [readDigits]
    cases isDigit : digit? base c with
    | none =>
      refine ⟨nofun, ?_⟩
      rintro ⟨_, all, -⟩
      cases all with
      | cons first => rw [isDigit] at first; contradiction
    | some digit =>
      have value : (start : Int) * base + (digit : Int) = (start * base + digit : Nat) := by
        push_cast
        rfl
      simp only [Bool.false_eq_true, if_false, value]
      by_cases large : start * base + digit < 1 <<< bits
      · rw [if_neg, if_neg, ih large]
        · constructor
          · rintro ⟨digits, all, fits, eq⟩
            exact ⟨digit :: digits, .cons isDigit all, fits, eq⟩
          · rintro ⟨_, all, fits, eq⟩
            cases all with
            | cons first all =>
              cases isDigit.symm.trans first
              exact ⟨_, all, fits, eq⟩
        · exact Int.not_lt.2 (Int.natCast_nonneg _)
        · exact Int.not_lt.2 (le_high_unsigned.2 large)
      · rw [if_pos (Int.not_le.1 fun le => large (le_high_unsigned.1 le))]
        refine ⟨nofun, ?_⟩
        rintro ⟨_, all, fits, -⟩
        cases all with
        | @cons _ _ _ digits first all =>
          -- the number only grows with further digits
          cases isDigit.symm.trans first
          have le := le_foldl_digits hbase (start * base + digit) digits
          exact absurd (Nat.lt_of_le_of_lt le fits) large

theorem readDigits_spells (hbase : 0 < base) (ne : text ≠ []) :
    (unsigned bits).readDigits base false 0 text = .ok w ↔
      ∃ n, Spells base text n ∧ n < 1 <<< bits ∧ w = n := by
  have fits : 0 < 1 <<< bits := by
    rw [Nat.shiftLeft_eq]
    exact Nat.mul_pos Nat.one_pos (Nat.two_pow_pos bits)
  refine (readDigits_eq_ok_iff hbase fits).trans ?_
  constructor
  · rintro ⟨digits, all, small, rfl⟩
    exact ⟨_, ⟨ne, digits, all, rfl⟩, small, rfl⟩
  · rintro ⟨_, ⟨-, digits, all, rfl⟩, small, rfl⟩
    exact ⟨digits, all, small, rfl⟩

/-- A text is read as a number of so many bits just when it spells one, maybe behind a plus. -/
theorem read_unsigned_eq_ok_iff (hbase : 0 < base) :
    (unsigned bits).read base text = .ok w ↔
      ∃ digits n, Plus text digits ∧ Spells base digits n ∧ n < 1 <<< bits ∧ w = n := by
  unfold read
  split
  · refine ⟨nofun, ?_⟩
    rintro ⟨digits, n, rfl | ⟨⟨⟩⟩, spells, -⟩
    exact absurd rfl spells.1
  · next c rest =>
    rw [readDigits_spells hbase (List.cons_ne_nil c rest)]
    constructor
    · rintro ⟨n, spells, fits, rfl⟩
      exact ⟨c :: rest, n, .inr rfl, spells, fits, rfl⟩
    · rintro ⟨digits, n, rfl | eq, spells, fits, rfl⟩
      · exact absurd rfl spells.head_ne.1
      · cases eq
        exact ⟨n, spells, fits, rfl⟩
  · next c rest =>
    rw [if_neg (show ¬ (unsigned bits).low < 0 from Int.lt_irrefl 0)]
    refine ⟨nofun, ?_⟩
    rintro ⟨digits, n, rfl | ⟨⟨⟩⟩, spells, -⟩
    exact absurd rfl spells.head_ne.2
  · next ne noPlus _ =>
    rw [readDigits_spells hbase ne]
    constructor
    · rintro ⟨n, spells, fits, rfl⟩
      exact ⟨text, n, .inl rfl, spells, fits, rfl⟩
    · rintro ⟨digits, n, rfl | eq, spells, fits, rfl⟩
      · exact ⟨n, spells, fits, rfl⟩
      · cases digits with
        | nil => exact absurd rfl spells.1
        | cons c rest => exact absurd eq (noPlus c rest)

end IntegerRange
end Hostlink.Text
