import Hostlink.Json.Numeral
import Hostlink.Proofs.Json.Text
/-!
The text of an integer is read back as the integer, if a 64-bit word holds it and what follows could
not be part of a numeral.
-/

namespace Hostlink.Json

open Bytes

/-- What may follow a value inside a text that was written without blanks. -/
def Delimited (rest : Bytes) : Prop :=
  ∀ b, rest.head? = some b → b = 44 ∨ b = 93 ∨ b = 125

theorem delimited_nil : Delimited [] := by
  nofun

theorem delimited_cons {b : UInt8} (h : b = 44 ∨ b = 93 ∨ b = 125) (rest : Bytes) :
    Delimited (b :: rest) := by
  intro b' eq
  rw [← Option.some.inj eq]
  exact h

theorem Delimited.head_ne {rest : Bytes} (delimited : Delimited rest) {b : UInt8} {tail : Bytes}
    (h : rest = b :: tail) : isDigit b = false ∧ b ≠ 46 ∧ b ≠ 101 ∧ b ≠ 69 := by
  obtain rfl | rfl | rfl := delimited b (by rw [h]; rfl) <;> decide

theorem byte_of_isDigit {c : Char} (h : c.isDigit = true) :
    String.utf8EncodeChar c = [UInt8.ofNat c.toNat] ∧ isDigit (UInt8.ofNat c.toNat) = true ∧
      (UInt8.ofNat c.toNat).toNat = c.toNat := by
  obtain ⟨low, high⟩ := Char.isDigit_iff_toNat.1 h
  have low : 48 ≤ c.toNat := low
  have high : c.toNat ≤ 57 := high
  have toNat : (UInt8.ofNat c.toNat).toNat = c.toNat := by
    rw [UInt8.toNat_ofNat']
    omega
  refine ⟨encodeChar_ascii (by omega), ?_, toNat⟩
  simp only [isDigit, Bool.and_eq_true, decide_eq_true_eq, UInt8.le_iff_toNat_le, toNat]
  exact ⟨low, high⟩

theorem ofChars_digits {chars : List Char} (h : ∀ c ∈ chars, c.isDigit = true) :
    ofChars chars = chars.map fun c => UInt8.ofNat c.toNat := by
  induction chars with
  | nil => rfl
  | cons c chars ih =>
    rw [ofChars_cons, (byte_of_isDigit (h c (by simp))).1, ih fun c mem => h c (by simp [mem])]
    rfl

namespace Numeral

theorem isDigit_of_mem {chars : List Char} (h : ∀ c ∈ chars, c.isDigit = true) {b : UInt8}
    (mem : b ∈ ofChars chars) : isDigit b = true := by
  rw [ofChars_digits h] at mem
  obtain ⟨c, isMember, rfl⟩ := List.mem_map.1 mem
  exact (byte_of_isDigit (h c isMember)).2.1

theorem takeWhile_delimited {rest : Bytes} (delimited : Delimited rest) :
    rest.takeWhile isDigit = [] := by
  cases h : rest with
  | nil => rfl
  | cons b tail => simp [List.takeWhile, (delimited.head_ne h).1]

theorem dropWhile_delimited {rest : Bytes} (delimited : Delimited rest) :
    rest.dropWhile isDigit = rest := by
  cases h : rest with
  | nil => rfl
  | cons b tail => simp [List.dropWhile, (delimited.head_ne h).1]

theorem leadingDigits_append {chars : List Char} (h : ∀ c ∈ chars, c.isDigit = true)
    {rest : Bytes} (delimited : Delimited rest) :
    leadingDigits (ofChars chars ++ rest) = chars.map fun c => c.toNat - 48 := by
  unfold leadingDigits
  rw [List.takeWhile_append_of_pos fun b mem => isDigit_of_mem h mem,
    takeWhile_delimited delimited, List.append_nil, ofChars_digits h, List.map_map]
  apply List.map_congr_left
  intro c mem
  simp only [Function.comp_apply, (byte_of_isDigit (h c mem)).2.2]

theorem afterDigits_append {chars : List Char} (h : ∀ c ∈ chars, c.isDigit = true)
    {rest : Bytes} (delimited : Delimited rest) : afterDigits (ofChars chars ++ rest) = rest := by
  unfold afterDigits
  rw [List.dropWhile_append_of_pos fun b mem => isDigit_of_mem h mem,
    dropWhile_delimited delimited]

theorem isDigit_toDigits (n : Nat) : ∀ c ∈ Nat.toDigits 10 n, c.isDigit = true := by
  intro c mem
  exact Nat.isDigit_of_mem_toDigits (by decide) (by decide) mem

theorem head?_toDigits_ne {n : Nat} (h : 0 < n) : (Nat.toDigits 10 n).head? ≠ some '0' := by
  induction n using Nat.strongRecOn with
  | ind n ih =>
    by_cases lt : n < 10
    · rw [Nat.toDigits_of_lt_base lt, List.head?_cons]
      intro eq
      have := Nat.digitChar_eq_zero.1 (Option.some.inj eq)
      omega
    · rw [Nat.toDigits_of_base_le (by decide) (by omega), List.head?_append]
      have := ih (n / 10) (by omega) (by omega)
      cases hd : (Nat.toDigits 10 (n / 10)).head? with
      | none => exact absurd (List.head?_eq_none_iff.1 hd) Nat.toDigits_ne_nil
      | some c =>
        rw [hd] at this
        exact this

theorem someDigits_append {chars : List Char} (h : ∀ c ∈ chars, c.isDigit = true)
    (ne : chars ≠ []) {rest : Bytes} (delimited : Delimited rest) :
    someDigits (ofChars chars ++ rest) = .ok (chars.map (fun c => c.toNat - 48), rest) := by
  unfold someDigits
  rw [leadingDigits_append h delimited, afterDigits_append h delimited]
  cases chars with
  | nil => exact absurd rfl ne
  | cons c chars => rfl

theorem readWhole_toDigits (n : Nat) {rest : Bytes} (delimited : Delimited rest) :
    readWhole (ofChars (Nat.toDigits 10 n) ++ rest) =
      .ok ((Nat.toDigits 10 n).map (fun c => c.toNat - 48), rest) := by
  have digits := isDigit_toDigits n
  by_cases zero : n = 0
  · subst zero
    have : leadingDigits rest = [] := by
      unfold leadingDigits
      rw [takeWhile_delimited delimited]
      rfl
    rw [Nat.toDigits_zero]
    show readWhole (48 :: rest) = _
    unfold readWhole
    simp [this]
  · rw [← someDigits_append digits Nat.toDigits_ne_nil delimited]
    have head := head?_toDigits_ne (Nat.pos_of_ne_zero zero)
    unfold readWhole
    split
    · next tail eq =>
      -- a first byte of zero would be a first digit of zero
      cases hd : Nat.toDigits 10 n with
      | nil => exact absurd hd Nat.toDigits_ne_nil
      | cons c chars =>
        rw [hd] at eq digits head
        obtain ⟨byte, -, toNat⟩ := byte_of_isDigit (digits c (by simp))
        rw [ofChars_cons, byte] at eq
        injection eq with eq
        rw [eq] at toNat
        have : c = '0' := Char.toNat_inj.1 toNat.symm
        rw [this] at head
        contradiction
    · rfl

theorem readFraction_delimited {rest : Bytes} (delimited : Delimited rest) :
    readFraction rest = .ok (none, rest) := by
  unfold readFraction
  split
  · exact absurd rfl (delimited.head_ne rfl).2.1
  · rfl

theorem readExponent_delimited {rest : Bytes} (delimited : Delimited rest) :
    readExponent rest = .ok (none, rest) := by
  unfold readExponent
  split
  · rfl
  · obtain ⟨-, -, lower, upper⟩ := delimited.head_ne rfl
    rw [if_neg]
    simp [lower, upper]

theorem readSign_toDigits (n : Nat) (rest : Bytes) :
    readSign (ofChars (Nat.toDigits 10 n) ++ rest) =
      (false, ofChars (Nat.toDigits 10 n) ++ rest) := by
  unfold readSign
  split
  · next tail eq =>
    cases hd : Nat.toDigits 10 n with
    | nil => exact absurd hd Nat.toDigits_ne_nil
    | cons c chars =>
      have digits := isDigit_toDigits n
      rw [hd] at eq digits
      obtain ⟨byte, digit, -⟩ := byte_of_isDigit (digits c (by simp))
      rw [ofChars_cons, byte] at eq
      injection eq with eq
      rw [eq] at digit
      contradiction
  · rfl

/-- The numeral of an integer. -/
def ofInt (i : Int) : Numeral where
  negative := i < 0
  whole := (Nat.toDigits 10 i.natAbs).map fun c => c.toNat - 48
  fraction := none
  exponent := none

theorem toList_toString_int (i : Int) :
    (toString i).toList = (if i < 0 then ['-'] else []) ++ Nat.toDigits 10 i.natAbs := by
  cases i with
  | ofNat n =>
    show (Nat.repr n).toList = _
    rw [Nat.toList_repr]
    rfl
  | negSucc n =>
    show ("-" ++ Nat.repr (n + 1)).toList = _
    rw [String.toList_append, Nat.toList_repr, if_pos (Int.negSucc_lt_zero n)]
    rfl

theorem read_int (i : Int) {rest : Bytes} (delimited : Delimited rest) :
    read (ofChars (toString i).toList ++ rest) = .ok (ofInt i, rest) := by
  unfold read
  rw [toList_toString_int]
  by_cases neg : i < 0
  · have sign : readSign (ofChars (['-'] ++ Nat.toDigits 10 i.natAbs) ++ rest) =
        (true, ofChars (Nat.toDigits 10 i.natAbs) ++ rest) := rfl
    simp only [if_pos neg, sign, readWhole_toDigits _ delimited, readFraction_delimited delimited,
      readExponent_delimited delimited, ofInt, decide_eq_true neg]
  · simp only [if_neg neg, List.nil_append, readSign_toDigits, readWhole_toDigits _ delimited,
      readFraction_delimited delimited, readExponent_delimited delimited, ofInt,
      decide_eq_false neg]

theorem ofChars_int (i : Int) :
    ∃ b bytes, ofChars (toString i).toList = b :: bytes ∧ (b = 45 ∨ isDigit b = true) := by
  rw [toList_toString_int]
  by_cases neg : i < 0
  · rw [if_pos neg]
    exact ⟨45, _, rfl, .inl rfl⟩
  · rw [if_neg neg]
    cases hd : Nat.toDigits 10 i.natAbs with
    | nil => exact absurd hd Nat.toDigits_ne_nil
    | cons c chars =>
      have digits := isDigit_toDigits i.natAbs
      rw [hd] at digits
      obtain ⟨byte, digit, -⟩ := byte_of_isDigit (digits c (by simp))
      rw [List.nil_append, ofChars_cons, byte]
      exact ⟨_, _, rfl, .inr digit⟩

theorem le_foldl_digits (digits : List Nat) (significand : Nat) :
    significand ≤ digits.foldl (fun n d => n * 10 + d) significand := by
  induction digits generalizing significand with
  | nil => exact Nat.le_refl _
  | cons d digits ih =>
    have := ih (significand * 10 + d)
    rw [List.foldl_cons]
    omega

/-- All digits go into the significand, if the number fits a word. -/
theorem accumulate_eq {digits : List Nat} {significand : Nat}
    (fits : digits.foldl (fun n d => n * 10 + d) significand < UInt64.size) :
    accumulate significand digits =
      (digits.foldl (fun n d => n * 10 + d) significand, digits.length, 0) := by
  induction digits generalizing significand with
  | nil => rfl
  | cons d digits ih =>
    rw [List.foldl_cons] at fits
    have le := le_foldl_digits digits (significand * 10 + d)
    have fitsNow : Numeral.fits significand d = true := by
      simp only [Numeral.fits, decide_eq_true_eq]
      omega
    rw [accumulate, if_pos fitsNow, ih fits]
    rfl

theorem foldl_toDigits (n : Nat) :
    ((Nat.toDigits 10 n).map fun c => c.toNat - 48).foldl (fun n d => n * 10 + d) 0 = n := by
  have := Nat.ofDigitChars_ten_toDigits (n := n)
  rw [Nat.ofDigitChars_eq_foldl] at this
  rw [List.foldl_map]
  simp only [Nat.mul_comm 10] at this
  exact this

/-- The numeral of an integer stands for it, if a word holds it. -/
theorem value_ofInt {i : Int} (low : Number.minInt ≤ i) (high : i ≤ Number.maxInt) :
    (ofInt i).value = .ok (.int i) := by
  simp only [Number.minInt, Number.maxInt] at low high
  have digits := foldl_toDigits i.natAbs
  have fits : i.natAbs < UInt64.size := by
    simp only [UInt64.size]
    omega
  rw [← digits] at fits
  have accumulated := accumulate_eq fits
  rw [digits] at accumulated
  unfold value
  simp only [ofInt, accumulated, Number.minInt]
  by_cases neg : i < 0
  · rw [decide_eq_true neg, if_neg (by simp), if_neg (by omega)]
    congr 2
    omega
  · rw [decide_eq_false neg, if_pos (by simp)]
    congr 2
    omega

end Numeral
end Hostlink.Json
