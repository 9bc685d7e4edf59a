import Hostlink.Json.Text
/-!
The text of a string is read back: `escapeChar` writes each character so that `readContent` gives its
bytes again, and the closing quote is the first one that no escape covers.
-/

namespace Hostlink

namespace Bytes

/-- The UTF-8 bytes of characters. -/
def ofChars (chars : List Char) : Bytes :=
  chars.flatMap String.utf8EncodeChar

@[simp]
theorem ofChars_nil : ofChars [] = [] := by
  rfl

theorem ofChars_cons (c : Char) (chars : List Char) :
    ofChars (c :: chars) = String.utf8EncodeChar c ++ ofChars chars := by
  simp only [ofChars, List.flatMap_cons]

@[simp]
theorem ofChars_append (chars more : List Char) :
    ofChars (chars ++ more) = ofChars chars ++ ofChars more := by
  simp only [ofChars, List.flatMap_append]

theorem ofString_ofList (chars : List Char) : ofString (String.ofList chars) = ofChars chars := by
  unfold ofString ofChars
  rw [String.toUTF8_eq_toByteArray, String.toByteArray_ofList, List.utf8Encode]
  simp

theorem toString?_ofChars (s : String) : toString? (ofChars s.toList) = some s := by
  have bytes : (⟨(ofChars s.toList).toArray⟩ : ByteArray) = s.toByteArray := by
    rw [← ofString_ofList, String.ofList_toList]
    rfl
  unfold toString?
  rw [bytes]
  unfold String.fromUTF8?
  rw [dif_pos s.isValidUTF8]
  rfl

theorem encodeChar_ascii {c : Char} (h : c.toNat < 128) :
    String.utf8EncodeChar c = [UInt8.ofNat c.toNat] := by
  unfold String.utf8EncodeChar
  have : c.val.toNat < 128 := h
  rw [if_pos (by omega)]
  rfl

theorem le_of_mem_encodeChar {c : Char} (h : 128 ≤ c.toNat) {b : UInt8}
    (mem : b ∈ String.utf8EncodeChar c) : 128 ≤ b.toNat := by
  have low : 128 ≤ c.val.toNat := h
  have high : c.val.toNat < 0x110000 := by
    have := c.valid
    simp only [UInt32.isValidChar, Nat.isValidChar] at this
    omega
  unfold String.utf8EncodeChar at mem
  rw [if_neg (by omega)] at mem
  split at mem
  · simp only [List.mem_cons, List.not_mem_nil, or_false] at mem
    obtain rfl | rfl := mem <;> (simp only [UInt8.toNat_ofNat']; omega)
  · split at mem
    · simp only [List.mem_cons, List.not_mem_nil, or_false] at mem
      obtain rfl | rfl | rfl := mem <;> (simp only [UInt8.toNat_ofNat']; omega)
    · simp only [List.mem_cons, List.not_mem_nil, or_false] at mem
      obtain rfl | rfl | rfl | rfl := mem <;> (simp only [UInt8.toNat_ofNat']; omega)

end Bytes

namespace Json

open Bytes

@[simp]
theorem prepend_nil (r : Except SyntaxFault Bytes) : prepend [] r = r := by
  cases r <;> rfl

@[simp]
theorem prepend_prepend (bytes more : Bytes) (r : Except SyntaxFault Bytes) :
    prepend bytes (prepend more r) = prepend (bytes ++ more) r := by
  cases r with
  | ok tail => simp only [prepend, List.append_assoc]
  | error fault => rfl

/-- A byte that stands for itself inside a string. -/
def IsPlain (b : UInt8) : Prop :=
  32 ≤ b.toNat ∧ b ≠ 34 ∧ b ≠ 92

theorem isPlain_of_high {b : UInt8} (h : 128 ≤ b.toNat) : IsPlain b := by
  refine ⟨by omega, ?_, ?_⟩ <;>
  · rintro rfl
    contradiction

theorem readContent_plain {b : UInt8} (h : IsPlain b) (rest : Bytes) :
    readContent (b :: rest) = prepend [b] (readContent rest) := by
  obtain ⟨h32, h34, h92⟩ := h
  have notControl : ¬ b < 32 := UInt8.not_lt.2 h32
  rw [readContent, if_neg notControl]
  all_goals
    intros
    contradiction

theorem skipText_plain {b : UInt8} (h : IsPlain b) (rest : Bytes) :
    skipText (b :: rest) = skipText rest := by
  obtain ⟨h32, h34, h92⟩ := h
  have notControl : ¬ b < 32 := UInt8.not_lt.2 h32
  rw [skipText, if_neg notControl]
  all_goals
    intros
    contradiction

theorem readContent_append_plain {bytes : Bytes} (h : ∀ b ∈ bytes, IsPlain b) (rest : Bytes) :
    readContent (bytes ++ rest) = prepend bytes (readContent rest) := by
  induction bytes with
  | nil => simp
  | cons b bytes ih =>
    rw [List.cons_append, readContent_plain (h b (by simp)), ih fun b mem => h b (by simp [mem])]
    rw [prepend_prepend, List.singleton_append]

theorem skipText_append_plain {bytes : Bytes} (h : ∀ b ∈ bytes, IsPlain b) (rest : Bytes) :
    skipText (bytes ++ rest) = skipText rest := by
  induction bytes with
  | nil => rfl
  | cons b bytes ih =>
    rw [List.cons_append, skipText_plain (h b (by simp)), ih fun b mem => h b (by simp [mem])]

theorem isPlain_of_mem_encodeChar {c : Char} (h32 : 32 ≤ c.toNat) (h34 : c ≠ '"') (h92 : c ≠ '\\')
    {b : UInt8} (mem : b ∈ String.utf8EncodeChar c) : IsPlain b := by
  by_cases h : c.toNat < 128
  · rw [encodeChar_ascii h, List.mem_singleton] at mem
    have toNat : b.toNat = c.toNat := by
      rw [mem, UInt8.toNat_ofNat']
      omega
    refine ⟨by omega, ?_, ?_⟩
    · rintro rfl
      exact h34 (Char.toNat_inj.1 toNat.symm)
    · rintro rfl
      exact h92 (Char.toNat_inj.1 toNat.symm)
  · exact isPlain_of_high (le_of_mem_encodeChar (Nat.not_lt.1 h) mem)

theorem codePointBytes_toNat (c : Char) : codePointBytes c.toNat = String.utf8EncodeChar c := by
  unfold codePointBytes
  have : c.toString = String.ofList [c] := rfl
  rw [Char.ofNat_toNat, this, ofString_ofList]
  simp [ofChars]

theorem hexUnit?_control {n : Nat} (h : n < 32) :
    hexUnit? 48 48 (UInt8.ofNat (n / 16).digitChar.toNat) (UInt8.ofNat (n % 16).digitChar.toNat) =
      some n := by
  revert n
  decide

theorem digitChar_lt (n : Nat) : n.digitChar.toNat < 128 := by
  by_cases h : n < 16
  · revert n
    decide
  · rw [Nat.digitChar_eq_star.2 (Nat.not_lt.1 h)]
    decide

theorem ofChars_control (n : Nat) :
    ofChars ['\\', 'u', '0', '0', (n / 16).digitChar, (n % 16).digitChar] =
      [92, 117, 48, 48, UInt8.ofNat (n / 16).digitChar.toNat,
        UInt8.ofNat (n % 16).digitChar.toNat] := by
  simp only [ofChars_cons, ofChars_nil, encodeChar_ascii (digitChar_lt _)]
  rfl

theorem ne_of_shortEscape {b e : UInt8} (h : shortEscape? b = some e) : b ≠ 117 := by
  rintro rfl
  have : shortEscape? 117 = none := rfl
  rw [this] at h
  contradiction

theorem readContent_short {b e : UInt8} (h : shortEscape? b = some e) (rest : Bytes) :
    readContent (92 :: b :: rest) = prepend [e] (readContent rest) := by
  have := ne_of_shortEscape h
  simp [readContent, h, this]

theorem skipText_short {b e : UInt8} (h : shortEscape? b = some e) (rest : Bytes) :
    skipText (92 :: b :: rest) = skipText rest := by
  have := ne_of_shortEscape h
  simp [skipText, h, this]

/-- The ways in which a character is written inside a string. -/
inductive Escaped (c : Char) : Bytes → Prop where
  | short {b e : UInt8} (escape : shortEscape? b = some e)
      (byte : String.utf8EncodeChar c = [e]) : Escaped c [92, b]
  | control (lt : c.toNat < 32) :
      Escaped c [92, 117, 48, 48, UInt8.ofNat (c.toNat / 16).digitChar.toNat,
        UInt8.ofNat (c.toNat % 16).digitChar.toNat]
  | plain (plain : ∀ b ∈ String.utf8EncodeChar c, IsPlain b) :
      Escaped c (String.utf8EncodeChar c)

theorem escaped_escapeChar (c : Char) : Escaped c (ofChars (escapeChar c)) := by
  unfold escapeChar
  split
  iterate 7 exact .short (by rfl) (by rfl)
  next h34 h92 _ _ _ _ _ =>
  split
  · next lt =>
    rw [ofChars_control]
    exact .control lt
  · next notLt =>
    rw [ofChars_cons, ofChars_nil, List.append_nil]
    exact .plain fun b mem => isPlain_of_mem_encodeChar (Nat.not_lt.1 notLt) h34 h92 mem

theorem readContent_escapeChar (c : Char) (rest : Bytes) :
    readContent (ofChars (escapeChar c) ++ rest) =
      prepend (String.utf8EncodeChar c) (readContent rest) := by
  have escaped := escaped_escapeChar c
  generalize ofChars (escapeChar c) = bytes at escaped
  cases escaped with
  | short escape byte =>
    rw [byte]
    exact readContent_short escape rest
  | control lt =>
    simp only [List.cons_append, List.nil_append, readContent, hexUnit?_control lt]
    rw [if_neg (by omega), if_neg (by omega), codePointBytes_toNat]
  | plain plain => exact readContent_append_plain plain rest

theorem skipText_escapeChar (c : Char) (rest : Bytes) :
    skipText (ofChars (escapeChar c) ++ rest) = skipText rest := by
  have escaped := escaped_escapeChar c
  generalize ofChars (escapeChar c) = bytes at escaped
  cases escaped with
  | short escape => exact skipText_short escape rest
  | control lt => simp only [List.cons_append, List.nil_append, skipText, hexUnit?_control lt]
  | plain plain => exact skipText_append_plain plain rest

theorem readContent_escaped (chars : List Char) (rest : Bytes) :
    readContent (ofChars (chars.flatMap escapeChar) ++ 34 :: rest) = .ok (ofChars chars) := by
  induction chars with
  | nil => simp [readContent]
  | cons c chars ih =>
    rw [List.flatMap_cons, ofChars_append, List.append_assoc, readContent_escapeChar, ih,
      ofChars_cons]
    rfl

theorem skipText_escaped (chars : List Char) (rest : Bytes) :
    skipText (ofChars (chars.flatMap escapeChar) ++ 34 :: rest) = .ok rest := by
  induction chars with
  | nil => simp [skipText]
  | cons c chars ih =>
    rw [List.flatMap_cons, ofChars_append, List.append_assoc, skipText_escapeChar, ih]

/-- A string is read as the text that it was written for. -/
theorem readText_escaped (s : String) (rest : Bytes) :
    readText (ofChars (s.toList.flatMap escapeChar) ++ 34 :: rest) = .ok s := by
  unfold readText
  rw [readContent_escaped]
  simp only [toString?_ofChars]

theorem ofChars_textChars (s : String) :
    ofChars (textChars s) = 34 :: (ofChars (s.toList.flatMap escapeChar) ++ [34]) := by
  unfold textChars
  rw [ofChars_append, ofChars_append]
  rfl

end Json
end Hostlink
