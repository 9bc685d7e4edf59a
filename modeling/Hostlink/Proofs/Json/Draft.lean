import Hostlink.Json.Value
import Hostlink.Proofs.Json.Numeral
import Mathlib.Data.List.Forall2
/-!
Texts without blanks that spell a draft: cut into tokens and put together, wherever a value may
stand, they give that draft.
-/

namespace Hostlink.Json

open Bytes

theorem tokens_nil : tokens [] = [] := by
  simp [tokens]

/-- The characters that are tokens by themselves. -/
def mark? : UInt8 → Option Token
  | 91 => some .openArray
  | 93 => some .closeArray
  | 123 => some .openObject
  | 125 => some .closeObject
  | 44 => some .comma
  | 58 => some .colon
  | _ => none

theorem tokens_mark {b : UInt8} {token : Token} (mark : mark? b = some token) (rest : Bytes) :
    tokens (b :: rest) = token :: tokens rest := by
  unfold mark? at mark
  split at mark
  case h_7 => contradiction
  all_goals
    cases mark
    simp [tokens, isSpace]

theorem tokens_null (rest : Bytes) :
    tokens (110 :: 117 :: 108 :: 108 :: rest) = .scalar .null :: tokens rest := by
  simp [tokens, isSpace, readWord]

theorem tokens_true (rest : Bytes) :
    tokens (116 :: 114 :: 117 :: 101 :: rest) = .scalar (.bool true) :: tokens rest := by
  simp [tokens, isSpace, readWord]

theorem tokens_false (rest : Bytes) :
    tokens (102 :: 97 :: 108 :: 115 :: 101 :: rest) = .scalar (.bool false) :: tokens rest := by
  simp [tokens, isSpace, readWord]

theorem tokens_string {bytes after : Bytes} {text : String} (skip : skipText bytes = .ok after)
    (read : readText bytes = .ok text) :
    tokens (34 :: bytes) = .scalar (.string (.ok text)) :: tokens after := by
  rw [tokens]
  -- a quote comes after seven other characters that are asked for
  iterate 7 rw [if_neg (by decide)]
  rw [if_pos (by decide)]
  split
  · next eq =>
    rw [skip] at eq
    rw [read, Except.ok.inj eq]
  · next eq =>
    rw [skip] at eq
    contradiction

theorem tokens_textChars (s : String) (rest : Bytes) :
    tokens (ofChars (textChars s) ++ rest) = .scalar (.string (.ok s)) :: tokens rest := by
  rw [ofChars_textChars, List.cons_append, List.append_assoc, List.singleton_append]
  exact tokens_string (skipText_escaped s.toList rest) (readText_escaped s rest)

theorem tokens_number {b : UInt8} {bytes after : Bytes} {numeral : Numeral}
    (starts : b = 45 ∨ isDigit b = true) (read : Numeral.read (b :: bytes) = .ok (numeral, after)) :
    tokens (b :: bytes) = .scalar (.number numeral.value) :: tokens after := by
  have ne : ∀ c : UInt8, c ≠ 45 ∧ isDigit c = false → (b == c) = false := by
    intro c h
    rw [beq_eq_false_iff_ne]
    rintro rfl
    simp_all
  rw [tokens]
  simp only [isSpace, ne 32 (by decide), ne 10 (by decide), ne 9 (by decide), ne 13 (by decide),
    ne 91 (by decide), ne 93 (by decide), ne 123 (by decide), ne 125 (by decide),
    ne 44 (by decide), ne 58 (by decide), ne 34 (by decide), ne 110 (by decide),
    ne 116 (by decide), ne 102 (by decide), Bool.or_self, Bool.false_eq_true, if_false]
  rw [if_pos (by simpa using starts)]
  split
  · next eq =>
    rw [read] at eq
    obtain ⟨rfl, rfl⟩ := Prod.mk.inj (Except.ok.inj eq)
    rfl
  · next eq =>
    rw [read] at eq
    contradiction

/-- How a text without blanks is cut into tokens. -/
def Lexes (chars : List Char) (ts : List Token) : Prop :=
  ∀ rest, Delimited rest → tokens (ofChars chars ++ rest) = ts ++ tokens rest

theorem Lexes.comma {chars more : List Char} {ts us : List Token} (first : Lexes chars ts)
    (second : Lexes more us) : Lexes (chars ++ ',' :: more) (ts ++ .comma :: us) := by
  intro rest delimited
  have comma : ofChars (chars ++ ',' :: more) ++ rest =
      ofChars chars ++ 44 :: (ofChars more ++ rest) := by
    rw [ofChars_append, List.append_assoc]
    rfl
  rw [comma, first _ (delimited_cons (.inl rfl) _), tokens_mark (b := 44) rfl,
    second rest delimited]
  simp

theorem Lexes.member {value : List Char} {ts : List Token} (h : Lexes value ts) (key : String) :
    Lexes (memberChars key value) (.scalar (.string (.ok key)) :: .colon :: ts) := by
  intro rest delimited
  have colon : ofChars (memberChars key value) ++ rest =
      ofChars (textChars key) ++ 58 :: (ofChars value ++ rest) := by
    unfold memberChars
    rw [ofChars_append, List.append_assoc]
    rfl
  rw [colon, tokens_textChars, tokens_mark (b := 58) rfl, h rest delimited]
  rfl

theorem Lexes.bracketed {chars : List Char} {ts : List Token} (h : Lexes chars ts) :
    Lexes ('[' :: chars ++ [']']) (.openArray :: ts ++ [.closeArray]) := by
  intro rest _
  have brackets :
      ofChars ('[' :: chars ++ [']']) ++ rest = 91 :: (ofChars chars ++ 93 :: rest) := by
    rw [ofChars_append, List.append_assoc]
    rfl
  rw [brackets, tokens_mark (b := 91) rfl, h _ (delimited_cons (.inr (.inl rfl)) _),
    tokens_mark (b := 93) rfl]
  simp

theorem Lexes.braced {chars : List Char} {ts : List Token} (h : Lexes chars ts) :
    Lexes ('\x7b' :: chars ++ ['\x7d']) (.openObject :: ts ++ [.closeObject]) := by
  intro rest _
  have braces :
      ofChars ('\x7b' :: chars ++ ['\x7d']) ++ rest = 123 :: (ofChars chars ++ 125 :: rest) := by
    rw [ofChars_append, List.append_assoc]
    rfl
  rw [braces, tokens_mark (b := 123) rfl, h _ (delimited_cons (.inr (.inr rfl)) _),
    tokens_mark (b := 125) rfl]
  simp

/-- A text that is a draft wherever a value may stand. -/
structure Spells (chars : List Char) (draft : Draft) : Prop where
  lexes : ∃ t ts, t ≠ .closeArray ∧ Lexes chars (t :: ts) ∧
    ∀ outer, (t :: ts).foldl Builder.step (.value outer) = Builder.deliver draft outer

namespace Spells

theorem scalar {chars : List Char} {draft : Draft} (lexes : Lexes chars [.scalar draft]) :
    Spells chars draft := by
  refine ⟨.scalar draft, [], nofun, lexes, ?_⟩
  intro outer
  rfl

theorem null : Spells nullChars .null := by
  apply scalar
  intro rest _
  exact tokens_null rest

theorem bool (value : Bool) : Spells (boolChars value) (.bool value) := by
  apply scalar
  intro rest _
  cases value with
  | true => exact tokens_true rest
  | false => exact tokens_false rest

theorem text (s : String) : Spells (textChars s) (.string (.ok s)) := by
  apply scalar
  intro rest _
  exact tokens_textChars s rest

theorem int {i : Int} (low : Number.minInt ≤ i) (high : i ≤ Number.maxInt) :
    Spells (Number.int i).text.toList (.number (.ok (.int i))) := by
  apply scalar
  intro rest delimited
  obtain ⟨b, bytes, eq, starts⟩ := Numeral.ofChars_int i
  have read := Numeral.read_int i delimited
  rw [eq, List.cons_append] at read
  show tokens (ofChars (toString i).toList ++ rest) = _
  rw [eq, List.cons_append, tokens_number starts read, Numeral.value_ofInt low high]
  rfl

/-- The items of an array that has some, read behind others. -/
theorem items {first : List Char} {texts : List (List Char)} {draft : Draft} {drafts : List Draft}
    (head : Spells first draft) (tail : List.Forall₂ Spells texts drafts) :
    ∃ t ts, t ≠ .closeArray ∧ Lexes (commaSeparated (first :: texts)) (t :: ts) ∧
      ∀ before outer, (t :: ts).foldl Builder.step (.value (.item before :: outer)) =
        .arrayNext ((draft :: drafts).reverse ++ before) outer := by
  induction tail generalizing first draft with
  | nil =>
    obtain ⟨t, ts, ne, lexes, built⟩ := head
    refine ⟨t, ts, ne, lexes, ?_⟩
    intro before outer
    exact built _
  | cons second _ ih =>
    obtain ⟨t, ts, ne, lexes, built⟩ := head
    obtain ⟨u, us, -, more, rest⟩ := ih second
    refine ⟨t, ts ++ .comma :: u :: us, ne, lexes.comma more, ?_⟩
    intro before outer
    rw [← List.cons_append, List.foldl_append, built, List.foldl_cons]
    show (u :: us).foldl Builder.step (.value (.item (draft :: before) :: outer)) = _
    rw [rest]
    simp

theorem array {texts : List (List Char)} {drafts : List Draft}
    (h : List.Forall₂ Spells texts drafts) : Spells (arrayChars texts) (.array drafts .closed) := by
  cases h with
  | nil =>
    refine ⟨.openArray, [.closeArray], nofun, ?_, fun outer => rfl⟩
    intro rest _
    show tokens (91 :: 93 :: rest) = _
    rw [tokens_mark (b := 91) rfl, tokens_mark (b := 93) rfl]
    rfl
  | cons head tail =>
    -- the first token closes no array, so that the start of an array is like that of an item
    obtain ⟨t, ts, ne, lexes, built⟩ := items head tail
    refine ⟨.openArray, t :: ts ++ [.closeArray], nofun, lexes.bracketed, ?_⟩
    intro outer
    rw [List.foldl_cons, List.foldl_append]
    have start : (t :: ts).foldl Builder.step (.arrayStart outer) =
        (t :: ts).foldl Builder.step (.value (.item [] :: outer)) := by
      cases t <;> first | contradiction | rfl
    show [Token.closeArray].foldl Builder.step ((t :: ts).foldl Builder.step (.arrayStart outer)) = _
    rw [start, built, List.append_nil]
    show Builder.deliver (.array (_ :: _).reverse.reverse .closed) outer = _
    rw [List.reverse_reverse]

/-- A text that is a member of an object. -/
def Member (chars : List Char) (member : Draft.Member) : Prop :=
  ∃ key value, chars = memberChars key value ∧ member.1 = .ok key ∧ Spells value member.2

theorem member {value : List Char} {draft : Draft} (h : Spells value draft) (key : String) :
    Member (memberChars key value) (.ok key, draft) :=
  ⟨key, value, rfl, rfl, h⟩

theorem Member.built {chars : List Char} {member : Draft.Member} (h : Member chars member) :
    ∃ key ts, Lexes chars (.scalar (.string (.ok key)) :: ts) ∧
      ∀ before outer, (.scalar (.string (.ok key)) :: ts).foldl Builder.step
        (.objectKey before outer) = .objectNext (member :: before) outer := by
  obtain ⟨key, draft⟩ := member
  obtain ⟨key, value, rfl, rfl, t, ts, -, lexes, built⟩ := h
  refine ⟨key, .colon :: t :: ts, lexes.member key, ?_⟩
  intro before outer
  exact built (.member before (.ok key) :: outer)

/-- The members of an object that has some, read behind others. -/
theorem members {first : List Char} {texts : List (List Char)} {member : Draft.Member}
    {members : List Draft.Member} (head : Member first member)
    (tail : List.Forall₂ Member texts members) :
    ∃ key ts, Lexes (commaSeparated (first :: texts)) (.scalar (.string (.ok key)) :: ts) ∧
      ∀ before outer, (.scalar (.string (.ok key)) :: ts).foldl Builder.step
          (.objectKey before outer) =
        .objectNext ((member :: members).reverse ++ before) outer := by
  induction tail generalizing first member with
  | nil =>
    obtain ⟨key, ts, lexes, built⟩ := head.built
    exact ⟨key, ts, lexes, built⟩
  | cons second _ ih =>
    obtain ⟨key, ts, lexes, built⟩ := head.built
    obtain ⟨key', us, more, rest⟩ := ih second
    refine ⟨key, ts ++ .comma :: .scalar (.string (.ok key')) :: us, lexes.comma more, ?_⟩
    intro before outer
    rw [← List.cons_append, List.foldl_append, built, List.foldl_cons]
    show (_ :: us).foldl Builder.step (.objectKey (member :: before) outer) = _
    rw [rest]
    simp

theorem object {texts : List (List Char)} {members : List Draft.Member}
    (h : List.Forall₂ Member texts members) :
    Spells (objectChars texts) (.object members .closed) := by
  cases h with
  | nil =>
    refine ⟨.openObject, [.closeObject], nofun, ?_, fun outer => rfl⟩
    intro rest _
    show tokens (123 :: 125 :: rest) = _
    rw [tokens_mark (b := 123) rfl, tokens_mark (b := 125) rfl]
    rfl
  | cons head tail =>
    obtain ⟨key, ts, lexes, built⟩ := Spells.members head tail
    refine ⟨.openObject, _ :: ts ++ [.closeObject], nofun, lexes.braced, ?_⟩
    intro outer
    rw [List.foldl_cons, List.foldl_append]
    have start : (.scalar (.string (.ok key)) :: ts).foldl Builder.step (.objectStart outer) =
        (.scalar (.string (.ok key)) :: ts).foldl Builder.step (.objectKey [] outer) := rfl
    show [Token.closeObject].foldl Builder.step
      ((_ :: ts).foldl Builder.step (.objectStart outer)) = _
    rw [start, built, List.append_nil]
    show Builder.deliver (.object (_ :: _).reverse.reverse .closed) outer = _
    rw [List.reverse_reverse]

theorem ofBytes {chars : List Char} {draft : Draft} (h : Spells chars draft) :
    Draft.ofBytes (ofChars chars) = (draft, false) := by
  obtain ⟨t, ts, -, lexes, built⟩ := h
  have cut := lexes [] delimited_nil
  rw [List.append_nil, tokens_nil, List.append_nil] at cut
  unfold Draft.ofBytes
  rw [cut, built]
  rfl

end Spells

end Hostlink.Json
