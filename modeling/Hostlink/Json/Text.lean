import Hostlink.Bytes
import Hostlink.Json.Fault
/-!
Strings of JSON text: how they are written, how they are read, and how they are passed over when
their content is not wanted. Reading checks the content, passing over only finds the end.
-/

namespace Hostlink.Json

/-- The value of a hexadecimal digit. -/
def hexDigit? (b : UInt8) : Option Nat :=
  if 48 ≤ b && b ≤ 57 then some (b.toNat - 48)
  else if 97 ≤ b && b ≤ 102 then some (b.toNat - 87)
  else if 65 ≤ b && b ≤ 70 then some (b.toNat - 55)
  else none

/-- The value of four hexadecimal digits. -/
def hexUnit? (a b c d : UInt8) : Option Nat := do
  let a ← hexDigit? a
  let b ← hexDigit? b
  let c ← hexDigit? c
  let d ← hexDigit? d
  return ((a * 16 + b) * 16 + c) * 16 + d

/-- The byte that a backslash and one more byte stand for. -/
def shortEscape? (b : UInt8) : Option UInt8 :=
  match b with
  | 34 => some 34
  | 92 => some 92
  | 47 => some 47
  | 98 => some 8
  | 102 => some 12
  | 110 => some 10
  | 114 => some 13
  | 116 => some 9
  | _ => none

/-- The bytes of the character with a given code point. -/
def codePointBytes (code : Nat) : Bytes :=
  Bytes.ofString (Char.ofNat code).toString

/-- Put bytes in front of what was read. -/
def prepend (bytes : Bytes) : Except SyntaxFault Bytes → Except SyntaxFault Bytes
  | .ok more => .ok (bytes ++ more)
  | .error fault => .error fault

/--
The bytes between the opening quote, which has been read, and the closing one, with the escapes
replaced by what they stand for.
-/
def readContent : Bytes → Except SyntaxFault Bytes
  | [] => .error .endInString
  | 34 :: _ => .ok []
  | 92 :: [] => .error .endInString
  | 92 :: 117 :: a :: b :: c :: d :: rest =>
    match hexUnit? a b c d with
    | none => .error .badEscape
    | some unit =>
      if 0xdc00 ≤ unit ∧ unit ≤ 0xdfff then .error .loneSurrogate
      else if 0xd800 ≤ unit ∧ unit ≤ 0xdbff then
        match rest with
        | [] => .error .endInString
        | [92] => .error .endInString
        | 92 :: 117 :: a :: b :: c :: d :: rest =>
          match hexUnit? a b c d with
          | none => .error .badEscape
          | some low =>
            if 0xdc00 ≤ low ∧ low ≤ 0xdfff then
              prepend (codePointBytes ((unit - 0xd800) * 0x400 + (low - 0xdc00) + 0x10000))
                (readContent rest)
            else .error .loneSurrogate
        | 92 :: 117 :: _ => .error .endInString
        | _ => .error .unfinishedPair
      else prepend (codePointBytes unit) (readContent rest)
  | 92 :: 117 :: _ => .error .endInString
  | 92 :: b :: rest =>
    match shortEscape? b with
    | none => .error .badEscape
    | some e => prepend [e] (readContent rest)
  | b :: rest => if b < 32 then .error .controlCharacter else prepend [b] (readContent rest)

/-- The text of a string whose opening quote has been read. -/
def readText (bytes : Bytes) : Except SyntaxFault String :=
  match readContent bytes with
  | .error fault => .error fault
  | .ok content =>
    match Bytes.toString? content with
    | none => .error .badCodePoint
    | some text => .ok text

/-- What follows a string whose opening quote has been read. -/
def skipText : Bytes → Except SyntaxFault Bytes
  | [] => .error .endInString
  | 34 :: rest => .ok rest
  | 92 :: [] => .error .endInString
  | 92 :: 117 :: a :: b :: c :: d :: rest =>
    match hexUnit? a b c d with
    | none => .error .badEscape
    | some _ => skipText rest
  | 92 :: 117 :: _ => .error .endInString
  | 92 :: b :: rest =>
    match shortEscape? b with
    | none => .error .badEscape
    | some _ => skipText rest
  | b :: rest => if b < 32 then .error .controlCharacter else skipText rest

theorem skipText_length_lt {bytes rest : Bytes} (h : skipText bytes = .ok rest) :
    rest.length < bytes.length := by
  fun_induction skipText bytes <;> simp_all <;> omega

/-- How a character is written inside a string. -/
def escapeChar (c : Char) : List Char :=
  match c with
  | '"' => ['\\', '"']
  | '\\' => ['\\', '\\']
  | '\x08' => ['\\', 'b']
  | '\x0c' => ['\\', 'f']
  | '\n' => ['\\', 'n']
  | '\r' => ['\\', 'r']
  | '\t' => ['\\', 't']
  | c =>
    if c.val < 0x20 then
      ['\\', 'u', '0', '0', (c.toNat / 16).digitChar, (c.toNat % 16).digitChar]
    else [c]

/-- A text as a JSON string. -/
def textChars (s : String) : List Char :=
  ['"'] ++ s.toList.flatMap escapeChar ++ ['"']

end Hostlink.Json
