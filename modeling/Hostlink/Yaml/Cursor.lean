/-!
Places in a YAML text, the kinds of characters that its structure hangs on, and how far a text can
be read: it is taken in by parts, and a part with a character that has no place in YAML cannot be
read at all. Where the parts end that can be read, a character stands that no other text contains,
so that readers notice it as soon as they look that far.
-/

namespace Hostlink.Yaml

/-- A space or a tab. -/
def isBlank (c : Char) : Bool :=
  c == ' ' || c == '\t'

/-- The end of a line. -/
def isBreak (c : Char) : Bool :=
  c == '\n' || c == '\r' || c == '\x85' || c == '\u2028' || c == '\u2029'

/-- The characters of names: letters, digits, `_` and `-`, of ASCII only. -/
def isName (c : Char) : Bool :=
  c.isAlphanum || c == '_' || c == '-'

/-- The characters that a text may contain. -/
def isAllowed (c : Char) : Bool :=
  let code := c.val
  code == 0x9 || code == 0xa || code == 0xd || (0x20 ≤ code && code ≤ 0x7e) || code == 0x85 ||
    (0xa0 ≤ code && code ≤ 0xd7ff) || (0xe000 ≤ code && code ≤ 0xfffd) || 0x10000 ≤ code

/-- What stands where the part of a text begins that cannot be read; no text may contain it. -/
def illegible : Char := '\x00'

/-- The greatest number of bytes in a part of a text. -/
def partSize : Nat := 16384

/--
A text as far as it can be read. It is cut into the longest parts of whole characters that are not
larger than `partSize`; `used` bytes of the current part are in `part`, the last first.
-/
def legible (used : Nat) (part : List Char) : List Char → List Char
  | [] => part.reverse
  | c :: rest =>
    if used + c.utf8Size ≤ partSize then
      if isAllowed c then legible (used + c.utf8Size) (c :: part) rest else [illegible]
    else
      part.reverse ++ if isAllowed c then legible c.utf8Size [c] rest else [illegible]

/--
The text with one character for each line end: a carriage return for a pair of characters, and a
line feed for the usual single ones.
-/
def joinBreaks : List Char → List Char
  | '\r' :: '\n' :: rest => '\r' :: joinBreaks rest
  | c :: rest => (if c == '\r' || c == '\x85' then '\n' else c) :: joinBreaks rest
  | [] => []

/-- What a line end adds to a scalar. -/
def meantBreak (c : Char) : Char :=
  if c == '\r' then '\n' else c

/--
Whether the next `n` characters can be read, as far as the text has them; a line end for which a
carriage return stands counts twice.
-/
def isLegible (n : Nat) : List Char → Bool
  | [] => true
  | c :: rest =>
    n == 0 || (c != illegible && isLegible (n - if c == '\r' then 2 else 1) rest)

/-- A place in a text; lines and columns count from zero. -/
structure Place where
  /-- The number of bytes in front of it. -/
  index : Nat := 0
  line : Nat := 0
  column : Nat := 0
deriving Repr, DecidableEq, Inhabited

/-- The place after a character. -/
def Place.after (place : Place) (c : Char) : Place where
  index := place.index + c.utf8Size
  line := if isBreak c then place.line + 1 else place.line
  column := if isBreak c then 0 else place.column + 1

/-- Whether a blank, a line end or the end of the text comes first. -/
def atGap : List Char → Bool
  | [] => true
  | c :: _ => isBlank c || isBreak c

/-- Whether three equal characters come first, and then a gap. -/
def atMarker (mark : Char) : List Char → Bool
  | a :: b :: c :: rest => a == mark && b == mark && c == mark && atGap rest
  | _ => false

/-- Whether the text goes on with the start or the end of a document. -/
def atDocument (text : List Char) : Bool :=
  atMarker '-' text || atMarker '.' text

/-- A place and the text from there on. -/
structure Cursor where
  place : Place
  rest : List Char
deriving Repr, Inhabited

namespace Cursor

/-- Go on by one character. -/
def next (cursor : Cursor) : Cursor :=
  match cursor.rest with
  | [] => cursor
  | c :: rest => ⟨cursor.place.after c, rest⟩

/-- Go on as long as the characters satisfy a condition. -/
def skipWhile (p : Char → Bool) (cursor : Cursor) : Cursor :=
  ⟨(cursor.rest.takeWhile p).foldl Place.after cursor.place, cursor.rest.dropWhile p⟩

/-- The characters from here on that satisfy a condition, and what follows them. -/
def span (p : Char → Bool) (cursor : Cursor) : List Char × Cursor :=
  (cursor.rest.takeWhile p, cursor.skipWhile p)

/-- Go on past a comment, if there is one. -/
def skipComment (cursor : Cursor) : Cursor :=
  match cursor.rest with
  | '#' :: _ => cursor.skipWhile fun c => !isBreak c && c != illegible
  | _ => cursor

/-- Go on to the next line; only a comment may be left on this one. -/
def endLine? (cursor : Cursor) : Option Cursor :=
  let cursor := (cursor.skipWhile isBlank).skipComment
  match cursor.rest with
  | [] => some cursor
  | c :: _ => if isBreak c then some cursor.next else none

end Cursor
end Hostlink.Yaml
