import Hostlink.Bytes
import Hostlink.Yaml.Scalar
/-!
The tokens of YAML text, and those that name things: anchors, aliases, tags and directives.
-/

namespace Hostlink.Yaml

/-- A line in front of a document. -/
inductive Directive where
  | version (major minor : Nat)
  /-- What a handle at the start of a tag stands for. -/
  | tagPrefix (handle : List Char) (meaning : Bytes)
deriving Repr, DecidableEq, Inhabited

/-- A tag as written: a handle, which may be empty, and what follows it. -/
structure TagName where
  handle : List Char
  suffix : Bytes
deriving Repr, DecidableEq, Inhabited

/-- The tokens of YAML text. Those of block collections stand where the indentation changes. -/
inductive Token where
  | streamEnd
  | directive (directive : Directive)
  | documentStart
  | documentEnd
  | blockSequenceStart
  | blockMappingStart
  | blockEnd
  | flowSequenceStart
  | flowSequenceEnd
  | flowMappingStart
  | flowMappingEnd
  | blockEntry
  | flowEntry
  | key
  | value
  | alias (name : String)
  | anchor (name : String)
  | tag (name : TagName)
  | scalar (style : Style) (text : String)
deriving Repr, DecidableEq, Inhabited

/-- The UTF-8 bytes of some characters. -/
def utf8 (text : List Char) : Bytes :=
  Bytes.ofString (String.ofList text)

/-- The name of an anchor or an alias, and the text after it. -/
def readName (cursor : Cursor) : Option (String × Cursor) :=
  let (name, cursor) := cursor.span isName
  let ends (c : Char) : Bool := "?:,]%@`".toList.contains c || c == '\x7d'
  if !name.isEmpty && (atGap cursor.rest || cursor.rest.head?.any ends) then
    some (String.ofList name, cursor)
  else none

/-- The characters of a tag that stand for themselves. -/
def isTagChar (inBrackets : Bool) (c : Char) : Bool :=
  isName c || ";/?:@&=+$.!~*'()".toList.contains c ||
    (inBrackets && (c == ',' || c == '[' || c == ']'))

/-- How many bytes a character has by its first byte, less one. -/
def followers? (first : Nat) : Option Nat :=
  if first < 0x80 then some 0
  else if first / 32 == 6 then some 1
  else if first / 16 == 14 then some 2
  else if first / 8 == 30 then some 3
  else none

/--
The characters of a tag, and the text after it. Bytes may be written as a percent sign and two
hexadecimal digits, if they make up whole characters; `followers` more bytes belong to the current
one. The bytes so far come with the last one first.
-/
def readTagChars (inBrackets : Bool) (bytes : Bytes) (place : Place) (followers : Nat) :
    List Char → Option (Bytes × Cursor)
  | '%' :: a :: b :: rest => do
    let byte := (← hexDigit? a) * 16 + (← hexDigit? b)
    let more ← match followers with
      | 0 => followers? byte
      | n + 1 => if byte / 64 == 2 then some n else none
    let place := ((place.after '%').after a).after b
    readTagChars inBrackets (UInt8.ofNat byte :: bytes) place more rest
  | [] => if followers = 0 then some (bytes.reverse, ⟨place, []⟩) else none
  | c :: rest =>
    if followers ≠ 0 || c == '%' then none
    else if isTagChar inBrackets c then
      readTagChars inBrackets (UInt8.ofNat c.toNat :: bytes) (place.after c) 0 rest
    else some (bytes.reverse, ⟨place, c :: rest⟩)

/-- A tag goes no further than its first zero byte. -/
def tagText (bytes : Bytes) : Bytes :=
  bytes.takeWhile (· != 0)

/-- The handle that a tag may start with: exclamation marks, with a name between them. -/
def readHandle (cursor : Cursor) : Option (List Char × Cursor) :=
  match cursor.rest with
  | '!' :: _ =>
    let (name, cursor) := cursor.next.span isName
    match cursor.rest with
    | '!' :: _ => some ('!' :: name ++ ['!'], cursor.next)
    | _ => some ('!' :: name, cursor)
  | _ => none

/-- Whether a handle ends with an exclamation mark of its own. -/
def isClosedHandle (handle : List Char) : Bool :=
  1 < handle.length && handle.getLast? == some '!'

/-- A tag after its first character has been seen, and the text after it. -/
def readTagName (cursor : Cursor) : Option (TagName × Cursor) :=
  match cursor.next.rest with
  | '<' :: _ => do
    let start := cursor.next.next
    let (bytes, after) ← readTagChars true [] start.place 0 start.rest
    match after.rest with
    | '>' :: _ => if bytes.isEmpty then none else some (⟨[], tagText bytes⟩, after.next)
    | _ => none
  | _ => do
    let (handle, after) ← readHandle cursor
    let (bytes, last) ← readTagChars false [] after.place 0 after.rest
    if isClosedHandle handle then
      if bytes.isEmpty then none else some (⟨handle, tagText bytes⟩, last)
    else
      let suffix := tagText (utf8 (handle.drop 1) ++ bytes)
      if suffix.isEmpty then some (⟨[], utf8 ['!']⟩, last) else some (⟨['!'], suffix⟩, last)

/-- A tag ends at a gap, or at a comma inside a flow collection. -/
def readTag (flow : Bool) (cursor : Cursor) : Option (TagName × Cursor) := do
  let (name, after) ← readTagName cursor
  if atGap after.rest || (flow && after.rest.head? == some ',') then some (name, after) else none

/-- A number of at most nine digits. -/
def readVersionNumber (cursor : Cursor) : Option (Nat × Cursor) :=
  let (digits, cursor) := cursor.span Char.isDigit
  if digits.isEmpty || 9 < digits.length then none
  else some (digits.foldl (fun n d => n * 10 + (d.toNat - 48)) 0, cursor)

/-- What follows the name of a version directive. -/
def readVersion (cursor : Cursor) : Option (Directive × Cursor) := do
  let (major, cursor) ← readVersionNumber (cursor.skipWhile isBlank)
  match cursor.rest with
  | '.' :: _ =>
    let (minor, cursor) ← readVersionNumber cursor.next
    return (.version major minor, cursor)
  | _ => none

/-- What follows the name of a tag directive. -/
def readTagPrefix (cursor : Cursor) : Option (Directive × Cursor) := do
  let (handle, cursor) ← readHandle (cursor.skipWhile isBlank)
  if handle ≠ ['!'] && !isClosedHandle handle then none
  match cursor.rest with
  | c :: _ =>
    if !isBlank c then none
    let cursor := cursor.skipWhile isBlank
    let (bytes, cursor) ← readTagChars true [] cursor.place 0 cursor.rest
    if bytes.isEmpty || !atGap cursor.rest then none
    return (.tagPrefix handle (tagText bytes), cursor)
  | [] => none

/-- A directive after its percent sign, with its line. -/
def readDirective (cursor : Cursor) : Option (Directive × Cursor) := do
  let (name, cursor) := cursor.span isName
  if name.isEmpty || !atGap cursor.rest then none
  let (directive, cursor) ←
    match String.ofList name with
    | "YAML" => readVersion cursor
    | "TAG" => readTagPrefix cursor
    | _ => none
  return (directive, ← cursor.endLine?)

end Hostlink.Yaml
