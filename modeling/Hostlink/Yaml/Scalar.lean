import Hostlink.Yaml.Cursor
/-!
The ways to write a scalar: plain, in quotes, or as a block of lines. Each reader goes through the
text character by character and gives the text that is meant and the place after it. On the way
texts are kept with the last character first. A reader fails as soon as it looks at a character that
cannot be read, and it looks a few characters ahead.
-/

namespace Hostlink.Yaml

/-- How a scalar is written. -/
inductive Style where
  | plain
  | singleQuoted
  | doubleQuoted
  | literal
  | folded
deriving Repr, DecidableEq, Inhabited

/--
What stands between two words of a scalar that may go over several lines, the last character first.
-/
inductive Gap where
  /-- Blanks on one line, or nothing. -/
  | blanks (text : List Char)
  /-- Line ends, the first of which may be escaped; blanks around them do not count. -/
  | breaks (first : Option Char) (more : List Char)
deriving Repr, DecidableEq, Inhabited

namespace Gap

def isEmpty : Gap → Bool
  | blanks [] => true
  | _ => false

def isBroken : Gap → Bool
  | blanks _ => false
  | breaks _ _ => true

/-- The gap with one more blank or line end. -/
def add (gap : Gap) (c : Char) : Gap :=
  match gap with
  | blanks text => if isBreak c then breaks (some (meantBreak c)) [] else blanks (c :: text)
  | breaks first more => breaks first (if isBreak c then meantBreak c :: more else more)

/--
What a gap means: a single line feed is folded to a space, and the first of several is left out.
-/
def text : Gap → List Char
  | blanks text => text
  | breaks (some '\n') [] => [' ']
  | breaks (some '\n') more => more
  | breaks (some c) more => more ++ [c]
  | breaks none more => more

end Gap

/-- A scalar that was read. -/
structure Scanned where
  /-- What it means, the last character first. -/
  text : List Char
  after : Cursor
  /-- Whether line ends after it were passed over. -/
  onNewLine : Bool := false

/-- What a scalar means. -/
def Scanned.value (scanned : Scanned) : String :=
  String.ofList scanned.text.reverse

/-- The characters that structure flow collections and end a plain scalar there. -/
def isFlowEnd (c : Char) : Bool :=
  c == ',' || c == '[' || c == ']' || c == '\x7b' || c == '\x7d'

/-- The rest of a plain scalar, inside a flow collection or indented by at least `indent`. -/
def readPlain (flow : Bool) (indent : Int) (text : List Char) (gap : Gap) (place : Place) :
    List Char → Option Scanned
  | [] => some ⟨text, ⟨place, []⟩, gap.isBroken⟩
  | c :: rest =>
    let stop : Option Scanned := some ⟨text, ⟨place, c :: rest⟩, gap.isBroken⟩
    if isBlank c || isBreak c then
      if c == '\t' && gap.isBroken && place.column < indent then none
      else readPlain flow indent text (gap.add c) (place.after c) rest
    else if c == illegible then none
    else if !gap.isEmpty && !flow && place.column < indent then stop
    else if !gap.isEmpty && !isLegible 4 (c :: rest) then none
    else if !gap.isEmpty && (c == '#' || (place.column == 0 && atDocument (c :: rest))) then stop
    else if flow && c == ':' && (rest.head?.any fun d => isFlowEnd d || d == '?') then none
    else if (c == ':' && atGap rest) || (flow && isFlowEnd c) then stop
    else if !isLegible 2 rest then none
    else readPlain flow indent (c :: (gap.text ++ text)) (.blanks []) (place.after c) rest

/-- The character that a single letter after a backslash means. -/
def escaped? : Char → Option Char
  | '0' => some '\x00'
  | 'a' => some '\x07'
  | 'b' => some '\x08'
  | 't' | '\t' => some '\t'
  | 'n' => some '\n'
  | 'v' => some '\x0b'
  | 'f' => some '\x0c'
  | 'r' => some '\r'
  | 'e' => some '\x1b'
  | ' ' => some ' '
  | '"' => some '"'
  | '/' => some '/'
  | '\\' => some '\\'
  | 'N' => some '\x85'
  | '_' => some '\xa0'
  | 'L' => some '\u2028'
  | 'P' => some '\u2029'
  | _ => none

/-- The number of hexadecimal digits that a letter after a backslash calls for. -/
def escapeDigits? : Char → Option Nat
  | 'x' => some 2
  | 'u' => some 4
  | 'U' => some 8
  | _ => none

/-- The value of a hexadecimal digit. -/
def hexDigit? (c : Char) : Option Nat :=
  if c.isDigit then some (c.toNat - 48)
  else if 'a' ≤ c && c ≤ 'f' then some (c.toNat - 87)
  else if 'A' ≤ c && c ≤ 'F' then some (c.toNat - 55)
  else none

/-- An escape that has begun. -/
inductive Escape where
  | none
  | backslash
  /-- So many digits are still to come, after those that make up the value. -/
  | digits (more value : Nat)
deriving Repr, DecidableEq, Inhabited

/-- A character by its code point, if there is one. -/
def charAt? (code : Nat) : Option Char :=
  if code.isValidChar then some (Char.ofNat code) else none

/-- The rest of a scalar in double quotes. -/
def readDoubleQuoted (text : List Char) (gap : Gap) (escape : Escape) (place : Place) :
    List Char → Option Scanned
  | [] => none
  | c :: rest =>
    match escape with
    | .none =>
      if isBlank c || isBreak c then readDoubleQuoted text (gap.add c) .none (place.after c) rest
      else if c == illegible || (!gap.isEmpty && !isLegible 4 (c :: rest)) then none
      else if place.column == 0 && atDocument (c :: rest) then none
      else
        let text := gap.text ++ text
        if c == '"' then some { text, after := ⟨place.after c, rest⟩ }
        else if c == '\\' then readDoubleQuoted text (.blanks []) .backslash (place.after c) rest
        else if !isLegible 2 rest then none
        else readDoubleQuoted (c :: text) (.blanks []) .none (place.after c) rest
    | .backslash =>
      if isBreak c then
        -- A quote right behind the line end is noticed without looking any further.
        if rest.head? == some '"' then
          some { text, after := ⟨(place.after c).after '"', rest.drop 1⟩ }
        else readDoubleQuoted text (.breaks none []) .none (place.after c) rest
      else
        match escaped? c, escapeDigits? c with
        | some meant, _ =>
          if !isLegible 2 rest then none
          else readDoubleQuoted (meant :: text) (.blanks []) .none (place.after c) rest
        | none, some more =>
          readDoubleQuoted text (.blanks []) (.digits more 0) (place.after c) rest
        | none, none => none
    | .digits more value =>
      match hexDigit? c with
      | none => none
      | some digit =>
        let value := value * 16 + digit
        if more ≤ 1 then
          match charAt? value with
          | none => none
          | some meant =>
            if !isLegible 2 rest then none
            else readDoubleQuoted (meant :: text) (.blanks []) .none (place.after c) rest
        else readDoubleQuoted text (.blanks []) (.digits (more - 1) value) (place.after c) rest

/-- The rest of a scalar in single quotes, where a quote is written twice. -/
def readSingleQuoted (text : List Char) (gap : Gap) (quote : Bool) (place : Place) :
    List Char → Option Scanned
  | [] => if quote then some { text, after := ⟨place, []⟩ } else none
  | c :: rest =>
    if quote then
      if c == '\'' then
        if !isLegible 2 rest then none
        else readSingleQuoted ('\'' :: text) (.blanks []) false (place.after c) rest
      else some { text, after := ⟨place, c :: rest⟩ }
    else if isBlank c || isBreak c then
      readSingleQuoted text (gap.add c) false (place.after c) rest
    else if c == illegible || (!gap.isEmpty && !isLegible 4 (c :: rest)) then none
    else if place.column == 0 && atDocument (c :: rest) then none
    else if c == '\'' then
      readSingleQuoted (gap.text ++ text) (.blanks []) true (place.after c) rest
    else if !isLegible 2 rest then none
    else readSingleQuoted (c :: (gap.text ++ text)) (.blanks []) false (place.after c) rest

/-- What becomes of the line ends after a block scalar. -/
inductive Chomp where
  | strip
  | clip
  | keep
deriving Repr, DecidableEq, Inhabited

/-- The head of a block scalar. -/
structure BlockHead where
  folded : Bool
  chomp : Chomp := .clip
  /-- The indentation of the block, if it is told. -/
  indent : Option Nat := none
deriving Repr, Inhabited

/-- A block scalar, as far as it was read, the last character first. -/
structure Block where
  text : List Char := []
  /-- The line end of the last line with content. -/
  lineEnd : List Char := []
  /-- The line ends after that one. -/
  breaks : List Char := []
  indent : Option Nat
  /-- The greatest indentation of an empty line. -/
  deepest : Nat := 0
  inLine : Bool := false
  /-- Whether the last line with content started with a blank. -/
  afterBlank : Bool := false
deriving Repr, Inhabited

namespace Block

/-- Start a line of content. In a folded scalar a line end between two words is a space. -/
def startLine (block : Block) (folded : Bool) (c : Char) : Block :=
  let between :=
    if folded && block.lineEnd == ['\n'] && !block.afterBlank && !isBlank c then
      if block.breaks.isEmpty then [' '] else block.breaks
    else block.breaks ++ block.lineEnd
  { block with
    text := c :: (between ++ block.text), lineEnd := [], breaks := [], inLine := true
    afterBlank := isBlank c }

/-- The text of a block that has come to its end. -/
def finish (block : Block) (chomp : Chomp) : List Char :=
  match chomp with
  | .strip => block.text
  | .clip => block.lineEnd ++ block.text
  | .keep => block.breaks ++ block.lineEnd ++ block.text

end Block

/-- The lines of a block scalar inside a collection that is indented by `parent`. -/
def readBlock (head : BlockHead) (parent : Int) (block : Block) (place : Place) :
    List Char → Option Scanned
  | [] => some { text := block.finish head.chomp, after := ⟨place, []⟩ }
  | c :: rest =>
    if c == illegible then none
    else if block.inLine then
      if isBreak c then
        readBlock head parent { block with inLine := false, lineEnd := [meantBreak c] }
          (place.after c) rest
      else
        readBlock head parent { block with text := c :: block.text } (place.after c) rest
    else
      let outside := block.indent.all (place.column < ·)
      if c == ' ' && outside then readBlock head parent block (place.after c) rest
      else if c == '\t' && outside then none
      else
        let deepest := max block.deepest place.column
        if isBreak c then
          readBlock head parent { block with breaks := meantBreak c :: block.breaks, deepest }
            (place.after c) rest
        else
          let indent := block.indent.getD (max (max deepest (parent + 1).toNat) 1)
          if place.column == indent then
            readBlock head parent ({ block with indent, deepest }.startLine head.folded c)
              (place.after c) rest
          else some { text := block.finish head.chomp, after := ⟨place, c :: rest⟩ }

/-- The chomping that a character asks for. -/
def chomp? : Char → Option Chomp
  | '-' => some .strip
  | '+' => some .keep
  | _ => none

/-- The head of a block scalar after its first character: chomping and indentation in any order. -/
def readBlockHead (folded : Bool) (parent : Int) (cursor : Cursor) : Option (BlockHead × Cursor) :=
  let indentOf (c : Char) : Option Nat :=
    if c == '0' then none
    else some (if 0 ≤ parent then parent.toNat + (c.toNat - 48) else c.toNat - 48)
  match cursor.rest with
  | [] => some ({ folded }, cursor)
  | c :: rest =>
    match chomp? c with
    | some chomp =>
      let cursor := cursor.next
      match rest with
      | d :: _ =>
        if d.isDigit then do return ({ folded, chomp, indent := some (← indentOf d) }, cursor.next)
        else some ({ folded, chomp }, cursor)
      | [] => some ({ folded, chomp }, cursor)
    | none =>
      if c.isDigit then do
        let indent ← indentOf c
        let cursor := cursor.next
        match rest.head?.bind chomp? with
        | some chomp => return ({ folded, chomp, indent := some indent }, cursor.next)
        | none => return ({ folded, indent := some indent }, cursor)
      else some ({ folded }, cursor)

/-- A block scalar after its first character. -/
def readBlockScalar (folded : Bool) (parent : Int) (cursor : Cursor) : Option Scanned := do
  let (head, cursor) ← readBlockHead folded parent cursor
  let cursor ← cursor.endLine?
  readBlock head parent { indent := head.indent } cursor.place cursor.rest

end Hostlink.Yaml
