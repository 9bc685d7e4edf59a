import Hostlink.Yaml.Token
/-!
Cutting YAML text into tokens. The structure of block collections is not written out: a collection
starts where a line is indented deeper than the ones around it, and a mapping key is known for one
only by the colon after it. So the scanner keeps the columns of the open collections and the tokens
that may still turn out to start a key, and puts tokens in front of those once the colon is seen.
-/

namespace Hostlink.Yaml

/-- A token that starts a key if a colon follows. -/
structure Candidate where
  /-- How many flow collections are open around it. -/
  depth : Nat
  /-- How many tokens are in front of it. -/
  number : Nat
  /-- Whether a colon has to follow, since nothing but a key can stand here. -/
  required : Bool
  place : Place
deriving Repr, DecidableEq, Inhabited

/-- The greatest number of bytes between the start of a key and the colon after it. -/
def maxKeyLength : Nat := 1024

/-- Whether it is too late for a colon that would make a key out of a candidate. -/
def Candidate.isStale (candidate : Candidate) (place : Place) : Bool :=
  candidate.place.line < place.line || candidate.place.index + maxKeyLength < place.index

/-- The state of cutting a text into tokens. -/
structure Scanner where
  cursor : Cursor
  /-- The number of flow collections that are open. -/
  flow : Nat := 0
  /-- The columns of the open block collections, the innermost first. -/
  columns : List Nat := []
  /-- Whether a key may start here. -/
  keyAllowed : Bool := true
  /-- The candidate outside of the flow collections. -/
  blockCandidate : Option Candidate := none
  /-- At most one candidate for each open flow collection, the innermost first. Those that are stale
  stay, and are passed over. -/
  flowCandidates : List Candidate := []
  /-- The tokens so far, the last first. -/
  tokens : List Token := []
  /-- The number of the tokens so far. -/
  count : Nat := 0
deriving Inhabited

namespace Scanner

def place (s : Scanner) : Place :=
  s.cursor.place

def column (s : Scanner) : Nat :=
  s.cursor.place.column

/-- The column of the innermost block collection, and one less than all columns outside of any. -/
def indent (s : Scanner) : Int :=
  match s.columns with
  | [] => -1
  | column :: _ => column

def inFlow (s : Scanner) : Bool :=
  s.flow != 0

/-- Put a token behind all others. -/
def push (s : Scanner) (token : Token) : Scanner :=
  { s with tokens := token :: s.tokens, count := s.count + 1 }

/-- Put a token behind the first `number` ones. -/
def insertAt (s : Scanner) (number : Nat) (token : Token) : Scanner :=
  let later := s.count - number
  let tokens := s.tokens.take later ++ token :: s.tokens.drop later
  { s with tokens, count := s.count + 1 }

/-- Give up the candidate outside of the flow collections once it is stale, unless a key has to come
of it. -/
def dropStale (s : Scanner) : Option Scanner :=
  match s.blockCandidate with
  | none => some s
  | some candidate =>
    if !candidate.isStale s.place then some s
    else if candidate.required then none
    else some { s with blockCandidate := none }

/-- The candidate of the innermost collection. -/
def candidate? (s : Scanner) : Option Candidate :=
  if s.inFlow then
    s.flowCandidates.head?.filter fun candidate =>
      candidate.depth == s.flow && !candidate.isStale s.place
  else s.blockCandidate

/-- Forget the candidate of the innermost collection. -/
def forgetCandidate (s : Scanner) : Scanner :=
  if s.inFlow then
    { s with flowCandidates := s.flowCandidates.dropWhile (·.depth == s.flow) }
  else { s with blockCandidate := none }

/-- Give up the candidate of the innermost collection, unless it has to become a key. -/
def dropCandidate (s : Scanner) : Option Scanner :=
  if s.candidate?.any (·.required) then none else some s.forgetCandidate

/-- Note that the next token may start a key. -/
def noteCandidate (s : Scanner) : Option Scanner := do
  if !s.keyAllowed then return s
  let s ← s.dropCandidate
  let required := !s.inFlow && s.indent == s.column
  let candidate := { depth := s.flow, number := s.count, required, place := s.place }
  return if s.inFlow then { s with flowCandidates := candidate :: s.flowCandidates }
    else { s with blockCandidate := some candidate }

/-- Start a block collection at a column deeper than the open ones, with a token at its place. -/
def enterBlock (s : Scanner) (column number : Nat) (token : Token) : Scanner :=
  if !s.inFlow && s.indent < column then
    { s with columns := column :: s.columns }.insertAt number token
  else s

/-- End the block collections that satisfy a condition, the innermost first. -/
def leaveBlocks (s : Scanner) (inner : Nat → Bool) : Scanner :=
  if s.inFlow then s
  else
    let left := s.columns.takeWhile inner
    left.foldl (fun s _ => s.push .blockEnd) { s with columns := s.columns.dropWhile inner }

/--
Go on to the next token. Tabs count as blanks where no key can start, and a line end allows a key,
except inside flow collections. A mark of byte order is passed over at the start of a line.
-/
def skipGap (flow keyAllowed comment : Bool) (place : Place) : List Char → Bool × Cursor
  | [] => (keyAllowed, ⟨place, []⟩)
  | c :: rest =>
    if isBreak c then skipGap flow (keyAllowed || !flow) false (place.after c) rest
    else if (comment && c != illegible) || c == ' ' || (c == '\t' && (flow || !keyAllowed)) ||
        (c == '\ufeff' && place.column == 0) then
      skipGap flow keyAllowed comment (place.after c) rest
    else if c == '#' then skipGap flow keyAllowed true (place.after c) rest
    else (keyAllowed, ⟨place, c :: rest⟩)

/-- Take the end of the text, which is the end of its last line. -/
def takeStreamEnd (s : Scanner) : Option Scanner := do
  let cursor := if s.column = 0 then s.cursor else ⟨s.place.after '\n', []⟩
  let s ← ({ s with cursor }.leaveBlocks fun _ => true).dropCandidate
  return { s with keyAllowed := false }.push .streamEnd

/-- Take a directive. -/
def takeDirective (s : Scanner) : Option Scanner := do
  let s ← (s.leaveBlocks fun _ => true).dropCandidate
  let (directive, cursor) ← readDirective s.cursor.next
  return { s with keyAllowed := false, cursor }.push (.directive directive)

/-- Take the mark that starts or ends a document. -/
def takeMarker (s : Scanner) (token : Token) : Option Scanner := do
  let s ← (s.leaveBlocks fun _ => true).dropCandidate
  return { s with keyAllowed := false, cursor := s.cursor.next.next.next }.push token

/-- Take an opening bracket or brace. -/
def openFlow (s : Scanner) (token : Token) : Option Scanner := do
  let s ← s.noteCandidate
  let s := { s with flow := s.flow + 1, keyAllowed := true, cursor := s.cursor.next }
  return s.push token

/-- Take a closing bracket or brace. -/
def closeFlow (s : Scanner) (token : Token) : Option Scanner := do
  let s ← s.dropCandidate
  let s := { s with flow := s.flow - 1, keyAllowed := false, cursor := s.cursor.next }
  return s.push token

/-- Take a comma. -/
def takeFlowEntry (s : Scanner) : Option Scanner := do
  let s ← s.dropCandidate
  return { s with keyAllowed := true, cursor := s.cursor.next }.push .flowEntry

/-- Take the dash in front of an item. -/
def takeBlockEntry (s : Scanner) : Option Scanner := do
  if !s.inFlow && !s.keyAllowed then none
  let s ← (s.enterBlock s.column s.count .blockSequenceStart).dropCandidate
  return { s with keyAllowed := true, cursor := s.cursor.next }.push .blockEntry

/-- Take the question mark in front of a key. -/
def takeKey (s : Scanner) : Option Scanner := do
  if !s.inFlow && !s.keyAllowed then none
  let s ← (s.enterBlock s.column s.count .blockMappingStart).dropCandidate
  return { s with keyAllowed := !s.inFlow, cursor := s.cursor.next }.push .key

/-- Take the colon in front of a value. It turns the candidate before it into a key. -/
def takeValue (s : Scanner) : Option Scanner := do
  match s.candidate? with
  | some candidate =>
    let s := s.forgetCandidate.insertAt candidate.number .key
    let s := s.enterBlock candidate.place.column candidate.number .blockMappingStart
    return { s with keyAllowed := false, cursor := s.cursor.next }.push .value
  | none =>
    if !s.inFlow && !s.keyAllowed then none
    let s := s.enterBlock s.column s.count .blockMappingStart
    return { s with keyAllowed := !s.inFlow, cursor := s.cursor.next }.push .value

/-- Take a token that may start a key, and go on behind it. -/
def takeName (s : Scanner) (read : Scanner → Option (Token × Cursor)) : Option Scanner := do
  let s ← s.noteCandidate
  let (token, cursor) ← read s
  return { s with keyAllowed := false, cursor }.push token

/-- Take a scalar in quotes. -/
def takeQuoted (s : Scanner) (style : Style)
    (read : Place → List Char → Option Scanned) : Option Scanner :=
  s.takeName fun s => do
    let start := s.cursor.next
    if !isLegible 4 start.rest then none
    let scanned ← read start.place start.rest
    return (.scalar style scanned.value, scanned.after)

/-- Take a block scalar. -/
def takeBlockScalar (s : Scanner) (folded : Bool) : Option Scanner := do
  let s ← s.dropCandidate
  let scanned ← readBlockScalar folded s.indent s.cursor.next
  let style := if folded then Style.folded else .literal
  return { s with keyAllowed := true, cursor := scanned.after }.push
    (.scalar style scanned.value)

/-- Take a plain scalar. -/
def takePlain (s : Scanner) : Option Scanner := do
  let s ← s.noteCandidate
  let scanned ← readPlain s.inFlow (s.indent + 1) [] (.blanks []) s.place s.cursor.rest
  return { s with keyAllowed := scanned.onNewLine, cursor := scanned.after }.push
    (.scalar .plain scanned.value)

/-- The characters that a plain scalar does not start with, as a rule. -/
def isIndicator (c : Char) : Bool :=
  isBlank c || isBreak c || isFlowEnd c || "-?:#&*!|>'\"%@`".toList.contains c

/-- Whether a plain scalar starts here. -/
def startsPlain (flow : Bool) (c : Char) (rest : List Char) : Bool :=
  !isIndicator c || (c == '-' && !rest.head?.any isBlank) ||
    (!flow && (c == '?' || c == ':') && !atGap rest)

/-- Take the next token, which starts here. -/
def takeToken (s : Scanner) : Option Scanner :=
  match s.cursor.rest with
  | [] => s.takeStreamEnd
  | c :: rest =>
    let separate := s.inFlow || atGap rest
    if !isLegible 4 (c :: rest) then none
    else if s.column == 0 && c == '%' then s.takeDirective
    else if s.column == 0 && atMarker '-' (c :: rest) then s.takeMarker .documentStart
    else if s.column == 0 && atMarker '.' (c :: rest) then s.takeMarker .documentEnd
    else if c == '[' then s.openFlow .flowSequenceStart
    else if c == '\x7b' then s.openFlow .flowMappingStart
    else if c == ']' then s.closeFlow .flowSequenceEnd
    else if c == '\x7d' then s.closeFlow .flowMappingEnd
    else if c == ',' then s.takeFlowEntry
    else if c == '-' && atGap rest then s.takeBlockEntry
    else if c == '?' && separate then s.takeKey
    else if c == ':' && separate then s.takeValue
    else if c == '*' then
      s.takeName fun s => (readName s.cursor.next).map fun (name, after) => (.alias name, after)
    else if c == '&' then
      s.takeName fun s => (readName s.cursor.next).map fun (name, after) => (.anchor name, after)
    else if c == '!' then
      s.takeName fun s => (readTag s.inFlow s.cursor).map fun (name, after) => (.tag name, after)
    else if c == '|' && !s.inFlow then s.takeBlockScalar false
    else if c == '>' && !s.inFlow then s.takeBlockScalar true
    else if c == '\'' then s.takeQuoted .singleQuoted (readSingleQuoted [] (.blanks []) false)
    else if c == '"' then s.takeQuoted .doubleQuoted (readDoubleQuoted [] (.blanks []) .none)
    else if startsPlain s.inFlow c rest then s.takePlain
    else none

/-- Go on to the next token and take it. -/
def advance (s : Scanner) : Option Scanner := do
  let (keyAllowed, cursor) := skipGap s.inFlow s.keyAllowed false s.place s.cursor.rest
  let s ← { s with keyAllowed, cursor }.dropStale
  (s.leaveBlocks (s.column < ·)).takeToken

/-- The number of tokens that no later text can put another token in front of. -/
def settled (s : Scanner) : Nat :=
  let candidates := s.blockCandidate.toList ++ s.flowCandidates
  (candidates.filter (!·.isStale s.place)).foldl
    (fun least candidate => min least candidate.number) s.count

/-- Whether the end of the text has been taken. -/
def isDone (s : Scanner) : Bool :=
  s.tokens.head? == some .streamEnd

/--
The tokens from a state on, in a text of at most `size` bytes, given the state in front of the last
token. If the text has a fault, only the tokens that were settled before it.
-/
def run (size : Nat) (s previous : Scanner) : List Token :=
  match s.dropStale with
  | none => s.tokens.reverse.take previous.settled
  | some fresh =>
    if fresh.isDone then fresh.tokens.reverse
    else
      match fresh.advance with
      | none => fresh.tokens.reverse.take fresh.settled
      | some after =>
        if s.place.index < after.place.index ∧ s.place.index < size then
          run size after fresh
        else after.tokens.reverse
termination_by size - s.place.index
decreasing_by omega

end Scanner

/-- The tokens of a text, as far as it is YAML and can be read. -/
def tokens (text : String) : List Token :=
  let start : Scanner := { cursor := ⟨{}, joinBreaks (legible 0 [] text.toList)⟩ }
  start.run (text.utf8ByteSize + 2) start

end Hostlink.Yaml
