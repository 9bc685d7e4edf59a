import Hostlink.Json.Numeral
import Hostlink.Json.Text
/-!
Drafts: what can be made of a JSON text before it is known what the text is read for. A draft is the
tree of values that a text spells, as far as the text goes; where the text stops being JSON, the
draft says what stands there. Decoders walk a draft from left to right, so the first fault that a
decoder meets is the first one of the text, be it a fault of form or a value of a wrong type.

`Draft.ofBytes` makes the draft of a text: `tokens` cuts the text into tokens and `Builder.step`
puts one token after the other into the tree.
-/

namespace Hostlink.Json

/-- What a mismatch between a value and a type names. -/
inductive Found where
  | null
  | bool (value : Bool)
  | number (value : Number)
  | string (text : String)
  | sequence
  | map
deriving Repr, Inhabited

/-- How the text of an array goes on after its last item. -/
inductive ArrayStop where
  | closed
  /-- The text ends, or has a fault inside the last item. -/
  | ended
  /-- Neither a comma nor the closing bracket. -/
  | unseparated
  /-- A comma, then the end of the text. -/
  | commaEnded
  /-- A comma, then the closing bracket. -/
  | commaClosed
deriving Repr, DecidableEq, Inhabited

/-- How the text of an object goes on after its last member. -/
inductive ObjectStop where
  | closed
  /-- The text ends, or has a fault inside the last member. -/
  | ended
  /-- Neither a comma nor the closing brace. -/
  | unseparated
  /-- A comma, then the end of the text. -/
  | commaEnded
  /-- A comma, then the closing brace. -/
  | commaClosed
  /-- Something else than a string where a key is wanted. -/
  | strayKey
  /-- A key that is no well-formed string: the fault when it is read, and when it is passed over. -/
  | badKey (reading skipping : SyntaxFault)
deriving Repr, Inhabited

/-- A value of a JSON text, as far as the text goes. -/
inductive Draft where
  | null
  | bool (value : Bool)
  /-- A well-formed numeral; its value may be out of range. -/
  | number (value : Except SyntaxFault Number)
  /-- A string that has an end; its content may be no text. -/
  | string (text : Except SyntaxFault String)
  | array (items : List Draft) (stop : ArrayStop)
  | object (members : List (Except SyntaxFault String × Draft)) (stop : ObjectStop)
  /-- The text ends before a value, or a key has no value. -/
  | absent (fault : SyntaxFault)
  /-- Something that starts no value. -/
  | stray
  /-- A word that starts like `null`, `true` or `false` and goes on otherwise. -/
  | badWord (fault : SyntaxFault)
  /-- A numeral that breaks off. -/
  | badNumber (reading : SyntaxFault)
  /-- A string that breaks off: the fault when it is read, and when it is passed over. -/
  | badString (reading skipping : SyntaxFault)
deriving Inhabited

/-- The tokens of JSON text. -/
inductive Token where
  | openArray
  | closeArray
  | openObject
  | closeObject
  | comma
  | colon
  /-- A value without parts. -/
  | scalar (value : Draft)
  /-- A value that the text breaks off in. -/
  | broken (value : Draft)
  | stray
deriving Inhabited

/-- Blanks between tokens. -/
def isSpace (b : UInt8) : Bool :=
  b == 32 || b == 10 || b == 9 || b == 13

/-- What follows a word of which the first letter has been read. -/
def readWord : Bytes → Bytes → Except SyntaxFault Bytes
  | [], rest => .ok rest
  | _ :: _, [] => .error .endInValue
  | w :: word, b :: rest => if w == b then readWord word rest else .error .badWord

theorem readWord_length_le {word bytes rest : Bytes} (h : readWord word bytes = .ok rest) :
    rest.length ≤ bytes.length := by
  fun_induction readWord word bytes with
  | case1 => exact Nat.le_of_eq (congrArg List.length (Except.ok.inj h).symm)
  | case2 => simp at h
  | case3 w word b rest hb ih => exact Nat.le_succ_of_le (ih h)
  | case4 => simp at h

/-- The fault that is met when a string is read. -/
def readingFault (bytes : Bytes) : SyntaxFault :=
  match readContent bytes with
  | .error fault => fault
  | .ok _ => .endInString

/-- The tokens of a text, up to the first place where no token can be read. -/
def tokens : Bytes → List Token
  | [] => []
  | b :: rest =>
    if isSpace b then tokens rest
    else if b == 91 then .openArray :: tokens rest
    else if b == 93 then .closeArray :: tokens rest
    else if b == 123 then .openObject :: tokens rest
    else if b == 125 then .closeObject :: tokens rest
    else if b == 44 then .comma :: tokens rest
    else if b == 58 then .colon :: tokens rest
    else if b == 34 then
      match _h : skipText rest with
      | .ok after => .scalar (.string (readText rest)) :: tokens after
      | .error skipping => [.broken (.badString (readingFault rest) skipping)]
    else if b == 110 then
      match _h : readWord [117, 108, 108] rest with
      | .ok after => .scalar .null :: tokens after
      | .error fault => [.broken (.badWord fault)]
    else if b == 116 then
      match _h : readWord [114, 117, 101] rest with
      | .ok after => .scalar (.bool true) :: tokens after
      | .error fault => [.broken (.badWord fault)]
    else if b == 102 then
      match _h : readWord [97, 108, 115, 101] rest with
      | .ok after => .scalar (.bool false) :: tokens after
      | .error fault => [.broken (.badWord fault)]
    else if b == 45 || isDigit b then
      match _h : Numeral.read (b :: rest) with
      | .ok (numeral, after) => .scalar (.number numeral.value) :: tokens after
      | .error cut => [.broken (.badNumber cut.fault)]
    else [.stray]
termination_by bytes => bytes.length
decreasing_by
  all_goals simp_wf
  · have := skipText_length_lt _h; omega
  · have := readWord_length_le _h; omega
  · have := readWord_length_le _h; omega
  · have := readWord_length_le _h; omega
  · have := Numeral.read_length_lt _h; simpa using this

/-- What a value is, for a message about its type; a fault if it cannot be read. -/
def Draft.found : Draft → Except SyntaxFault Found
  | null => .ok .null
  | bool value => .ok (.bool value)
  | number value => value.map .number
  | string text => text.map .string
  | array _ _ => .ok .sequence
  | object _ _ => .ok .map
  | absent fault => .error fault
  | stray => .error .noValue
  | badWord fault => .error fault
  | badNumber reading => .error reading
  | badString reading _ => .error reading

/-- A key and its draft. -/
abbrev Draft.Member := Except SyntaxFault String × Draft

/-- An open bracket or brace that waits for a value; what came before, the last first. -/
inductive Frame where
  | item (items : List Draft)
  | member (members : List Draft.Member) (key : Except SyntaxFault String)
deriving Inhabited

/-- A tree under construction, by what may come next. -/
inductive Builder where
  | value (outer : List Frame)
  | arrayStart (outer : List Frame)
  | arrayNext (items : List Draft) (outer : List Frame)
  | objectStart (outer : List Frame)
  | objectKey (members : List Draft.Member) (outer : List Frame)
  | objectColon (members : List Draft.Member) (key : Except SyntaxFault String)
      (outer : List Frame)
  | objectNext (members : List Draft.Member) (outer : List Frame)
  /-- The tree is there; `surplus` says whether more tokens followed. -/
  | done (root : Draft) (surplus : Bool)
deriving Inhabited

namespace Builder

/-- Put a finished value where it is waited for. -/
def deliver (value : Draft) : List Frame → Builder
  | [] => .done value false
  | .item items :: outer => .arrayNext (value :: items) outer
  | .member members key :: outer => .objectNext ((key, value) :: members) outer

/-- The tree around a value that the text breaks off in. -/
def breakOff (value : Draft) : List Frame → Draft
  | [] => value
  | .item items :: outer => breakOff (.array (value :: items).reverse .ended) outer
  | .member members key :: outer =>
    breakOff (.object ((key, value) :: members).reverse .ended) outer

/-- Give up inside an array. -/
def stopArray (items : List Draft) (stop : ArrayStop) (outer : List Frame) : Builder :=
  .done (breakOff (.array items.reverse stop) outer) false

/-- Give up inside an object. -/
def stopObject (members : List Draft.Member) (stop : ObjectStop) (outer : List Frame) : Builder :=
  .done (breakOff (.object members.reverse stop) outer) false

/-- A token where a value is wanted. -/
def stepValue (outer : List Frame) : Token → Builder
  | .openArray => .arrayStart outer
  | .openObject => .objectStart outer
  | .scalar node => deliver node outer
  | .broken node => .done (breakOff node outer) false
  | .closeArray =>
    match outer with
    | .item items@(_ :: _) :: outer => stopArray items .commaClosed outer
    | outer => .done (breakOff .stray outer) false
  | _ => .done (breakOff .stray outer) false

/-- A token where a key is wanted. -/
def stepKey (members : List Draft.Member) (outer : List Frame) : Token → Builder
  | .scalar (.string key) => .objectColon members key outer
  | .broken (.badString reading skipping) =>
    stopObject members (.badKey reading skipping) outer
  | _ => stopObject members .strayKey outer

/-- Take one token in. -/
def step : Builder → Token → Builder
  | .value outer, token => stepValue outer token
  | .arrayStart outer, .closeArray => deliver (.array [] .closed) outer
  | .arrayStart outer, token => stepValue (.item [] :: outer) token
  | .arrayNext items outer, .comma => .value (.item items :: outer)
  | .arrayNext items outer, .closeArray => deliver (.array items.reverse .closed) outer
  | .arrayNext items outer, _ => stopArray items .unseparated outer
  | .objectStart outer, .closeObject => deliver (.object [] .closed) outer
  | .objectStart outer, token => stepKey [] outer token
  | .objectKey members outer, .closeObject => stopObject members .commaClosed outer
  | .objectKey members outer, token => stepKey members outer token
  | .objectColon members key outer, .colon => .value (.member members key :: outer)
  | .objectColon members key outer, _ =>
    stopObject ((key, .absent .noColon) :: members) .ended outer
  | .objectNext members outer, .comma => .objectKey members outer
  | .objectNext members outer, .closeObject => deliver (.object members.reverse .closed) outer
  | .objectNext members outer, _ => stopObject members .unseparated outer
  | .done root _, _ => .done root true

/-- The tree, after the last token, and whether tokens were left over. -/
def finish : Builder → Draft × Bool
  | .value (.item items@(_ :: _) :: outer) =>
    (breakOff (.array items.reverse .commaEnded) outer, false)
  | .value outer => (breakOff (.absent .endInValue) outer, false)
  | .arrayStart outer => (breakOff (.array [] .ended) outer, false)
  | .arrayNext items outer => (breakOff (.array items.reverse .ended) outer, false)
  | .objectStart outer => (breakOff (.object [] .ended) outer, false)
  | .objectKey members outer => (breakOff (.object members.reverse .commaEnded) outer, false)
  | .objectColon members key outer =>
    (breakOff (.object ((key, .absent .endInObject) :: members).reverse .ended) outer, false)
  | .objectNext members outer => (breakOff (.object members.reverse .ended) outer, false)
  | .done root surplus => (root, surplus)

end Builder

/-- The draft of a text, and whether more follows after the first value. -/
def Draft.ofBytes (bytes : Bytes) : Draft × Bool :=
  ((tokens bytes).foldl Builder.step (.value [])).finish

/-- The fault of an array that is read to its end. -/
def ArrayStop.reading : ArrayStop → Except SyntaxFault Unit
  | closed => .ok ()
  | ended => .error .endInList
  | unseparated => .error .noListSeparator
  | commaEnded => .error .endInValue
  | commaClosed => .error .trailingComma

/-- The fault of an array that is passed over. -/
def ArrayStop.skipping : ArrayStop → Except SyntaxFault Unit
  | closed => .ok ()
  | ended => .error .endInList
  | unseparated => .error .noListSeparator
  | commaEnded => .error .endInValue
  | commaClosed => .error .noValue

/-- The fault of an array that is to end after the items that were wanted. -/
def ArrayStop.ending : ArrayStop → Except SyntaxFault Unit
  | closed => .ok ()
  | ended => .error .endInList
  | unseparated => .error .trailingCharacters
  | commaEnded => .error .trailingCharacters
  | commaClosed => .error .trailingComma

/-- The fault of an object that is read to its end. -/
def ObjectStop.reading : ObjectStop → Except SyntaxFault Unit
  | closed => .ok ()
  | ended => .error .endInObject
  | unseparated => .error .noObjectSeparator
  | commaEnded => .error .endInValue
  | commaClosed => .error .trailingComma
  | strayKey => .error .keyNotText
  | badKey reading _ => .error reading

/-- The fault of an object that is passed over. -/
def ObjectStop.skipping : ObjectStop → Except SyntaxFault Unit
  | closed => .ok ()
  | ended => .error .endInObject
  | unseparated => .error .noObjectSeparator
  | commaEnded => .error .endInObject
  | commaClosed => .error .keyNotText
  | strayKey => .error .keyNotText
  | badKey _ skipping => .error skipping

mutual

/-- Pass over a value: its form counts, its content does not. -/
def Draft.skip : Draft → Except SyntaxFault Unit
  | .array items stop => do
    Draft.skipItems items
    stop.skipping
  | .object members stop => do
    Draft.skipMembers members
    stop.skipping
  | .absent fault => .error fault
  | .stray => .error .noValue
  | .badWord fault => .error fault
  | .badNumber _ => .error .badNumber
  | .badString _ skipping => .error skipping
  | _ => .ok ()

/-- Pass over the items of an array. -/
def Draft.skipItems : List Draft → Except SyntaxFault Unit
  | [] => .ok ()
  | item :: rest => do
    Draft.skip item
    Draft.skipItems rest

/-- Pass over the members of an object. -/
def Draft.skipMembers : List (Except SyntaxFault String × Draft) → Except SyntaxFault Unit
  | [] => .ok ()
  | (_, value) :: rest => do
    Draft.skip value
    Draft.skipMembers rest

end

end Hostlink.Json
