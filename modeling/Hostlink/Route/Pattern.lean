import Hostlink.Fault
import Hostlink.Text.Quoted
import Hostlink.Text.Reading
/-!
Patterns of paths, and the parameters that a path gives to a route. A path is cut at its slashes; a
pattern says for each part what it has to be, and which parameter takes it.
-/

namespace Hostlink.Route

/-- The parameters of a path: names and values, in the order of the pattern. -/
structure Params where
  entries : List (String × String) := []
deriving Repr, DecidableEq, Inhabited

namespace Params

/-- The value of a parameter; the first one, should a name occur twice. -/
def get? (params : Params) (name : String) : Option String :=
  params.entries.lookup name

/-- The value of a parameter, read as a type. -/
def read (α : Type) [Text.OfText α] (params : Params) (name : String) : Except Fault α :=
  match params.get? name with
  | none => .error (.malformedPayload ("missing path parameter " ++ Text.quoted name))
  | some text =>
    (Text.ofText text).mapError fun reason =>
      .malformedPayload ("path parameter " ++ Text.quoted name ++ ": " ++ reason)

end Params

/-- The parts of a text between its slashes. -/
def cutAtSlashes : List Char → List (List Char)
  | [] => [[]]
  | c :: rest =>
    if c == '/' then [] :: cutAtSlashes rest
    else
      match cutAtSlashes rest with
      | [] => [[c]]
      | part :: parts => (c :: part) :: parts

/--
The parts of a path, which starts with a slash and may end with one more; none, if it does not start
with a slash.
-/
def parts? (path : String) : Option (List String) :=
  match path.toList with
  | '/' :: rest =>
    let inner := if rest.getLast? == some '/' then rest.dropLast else rest
    some (if inner.isEmpty then [] else (cutAtSlashes inner).map String.ofList)
  | _ => none

/-- What a pattern asks of a part of a path. -/
inductive Segment where
  /-- This very text. -/
  | literal (text : String)
  /-- Any text but the empty one, for a parameter. -/
  | param (name : String)
  /-- The same, if the path has such a part. -/
  | optional (name : String)
  /-- All parts that are left, of which there has to be one. -/
  | wildcard
deriving Repr, DecidableEq, Inhabited

namespace Segment

/-- The name under which a wildcard gives the parts that it takes. -/
def wildcardName : String := "*"

/-- The name of the parameter that a segment gives. -/
def name? : Segment → Option String
  | literal _ => none
  | param name => some name
  | optional name => some name
  | wildcard => some wildcardName

end Segment

/-- Why a text is no pattern. -/
inductive Defect where
  | noSlash
  | emptySegment
  | wildcardInside
  | emptyName
  | optionalInside
  | duplicateName
deriving Repr, DecidableEq, Inhabited

/-- The words for a text that is no pattern. -/
def Defect.message : Defect → String
  | noSlash => "must start with '/'"
  | emptySegment => "empty segment"
  | wildcardInside => "'*' must be the last segment"
  | emptyName => "empty parameter name"
  | optionalInside => "optional parameter must be the last segment"
  | duplicateName => "duplicate parameter name"

/-- The name of a parameter and whether it is optional, given what follows the colon. -/
def paramName (text : List Char) : String × Bool :=
  if text.getLast? == some '?' then (String.ofList text.dropLast, true)
  else (String.ofList text, false)

/-- The segment that a part of a pattern stands for, behind parameters of the given names. -/
def Segment.ofPart (part : String) (last : Bool) (names : List String) : Except Defect Segment :=
  match part.toList with
  | [] => .error .emptySegment
  | ['*'] => if last then .ok .wildcard else .error .wildcardInside
  | ':' :: text =>
    let (name, isOptional) := paramName text
    if name.isEmpty then .error .emptyName
    else if isOptional && !last then .error .optionalInside
    else if names.contains name then .error .duplicateName
    else .ok (if isOptional then .optional name else .param name)
  | _ => .ok (.literal part)

/-- The segments that the parts of a pattern stand for. -/
def Segment.ofParts (names : List String) : List String → Except Defect (List Segment)
  | [] => .ok []
  | part :: rest => do
    let segment ← Segment.ofPart part rest.isEmpty names
    return segment :: (← Segment.ofParts (names ++ segment.name?.toList) rest)

/-- A pattern, with its text. -/
structure Pattern where
  text : String
  segments : List Segment
deriving Repr, DecidableEq, Inhabited

namespace Pattern

/-- The segments of a pattern. -/
def segmentsOf (text : String) : Except Defect (List Segment) :=
  match parts? text with
  | none => .error .noSlash
  | some parts => Segment.ofParts [] parts

/-- The pattern that a text spells. -/
def ofText (text : String) : Except Fault Pattern :=
  match segmentsOf text with
  | .ok segments => .ok { text, segments }
  | .error defect => .error (.invalidRoute (Text.quoted text ++ ": " ++ defect.message))

/-- The names of the parameters that a pattern can give, in its order. -/
def names (pattern : Pattern) : List String :=
  pattern.segments.filterMap Segment.name?

/-- The parameters that the parts of a path give to segments, if they match. -/
def bind : List Segment → List String → Option (List (String × String))
  | [], [] => some []
  | [], _ :: _ => none
  | .literal text :: segments, part :: parts => if part = text then bind segments parts else none
  | .literal _ :: _, [] => none
  | .param name :: segments, part :: parts =>
    if part = "" then none else (bind segments parts).map ((name, part) :: ·)
  | .param _ :: _, [] => none
  | .optional name :: segments, part :: parts =>
    if part = "" then none else (bind segments parts).map ((name, part) :: ·)
  | .optional _ :: segments, [] => bind segments []
  | .wildcard :: _, [] => none
  | .wildcard :: _, parts => some [(Segment.wildcardName, "/".intercalate parts)]

/-- The parameters that a path gives to a pattern, if it matches. -/
def matches? (pattern : Pattern) (path : String) : Option Params := do
  return ⟨← bind pattern.segments (← parts? path)⟩

end Pattern
end Hostlink.Route
