import Hostlink.Json.Decode
import Hostlink.Yaml.Datum
/-!
Typed reading of YAML: scalars of a wanted type, and records, which are mappings of known keys. The
first misfit in the order of the text is reported, with the path of keys that leads to it.
-/

namespace Hostlink.Yaml

/-- Why a node cannot be read as a type. -/
inductive Misfit where
  | invalidType (found : Found) (wanted : String)
  | invalidValue (found : Found) (wanted : String)
  | missingField (name : String)
  | duplicateField (name : String)
  | unknownField (name : String) (known : List String)
deriving Repr, Inhabited

/-- The message for a misfit. -/
def Misfit.message : Misfit → String
  | invalidType found wanted => "invalid type: " ++ found.words ++ ", expected " ++ wanted
  | invalidValue found wanted => "invalid value: " ++ found.words ++ ", expected " ++ wanted
  | missingField name => "missing field `" ++ name ++ "`"
  | duplicateField name => "duplicate field `" ++ name ++ "`"
  | unknownField name known =>
    "unknown field `" ++ name ++ "`, expected " ++ Json.oneOf known

/-- Why a text cannot be read. -/
inductive Fault where
  /-- It is no YAML, or more than one document. -/
  | malformed
  /-- The node at the end of a path of keys does not fit. -/
  | misfit (path : List String) (cause : Misfit)
deriving Repr, Inhabited

/-- The message for a text that cannot be read. -/
def Fault.message : Fault → String
  | malformed => "malformed document"
  | misfit [] cause => cause.message
  | misfit path cause => ".".intercalate path ++ ": " ++ cause.message

/-- A node to be read, and where it stands. -/
structure Site where
  document : Document
  path : List String
  node : Node
deriving Inhabited

namespace Site

/-- The node itself, or the one that an alias stands for. -/
def target (site : Site) : Node :=
  match site.node with
  | .alias anchor => (site.document.anchored? anchor).getD .cut
  | node => node

def fail {α : Type} (site : Site) (cause : Misfit) : Except Fault α :=
  .error (.misfit site.path cause)

/-- The node is of another type than the wanted one. -/
def mismatch {α : Type} (site : Site) (wanted : String) : Except Fault α :=
  match site.target with
  | .scalar props style text =>
    match Datum.ofScalar props.tag style text with
    | .ok datum => site.fail (.invalidType (.datum datum) wanted)
    | .error wanted => site.fail (.invalidValue (.datum (.text text)) wanted)
  | .sequence _ _ => site.fail (.invalidType .sequence wanted)
  | .mapping _ _ => site.fail (.invalidType .map wanted)
  | .alias _ | .cut => .error .malformed

/-- Whether a scalar in this style may be more than a text: a plain one, or a tagged block. -/
def isTyped (tag : String) (props : Props) (style : Style) : Bool :=
  style = .plain || (style = .literal && props.tag = some (commonTag tag))

/-- Read a truth value. -/
def bool (site : Site) : Except Fault Bool :=
  match site.target with
  | .scalar props style text =>
    match bool? text with
    | some value => if isTyped "bool" props style then .ok value else site.mismatch "a boolean"
    | none => site.mismatch "a boolean"
  | _ => site.mismatch "a boolean"

/-- Read an integer from zero up to a limit, under the name of its type. -/
def natural (site : Site) (limit : Nat) (wanted : String) : Except Fault Nat :=
  match site.target with
  | .scalar props style text =>
    match unsigned? 64 text.toList with
    | some value =>
      if !isTyped "int" props style then site.mismatch wanted
      else if limit < value then site.fail (.invalidValue (.datum (.int value)) wanted)
      else .ok value.toNat
    | none => site.mismatch wanted
  | _ => site.mismatch wanted

/-- Read a text: that of any scalar. -/
def text (site : Site) (wanted : String) : Except Fault String :=
  match site.target with
  | .scalar _ _ text => .ok text
  | _ => site.mismatch wanted

end Site

/-- A field of a record: its key, and how its value changes the record. -/
structure Field (ρ : Type) where
  name : String
  read : Site → Except Fault (ρ → ρ)

variable {ρ : Type}

/-- The word that stands in a path for a key that is no scalar of its own. -/
def Node.pathWord : Node → String
  | .scalar _ _ text => text
  | _ => "?"

/-- Read the entries of a mapping into a record, given the keys that were there before. -/
def readEntries (fields : List (Field ρ)) (site : Site) :
    List (Node × Node) → List String → ρ → Except Fault (ρ × List String)
  | [], seen, record => .ok (record, seen)
  | (keyNode, node) :: rest, seen, record => do
    let key ← { site with node := keyNode : Site }.text "field identifier"
    match fields.find? (·.name == key) with
    | none => site.fail (.unknownField key (fields.map (·.name)))
    | some field =>
      if seen.contains key then site.fail (.duplicateField key)
      let change ← field.read { site with node, path := site.path ++ [keyNode.pathWord] }
      readEntries fields site rest (key :: seen) (change record)

/--
Read a record that starts from given values, and tell the keys that were there. A value that is left
out is a record without entries.
-/
def readRecord (name : String) (fields : List (Field ρ)) (start : ρ) (site : Site) :
    Except Fault (ρ × List String) :=
  match site.target with
  | .mapping _ entries => readEntries fields site entries [] start
  | .scalar _ .plain "" => .ok (start, [])
  | _ => site.mismatch ("struct " ++ name)

/-- Read the only document of a text; a text without document has an empty root. -/
def readDocument {α : Type} (read : Site → Except Fault α) (text : String) : Except Fault α := do
  let document := Document.ofText text
  let value ← read { document, path := [], node := document.root.getD (.empty {}) }
  if document.alone then return value else throw .malformed

end Hostlink.Yaml
