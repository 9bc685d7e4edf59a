import Hostlink.Decimal.Notation
import Hostlink.Envelope
import Hostlink.Severity
import Hostlink.Text.Quoted
/-!
Log events and how they are forwarded to the host: as requests that nobody waits to see answered.
The events of the link itself are left out, since to forward one could cause another.
-/

namespace Hostlink.Log

/-- The value of a field of a log event. -/
inductive FieldValue where
  | text (value : String)
  /-- A text that is shown in quotes. -/
  | quoted (value : String)
  | int (value : Int)
  | bool (value : Bool)
  | float (value : Float)
deriving Repr, Inhabited

/-- How the value of a field is shown. -/
def FieldValue.words : FieldValue → String
  | text value => value
  | quoted value => Text.quoted value
  | int value => toString value
  | bool value => if value then "true" else "false"
  | float value => Notation.readable.write value

/-- A log event. -/
structure Event where
  severity : Severity
  /-- What the event comes from. -/
  target : String
  fields : List (String × FieldValue)
deriving Repr, Inhabited

/-- The field that holds the message of an event. -/
def messageField : String := "message"

namespace Event

/-- The message of an event; the last one, if there are several. -/
def message (event : Event) : String :=
  (event.fields.reverse.lookup messageField).elim "" FieldValue.words

/-- The other fields of an event, with their names. -/
def details (event : Event) : String :=
  " ".intercalate <| (event.fields.filter (·.1 != messageField)).map fun (name, value) =>
    name ++ "=" ++ value.words

/-- The text of an event: its message, then its other fields. -/
def text (event : Event) : String :=
  if event.details.isEmpty then event.message
  else if event.message.isEmpty then event.details
  else event.message ++ " " ++ event.details

end Event

/-- The path of the requests that carry events to the host. -/
def path : String := "/log.create"

/-- The starts of the targets of the link itself. -/
def ownTargets : List String :=
  ["plugwire_core", "plugwire_plugin"]

/-- Whether an event comes from the link itself. -/
def Event.isOwn (event : Event) : Bool :=
  ownTargets.any fun own => own.toList.isPrefixOf event.target.toList

/-- The payload that carries an event. -/
def Event.payload (event : Event) : Json.Value :=
  .object [("level", .string event.severity.name), ("message", .string event.text),
    ("target", .string event.target)]

/-- The request that carries an event. -/
def Event.request (event : Event) (correlation : String) : Request where
  path := path
  correlation := correlation
  payload := some event.payload
  path_ne := by decide

/-- What forwards events of some severity and above to a place, once there is one. -/
structure Forwarder (ω : Type) where
  severity : Severity
  place : Option ω := none
deriving Repr, Inhabited

namespace Forwarder

variable {ω : Type}

/-- Offer a place for events. The first one counts; tells whether it was this one. -/
def attach (f : Forwarder ω) (place : ω) : Bool × Forwarder ω :=
  match f.place with
  | some _ => (false, f)
  | none => (true, { f with place := some place })

/-- The place that an event is forwarded to, if it is. -/
def accepts (f : Forwarder ω) (event : Event) : Option ω :=
  if event.severity.rank ≤ f.severity.rank && !event.isOwn then f.place else none

end Forwarder
end Hostlink.Log
