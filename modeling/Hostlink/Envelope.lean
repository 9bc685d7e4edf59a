import Hostlink.Channel
import Hostlink.Fault
/-!
Envelopes: the messages on a link. A request names a path and asks for a response with its
correlation; a response carries a payload, an error, both or neither.
-/

namespace Hostlink

open Json

/-- A request for what the path names. The path is never empty. -/
structure Request (π : Type := Value) where
  path : String
  correlation : String
  channel : Option Channel := none
  payload : Option π := none
  path_ne : path ≠ ""

/-- The answer to the request with the same correlation. -/
structure Response (π : Type := Value) where
  correlation : String
  channel : Option Channel := none
  payload : Option π := none
  error : Option String := none

/-- A message of either kind. -/
inductive Envelope (π : Type := Value) where
  | request (request : Request π)
  | response (response : Response π)

/-- A payload read as a type; an absent payload reads as null. -/
def payloadAs (α : Type) [Decode α] (payload : Option Value) : Except Fault α :=
  (ofValue (payload.getD .null)).mapError fun e =>
    .malformedPayload ("payload shape mismatch: " ++ e.message)

namespace Request

/-- What is said of a request without a path. -/
def emptyPath : String := "request path must not be empty"

/-- A request without channel and payload. -/
def make {π : Type} (correlation path : String) : Except Fault (Request π) :=
  if h : path = "" then .error (.malformedPayload emptyPath)
  else .ok { path, correlation, path_ne := h }

/-- The request with data as its payload. -/
def withData (request : Request) (payload : Datum) : Except Fault Request :=
  match payload.value with
  | .ok value => .ok { request with payload := some value }
  | .error e => .error (.internal ("payload encode failed: " ++ e.message))

end Request

namespace Response

/-- The empty response to a request: it has the request's correlation and channel. -/
def ofRequest {π ρ : Type} (request : Request π) : Response ρ :=
  { correlation := request.correlation, channel := request.channel }

/-- The error of a response, or else its payload. -/
def result {π : Type} (response : Response π) : Except String (Option π) :=
  match response.error with
  | some error => .error error
  | none => .ok response.payload

end Response

namespace Envelope

variable {π : Type}

def correlation : Envelope π → String
  | request r => r.correlation
  | response r => r.correlation

def channel : Envelope π → Option Channel
  | request r => r.channel
  | response r => r.channel

/-- The path of a request; a response has none. -/
def path? : Envelope π → Option String
  | request r => some r.path
  | response _ => none

def isRequest : Envelope π → Bool
  | request _ => true
  | response _ => false

/-- The name of the kind of an envelope. -/
def kind : Envelope π → String
  | request _ => "request"
  | response _ => "response"

end Envelope
end Hostlink
