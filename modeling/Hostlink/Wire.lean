import Hostlink.Envelope
/-!
The JSON form of envelopes. An envelope is a record of path, correlation, channel, payload and
error; a request has a path and no error, a response has no path. Absent parts are not written. A
payload that is there may be null, while for path, channel and error null is the same as absent.
-/

namespace Hostlink

open Json

namespace Envelope

variable {π : Type}

/-- What is said of a request with an error. -/
def errorInRequest : String := "request must not carry an error"

/-- The fields of an envelope. -/
def fields (π : Type) [Decode π] : List Json.Field :=
  [.of (Option String) "path" .optional, .of String "correlation" .required,
    .of (Option Channel) "channel" .optional, .of π "payload" .defaulted,
    .of (Option String) "error" .optional]

/-- The envelope with given parts: a path makes it a request. -/
def ofParts (path : Option String) (correlation : String) (channel : Option Channel)
    (payload : Option π) (error : Option String) : Except Fault (Envelope π) :=
  match path with
  | none => .ok (.response { correlation, channel, payload, error })
  | some path =>
    if h : path = "" then .error (.malformedPayload Request.emptyPath)
    else if error.isSome then .error (.malformedPayload errorInRequest)
    else .ok (.request { path, correlation, channel, payload, path_ne := h })

instance [Decode π] : Decode (Envelope π) where
  decode source draft := do
    let found ← readFields "WireEnvelope" (fields π) source draft
    let path ← found.getOption String "path"
    let correlation ← found.get String "correlation"
    let channel ← found.getOption Channel "channel"
    let payload ← found.get? π "payload"
    let error ← found.getOption String "error"
    (ofParts path correlation channel payload error).mapError fun e => .refused e.message

/-- The texts of the members of an envelope, in the order of its fields. -/
def memberTexts [Encode π] (envelope : Envelope π) : Except Misfit (List (List Char)) :=
  match envelope with
  | .request r => do
    let channel ← optionalMember "channel" r.channel
    let payload ← optionalMember "payload" r.payload
    return [memberChars "path" (textChars r.path),
      memberChars "correlation" (textChars r.correlation)] ++ channel ++ payload
  | .response r => do
    let channel ← optionalMember "channel" r.channel
    let payload ← optionalMember "payload" r.payload
    let error ← optionalMember "error" r.error
    return [memberChars "correlation" (textChars r.correlation)] ++ channel ++ payload ++ error

instance [Encode π] : Encode (Envelope π) where
  chars envelope := return objectChars (← envelope.memberTexts)

end Envelope

namespace Wire

/-- The name of the format. -/
def name : String := "json"

/-- The bytes of a value. -/
def encode {α : Type} [Encode α] (a : α) : Except Fault Bytes :=
  (write a).mapError fun e => .internal ("json encode failed: " ++ e.message)

/-- The value that bytes stand for. -/
def decode {α : Type} [Decode α] (bytes : Bytes) : Except Fault α :=
  (read bytes).mapError fun e => .malformedPayload ("invalid envelope json: " ++ e.message)

end Wire
end Hostlink
