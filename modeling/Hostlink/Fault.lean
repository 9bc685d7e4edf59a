/-!
What can go wrong on a link between a host and a plugin, and how each fault is named and worded.
-/

namespace Hostlink

/-- A failure of the link, by cause. -/
inductive Fault where
  /-- The bytes of a frame, or a payload, do not have the wanted form. -/
  | malformedPayload (text : String)
  /-- A frame announces, or would need, more bytes than are allowed. -/
  | frameTooLarge (length limit : Nat)
  /-- No route matches a path. -/
  | unroutable (text : String)
  /-- A handler failed. -/
  | handlerFailure (text : String)
  /-- The outgoing side is closed or cannot be written. -/
  | sinkUnavailable (text : String)
  /-- A route pattern is not well-formed. -/
  | invalidRoute (text : String)
  /-- The settings were rejected. -/
  | config (text : String)
  /-- The settings are of a version that is not known. -/
  | unsupportedVersion
  /-- The peer, or this side, has closed the link. -/
  | connectionClosed
  /-- A response did not come in time. -/
  | timeout
  | internal (text : String)
deriving Repr, DecidableEq, Inhabited

namespace Fault

/-- The stable code of a fault, as logs and metrics show it. -/
def code : Fault → String
  | malformedPayload _ => "MALFORMED_PAYLOAD"
  | frameTooLarge _ _ => "FRAME_TOO_LARGE"
  | unroutable _ => "UNROUTABLE"
  | handlerFailure _ => "HANDLER_FAILURE"
  | sinkUnavailable _ => "SINK_UNAVAILABLE"
  | invalidRoute _ => "INVALID_ROUTE"
  | config _ => "CONFIG"
  | unsupportedVersion => "UNSUPPORTED_VERSION"
  | connectionClosed => "CONNECTION_CLOSED"
  | timeout => "TIMEOUT"
  | internal _ => "INTERNAL"

/-- The name of the kind of fault, without its text. -/
def kind : Fault → String
  | malformedPayload _ => "MalformedPayload"
  | frameTooLarge _ _ => "FrameTooLarge"
  | unroutable _ => "Unroutable"
  | handlerFailure _ => "HandlerFailure"
  | sinkUnavailable _ => "SinkUnavailable"
  | invalidRoute _ => "InvalidRoute"
  | config _ => "Config"
  | unsupportedVersion => "UnsupportedVersion"
  | connectionClosed => "ConnectionClosed"
  | timeout => "Timeout"
  | internal _ => "Internal"

/-- The message that a fault is reported with. -/
def message : Fault → String
  | malformedPayload text => "malformed payload: " ++ text
  | frameTooLarge length limit =>
    "frame too large: " ++ toString length ++ " bytes (max " ++ toString limit ++ ")"
  | unroutable text => "unroutable: " ++ text
  | handlerFailure text => "handler failure: " ++ text
  | sinkUnavailable text => "sink unavailable: " ++ text
  | invalidRoute text => "invalid route: " ++ text
  | config text => "config: " ++ text
  | unsupportedVersion => "unsupported version"
  | connectionClosed => "connection closed"
  | timeout => "request timed out"
  | internal text => "internal: " ++ text

/--
Reading may go on after a malformed frame, since its bytes have been consumed; after any other fault
it may not.
-/
def recoverable : Fault → Bool
  | malformedPayload _ => true
  | _ => false

/-- The fault of a given kind; the length and the limit serve `FrameTooLarge` alone. -/
def ofKind? (kind text : String) (length limit : Nat) : Option Fault :=
  match kind with
  | "MalformedPayload" => some (malformedPayload text)
  | "FrameTooLarge" => some (frameTooLarge length limit)
  | "Unroutable" => some (unroutable text)
  | "HandlerFailure" => some (handlerFailure text)
  | "SinkUnavailable" => some (sinkUnavailable text)
  | "InvalidRoute" => some (invalidRoute text)
  | "Config" => some (config text)
  | "UnsupportedVersion" => some unsupportedVersion
  | "ConnectionClosed" => some connectionClosed
  | "Timeout" => some timeout
  | "Internal" => some (internal text)
  | _ => none

end Fault
end Hostlink
