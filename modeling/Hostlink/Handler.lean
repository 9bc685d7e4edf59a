import Hostlink.Exchange
import Hostlink.Log
import Hostlink.Route.Table
/-!
Handlers of requests, which the author of a plugin writes. What a handler does is a value: it
settles the request, or it asks the host, logs an event or looks at the exchange, and then goes on.
-/

namespace Hostlink

/-- How a handler settles a request. -/
inductive Settlement where
  /-- With a value for the response. -/
  | reply (value : Json.Value)
  /-- Without a response. -/
  | silence
  /-- With the message of an error. -/
  | failure (message : String)
  /-- By breaking off, with or without a message. -/
  | panic (message : Option String)
deriving Inhabited

/-- What a handler does, step by step. -/
inductive Action where
  | settle (settlement : Settlement)
  /--
  Send a request to the host, and go on with its response, or with a fault if there is none. How
  many milliseconds to wait is up to the settings, if it is not said.
  -/
  | ask (request : Request) (wait : Option Nat) (resume : Except Fault Response → Action)
  | log (event : Log.Event) (next : Action)
  /-- Go on with the metrics and the number of requests that wait for a response. -/
  | inspect (resume : Metrics → Nat → Action)

instance : Inhabited Action where
  default := .settle .silence

/-- A handler: what is done about a request with the parameters of its path. -/
abbrev Handler := Request → Route.Params → Action

namespace Handler

/-- What becomes of data that a handler gives back; null is no response. -/
def settleData (data : Json.Datum) : Settlement :=
  match data.value with
  | .error misfit => .failure misfit.message
  | .ok .null => .silence
  | .ok value => .reply value

/-- The handler that reads the payload as a type, and gives back data or the message of an error. -/
def typed (α : Type) [Json.Decode α]
    (f : α → Request → Route.Params → Except String Json.Datum) : Handler :=
  fun request params =>
    .settle <|
      match payloadAs α request.payload with
      | .error fault => .failure fault.message
      | .ok payload =>
        match f payload request params with
        | .error message => .failure message
        | .ok data => settleData data

end Handler

/-- The routes of a plugin. -/
abbrev Routes := Route.Table Handler

/-- What is done about a request, as if it had the given path; nothing, if no route matches. -/
def Routes.call (routes : Routes) (path : String) (request : Request) : Option Action :=
  (routes.find? path).map fun (entry, params) => entry.handler request params

end Hostlink
