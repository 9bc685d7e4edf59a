import Hostlink.Dispatch
import Hostlink.Intake
import Hostlink.Outlet
import Hostlink.Settings
/-!
A session of a plugin with its host. First the host shakes hands: it sends the configuration of the
plugin. Then the plugin serves: it reads all that has arrived, writes what is in the queue of
outgoing envelopes, dispatches the requests that it has read one by one, and writes again. When the
input has ended, requests of the plugin no longer wait, the requests of the host that are left are
dispatched, everything is written, and the sink is closed.
-/

namespace Hostlink

/-- A request of the host whose action waits for a response to a request of its own. -/
structure Busy where
  request : Request
  started : Nat
  token : Nat
  resume : Except Fault Response → Action

/-- A session, with the state of its sink. -/
structure Session (σ : Type) where
  intake : Intake
  outlet : Outlet
  sink : σ
  surroundings : Surroundings
  routes : Routes := {}
  replyUnroutable : Bool := false
  /-- The requests of the host that are to be dispatched. -/
  queue : List Request := []
  busy : Option Busy := none

namespace Session

variable {σ : Type}

/-- The path of the request that shakes hands. -/
def initializePath : String := "/initialize"

/-- The path of the request for the metrics. -/
def metricsPath : String := "/plugin.metrics"

/-- The name under which the number of requests that wait is shown. -/
def pendingName : String := "plugwire_pending_requests"

/-- The handler that replies with the text of the metrics. -/
def metricsHandler : Handler := fun _ _ =>
  .inspect fun m pending =>
    .settle (.reply (.string (m.text [(pendingName, UInt64.ofNat pending)])))

/-- A session by its settings. -/
def ofSettings (settings : Settings) (sink : σ) : Session σ where
  intake :=
    { reader := { limit := some settings.transport.maxFrame }
      chunk := settings.transport.readChunk }
  outlet :=
    { limit := some settings.transport.maxFrame, segment := settings.transport.writeChunk }
  sink := sink
  surroundings := { wait := settings.handling.requestTimeout }
  routes :=
    if settings.handling.exposeMetrics then
      match Route.Table.register {} metricsPath metricsHandler with
      | .ok (_, routes) => routes
      | .error _ => {}
    else {}
  replyUnroutable := settings.handling.replyUnroutable

def exchange (s : Session σ) : Exchange :=
  s.surroundings.exchange

def metrics (s : Session σ) : Metrics :=
  s.exchange.metrics

/-- Replace the exchange. -/
def withExchange (s : Session σ) (exchange : Exchange) : Session σ :=
  { s with surroundings := { s.surroundings with exchange } }

/-- Replace the metrics. -/
def withMetrics (s : Session σ) (metrics : Metrics) : Session σ :=
  s.withExchange { s.exchange with metrics }

/-- Something arrives at the source. -/
def arrive (s : Session σ) (arrival : Arrival) : Session σ :=
  let source := s.intake.source
  let source := { source with arrivals := source.arrivals ++ [arrival] }
  { s with intake := { s.intake with source } }

/-- Nothing more will arrive at the source. -/
def endInput (s : Session σ) : Session σ :=
  { s with intake := { s.intake with source := { s.intake.source with isEnded := true } } }

/-- Write an envelope to the sink. -/
def send (sink : Sink σ) (s : Session σ) (envelope : Envelope) : Except Fault Unit × Session σ :=
  let (result, metrics, state) := s.outlet.send sink envelope s.metrics s.sink
  (result, { s with sink := state }.withMetrics metrics)

/-- How far the host has come in shaking hands. -/
inductive Handshake (γ : Type) where
  /-- It has not sent its request yet. -/
  | waiting
  | accepted (config : γ)
  | refused (fault : Fault)

/-- The payload of the request that shakes hands. -/
structure Initialization (γ : Type) where
  config : γ

instance {γ : Type} [Json.Decode γ] : Json.Decode (Initialization γ) where
  decode source draft := do
    let found ←
      Json.readFields "InitializePayload" [.of γ "config" .required] source draft
    return ⟨← found.get γ "config"⟩

/-- The configuration that a request brings. -/
def configOf (γ : Type) [Json.Decode γ] (request : Request) : Except Fault γ :=
  (payloadAs (Initialization γ) request.payload).map (·.config)

/-- Answer the request that shakes hands. -/
def answer (γ : Type) [Json.Decode γ] (sink : Sink σ) (s : Session σ) (request : Request) :
    Handshake γ × Session σ :=
  let reply : Response := Response.ofRequest request
  match configOf γ request with
  | .ok config =>
    match s.send sink (.response reply) with
    | (.ok (), s) => (.accepted config, s)
    | (.error fault, s) => (.refused fault, s)
  | .error fault =>
    match s.send sink (.response { reply with error := some fault.message }) with
    | (.ok (), s) => (.refused fault, s)
    | (.error fault, s) => (.refused fault, s)

/--
Read until the host has shaken hands. Responses are taken in; other requests are passed over. What
comes after the request that shakes hands is left for later.
-/
def shakeHands (γ : Type) [Json.Decode γ] (sink : Sink σ) (s : Session σ) :
    Handshake γ × Session σ :=
  match _h : s.intake.next s.metrics with
  | (.envelope (.response response), intake, m) =>
    let s := { s with intake }.withMetrics m
    shakeHands γ sink (s.withExchange (s.exchange.complete response).2)
  | (.envelope (.request request), intake, m) =>
    let s := { s with intake }.withMetrics m
    if request.path = initializePath then s.answer γ sink request else shakeHands γ sink s
  | (.blocked, intake, m) => (.waiting, { s with intake }.withMetrics m)
  | (.ended, intake, m) => (.refused .connectionClosed, { s with intake }.withMetrics m)
  | (.failed fault, intake, m) => (.refused fault, { s with intake }.withMetrics m)
termination_by s.intake.weight
decreasing_by
  · exact Intake.next_weight_lt _h
  · exact Intake.next_weight_lt _h

/-- Take envelopes in: requests wait to be dispatched, responses go to who waits for them. -/
def receive (s : Session σ) (envelopes : List Envelope) : Session σ :=
  let requests := envelopes.filterMap fun
    | .request request => some request
    | .response _ => none
  let exchange := envelopes.foldl (fun exchange envelope =>
    match envelope with
    | .request _ => exchange
    | .response response => (exchange.complete response).2) s.exchange
  { s with queue := s.queue ++ requests }.withExchange exchange

/-- Dispatch requests in order, as long as none has to wait. -/
def dispatchEach (routes : Routes) (replyUnroutable : Bool) (s : Surroundings) :
    List Request → Surroundings × List Request × Option Busy
  | [] => (s, [], none)
  | request :: rest =>
    match s.dispatch routes replyUnroutable request with
    | (.concluded _, s) => dispatchEach routes replyUnroutable s rest
    | (.waiting token resume, s) => (s, rest, some { request, started := s.now, token, resume })

/-- Dispatch the requests in the queue, as far as they go. -/
def dispatchQueue (s : Session σ) : Session σ :=
  let (surroundings, queue, busy) :=
    dispatchEach s.routes s.replyUnroutable s.surroundings s.queue
  { s with surroundings, queue, busy }

/-- Go on with the request that waits, if it need not wait any longer, then with the queue. -/
def dispatch (s : Session σ) : Session σ :=
  match s.busy with
  | none => s.dispatchQueue
  | some busy =>
    match (s.exchange.fate? busy.token).bind Fate.result? with
    | none => s
    | some result =>
      let surroundings := (s.withExchange (s.exchange.forget busy.token)).surroundings
      match surroundings.follow s.replyUnroutable busy.started busy.request
          (busy.resume result) with
      | (.concluded _, surroundings) => { s with surroundings, busy := none }.dispatchQueue
      | (.waiting token resume, surroundings) =>
        { s with surroundings, busy := some { busy with token, resume } }

/-- Write all that is in the queue of outgoing envelopes. -/
def write (sink : Sink σ) (s : Session σ) : Session σ :=
  let (metrics, state) := s.outlet.sendAll sink s.exchange.outbox.queue s.metrics s.sink
  let s := { s with sink := state }.withMetrics metrics
  s.withExchange { s.exchange with outbox := s.exchange.outbox.clear }

/-- The input is over: settle what is left, write it, and close the sink. -/
def finish (sink : Sink σ) (s : Session σ) : Session σ :=
  let s := (((s.withExchange s.exchange.close).write sink).dispatch).write sink
  let (_, metrics, state) := Outlet.close sink s.metrics s.sink
  let s := { s with sink := state }.withMetrics metrics
  s.withExchange { s.exchange with outbox := s.exchange.outbox.close }

/--
Serve what has arrived. Tells the envelopes that were read, and how serving ended, if the input is
over or has failed.
-/
def serve (sink : Sink σ) (s : Session σ) :
    Option (Except Fault Unit) × List Envelope × Session σ :=
  let (envelopes, last, intake, metrics) := s.intake.drain s.metrics
  let s := ({ s with intake }.withMetrics metrics).receive envelopes
  match last with
  | .ended => (some (.ok ()), envelopes, s.finish sink)
  | .failed fault => (some (.error fault), envelopes, s.finish sink)
  | _ => (none, envelopes, (s.write sink).dispatch.write sink)

/-- Set the clock: requests expire whose time to wait is over. -/
def setTime (s : Session σ) (now : Nat) : Session σ :=
  { s with surroundings := { s.surroundings with now, exchange := s.exchange.expire now } }

/-- The session is given up: no envelope is taken any more. -/
def abandon (s : Session σ) : Session σ :=
  s.withExchange { s.exchange with outbox := s.exchange.outbox.clear.close }

end Session
end Hostlink
