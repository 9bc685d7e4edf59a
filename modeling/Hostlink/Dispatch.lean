import Hostlink.Handler
/-!
Dispatching: how an action goes on until it settles its request or has to wait, and what a settled
request leads to. One request does not affect what comes of another.
-/

namespace Hostlink

/-- What the actions of a plugin have to do with, apart from their requests. -/
structure Surroundings where
  exchange : Exchange := {}
  /-- What forwards log events, if they are to be. -/
  forwarder : Option (Log.Forwarder Unit) := none
  correlations : Correlation.Source := {}
  /-- The time, in milliseconds. -/
  now : Nat := 0
  /-- How many milliseconds a response is waited for, if it is not said. -/
  wait : Nat := 30000

namespace Surroundings

/-- Log an event. -/
def log (s : Surroundings) (event : Log.Event) : Surroundings :=
  match s.forwarder.bind (·.accepts event) with
  | none => s
  | some _ =>
    let (correlation, correlations) := s.correlations.draw
    let outbox := s.exchange.outbox.offer (.request (event.request correlation))
    { s with correlations, exchange := { s.exchange with outbox } }

end Surroundings

/-- Where an action has come to. -/
inductive Progress where
  | settled (settlement : Settlement)
  /-- It waits for the response to its own request, under a token. -/
  | waiting (token : Nat) (resume : Except Fault Response → Action)

/-- Go on with an action until it settles its request or has to wait; no time is over at once. -/
def Action.proceed (s : Surroundings) : Action → Progress × Surroundings
  | .settle settlement => (.settled settlement, s)
  | .ask request wait resume =>
    match s.exchange.post request (some (s.now + wait.getD s.wait)) with
    | .error fault => (resume (.error fault)).proceed s
    | .ok (token, exchange) =>
      if wait = some 0 then
        (resume (.error .timeout)).proceed { s with exchange := exchange.forget token }
      else (.waiting token resume, { s with exchange })
  | .log event next => next.proceed (s.log event)
  | .inspect resume => (resume s.exchange.metrics s.exchange.pendingCount).proceed s

/-- What came of a request. -/
inductive Outcome where
  | replied
  | silent
  | failed (message : String)
  | unroutable
deriving Repr, DecidableEq, Inhabited

/-- The label of an outcome in metrics. -/
def Outcome.label : Outcome → String
  | replied => "replied"
  | silent => "silent"
  | failed _ => "failed"
  | unroutable => "unroutable"

/-- The message of a request that was settled by breaking off. -/
def panicMessage (message : Option String) : String :=
  "handler panicked: " ++ message.getD "unknown panic"

/-- What comes of a request that was settled so; one without a route is settled by nothing. -/
def Outcome.ofSettlement : Option Settlement → Outcome
  | none => unroutable
  | some (.reply _) => replied
  | some .silence => silent
  | some (.failure message) => failed message
  | some (.panic message) => failed (panicMessage message)

/-- The response to a request that was settled so. Without a route there is one only if told. -/
def Response.ofSettlement (replyUnroutable : Bool) (request : Request)
    (settlement : Option Settlement) : Option Response :=
  let reply : Response := Response.ofRequest request
  match settlement with
  | none =>
    if replyUnroutable then
      some { reply with error := some (Fault.unroutable request.path).message }
    else none
  | some (.reply value) => some { reply with payload := some value }
  | some .silence => none
  | some (.failure message) => some { reply with error := some message }
  | some (.panic message) => some { reply with error := some (panicMessage message) }

namespace Metrics

/-- Count a settlement. -/
def countSettlement (m : Metrics) : Option Settlement → Metrics
  | none => { m with unroutable := m.unroutable.increment [] }
  | some (.failure _) =>
    { m with handlerFailures := m.handlerFailures.increment [("reason", "error")] }
  | some (.panic _) =>
    { m with handlerFailures := m.handlerFailures.increment [("reason", "panic")] }
  | some _ => m

/-- Count an outcome, and the time that it took. -/
def countOutcome (m : Metrics) (outcome : Outcome) (micros : Nat) : Metrics :=
  { m with
    dispatchDuration := m.dispatchDuration.observe [("outcome", outcome.label)] micros }

end Metrics

/-- Conclude a request that was settled so: count it, and send its response, if it has one. -/
def Exchange.conclude (x : Exchange) (replyUnroutable : Bool) (request : Request)
    (settlement : Option Settlement) (micros : Nat) : Outcome × Exchange :=
  let outcome := Outcome.ofSettlement settlement
  let metrics := (x.metrics.countSettlement settlement).countOutcome outcome micros
  let outbox := match Response.ofSettlement replyUnroutable request settlement with
    | some response => x.outbox.offer (.response response)
    | none => x.outbox
  (outcome, { x with metrics, outbox })

/-- How far the dispatching of a request has come. -/
inductive Dispatched where
  | concluded (outcome : Outcome)
  /-- Its action waits for a response, under a token. -/
  | waiting (token : Nat) (resume : Except Fault Response → Action)

namespace Surroundings

/-- Conclude a request that was begun at a given time. -/
def conclude (s : Surroundings) (replyUnroutable : Bool) (started : Nat) (request : Request)
    (settlement : Option Settlement) : Outcome × Surroundings :=
  let (outcome, exchange) :=
    s.exchange.conclude replyUnroutable request settlement ((s.now - started) * 1000)
  (outcome, { s with exchange })

/-- Go on with the action of a request that was begun at a given time. -/
def follow (s : Surroundings) (replyUnroutable : Bool) (started : Nat) (request : Request)
    (action : Action) : Dispatched × Surroundings :=
  match action.proceed s with
  | (.settled settlement, s) =>
    let (outcome, s) := s.conclude replyUnroutable started request (some settlement)
    (.concluded outcome, s)
  | (.waiting token resume, s) => (.waiting token resume, s)

/-- Begin with a request. -/
def dispatch (s : Surroundings) (routes : Routes) (replyUnroutable : Bool) (request : Request) :
    Dispatched × Surroundings :=
  match routes.call request.path request with
  | some action => s.follow replyUnroutable s.now request action
  | none =>
    let (outcome, s) := s.conclude replyUnroutable s.now request none
    (.concluded outcome, s)

end Surroundings
end Hostlink
