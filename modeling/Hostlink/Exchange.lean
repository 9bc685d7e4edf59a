import Hostlink.Correlation
import Hostlink.Envelope
import Hostlink.Metrics.Registry
/-!
The exchange with the host, as the parts of a plugin share it: the queue of outgoing envelopes, the
requests of the plugin that wait for a response, and the metrics.

A request waits under its correlation, together with a token of its own, so that a later request
with the same correlation is not taken for it. Who sent it holds the token and finds its fate there.
-/

namespace Hostlink

/-- The queue of outgoing envelopes. Once closed it takes no more. -/
structure Outbox where
  /-- The envelopes, the last one first. -/
  latest : List Envelope := []
  isOpen : Bool := true

namespace Outbox

/-- The envelopes in their order. -/
def queue (outbox : Outbox) : List Envelope :=
  outbox.latest.reverse

/-- Put an envelope at the end. -/
def send? (outbox : Outbox) (envelope : Envelope) : Option Outbox :=
  if outbox.isOpen then some { outbox with latest := envelope :: outbox.latest } else none

theorem queue_send? {outbox after : Outbox} {envelope : Envelope}
    (h : outbox.send? envelope = some after) : after.queue = outbox.queue ++ [envelope] := by
  unfold send? at h
  split at h
  · rw [← Option.some.inj h]
    exact List.reverse_cons
  · simp at h

/-- Take all envelopes out. -/
def clear (outbox : Outbox) : Outbox :=
  { outbox with latest := [] }

/-- Take no more envelopes. -/
def close (outbox : Outbox) : Outbox :=
  { outbox with isOpen := false }

/-- Put an envelope at the end, or drop it if the queue is closed. -/
def offer (outbox : Outbox) (envelope : Envelope) : Outbox :=
  (outbox.send? envelope).getD outbox

end Outbox

/-- What has become of a request of the plugin. -/
inductive Fate where
  | waiting
  | answered (response : Response)
  /-- The exchange was closed first. -/
  | closed
  /-- The time to wait was over first. -/
  | expired

/-- What a fate means to who waits; nothing yet, while the request waits. -/
def Fate.result? : Fate → Option (Except Fault Response)
  | waiting => none
  | answered response => some (.ok response)
  | closed => some (.error .connectionClosed)
  | expired => some (.error .timeout)

/-- A request that somebody still cares for. -/
structure Waiter where
  token : Nat
  correlation : String
  /-- The time until which it waits, in milliseconds. -/
  deadline : Option Nat
  fate : Fate := .waiting

/-- The exchange with the host. -/
structure Exchange where
  outbox : Outbox := {}
  metrics : Metrics := {}
  /-- Whether requests are refused. -/
  isClosed : Bool := false
  /-- The correlations that are waited for, each with the token of its request. -/
  pending : List (String × Nat) := []
  waiters : List Waiter := []
  nextToken : Nat := 0

namespace Exchange

/-- What is said when the queue of outgoing envelopes is closed. -/
def outboxClosed : Fault :=
  .sinkUnavailable "outbox closed"

/-- Send an envelope without waiting for an answer. -/
def send (x : Exchange) (envelope : Envelope) : Except Fault Exchange :=
  match x.outbox.send? envelope with
  | some outbox => .ok { x with outbox }
  | none => .error outboxClosed

/--
Send a request and wait for its response, until a deadline if there is one. Only one request may
wait under a correlation.
-/
def post (x : Exchange) (request : Request) (deadline : Option Nat) :
    Except Fault (Nat × Exchange) :=
  if x.isClosed then .error .connectionClosed
  else if (x.pending.lookup request.correlation).isSome then
    .error (.internal ("correlation " ++ request.correlation ++ " already pending"))
  else
    match x.outbox.send? (.request request) with
    | none => .error outboxClosed
    | some outbox =>
      let token := x.nextToken
      let waiter : Waiter := { token, correlation := request.correlation, deadline }
      .ok (token, { x with
        outbox
        pending := (request.correlation, token) :: x.pending
        waiters := waiter :: x.waiters
        nextToken := token + 1 })

/-- Give the waiters that satisfy a condition their fate, and stop waiting for them. -/
def settle (x : Exchange) (who : Waiter → Bool) (fate : Fate) : Exchange :=
  let tokens := (x.waiters.filter who).map (·.token)
  { x with
    pending := x.pending.filter fun entry => !tokens.contains entry.2
    waiters := x.waiters.map fun w => if who w then { w with fate } else w }

/-- Whether a request waits under its correlation. -/
def isPending (x : Exchange) (w : Waiter) : Bool :=
  x.pending.contains (w.correlation, w.token)

/-- Take a response in; tells whether a request waited for it. -/
def complete (x : Exchange) (response : Response) : Bool × Exchange :=
  match x.pending.lookup response.correlation with
  | some token =>
    let pending := x.pending.filter (·.1 != response.correlation)
    (true, { x.settle (·.token == token) (.answered response) with pending })
  | none =>
    let orphanResponses := x.metrics.orphanResponses.increment []
    (false, { x with metrics := { x.metrics with orphanResponses } })

/-- The number of requests that wait. -/
def pendingCount (x : Exchange) : Nat :=
  x.pending.length

/-- Stop caring for a request. -/
def forget (x : Exchange) (token : Nat) : Exchange :=
  { x with
    pending := x.pending.filter (·.2 != token)
    waiters := x.waiters.filter (·.token != token) }

/-- Refuse requests from now on, and let none wait any longer. -/
def close (x : Exchange) : Exchange :=
  { x.settle x.isPending .closed with isClosed := true, pending := [] }

/-- Let the requests expire whose deadline has come. -/
def expire (x : Exchange) (now : Nat) : Exchange :=
  x.settle (fun w => w.deadline.any (· ≤ now) && x.isPending w) .expired

/-- The first deadline after `time` of the requests that wait, if it comes by the time `stop`. -/
def nextDeadline? (x : Exchange) (time stop : Nat) : Option Nat :=
  let isDue (deadline : Nat) : Bool := time < deadline && deadline ≤ stop
  let due := x.waiters.filter fun w => w.deadline.any isDue && x.isPending w
  ((due.filterMap (·.deadline)).filter isDue).min?

theorem of_nextDeadline?_eq_some {x : Exchange} {time stop deadline : Nat}
    (h : x.nextDeadline? time stop = some deadline) : time < deadline ∧ deadline ≤ stop := by
  have mem := (List.mem_filter.1 (List.min?_mem h)).2
  simp only [Bool.and_eq_true, decide_eq_true_eq] at mem
  exact mem

/-- The fate of a request that somebody still cares for. -/
def fate? (x : Exchange) (token : Nat) : Option Fate :=
  (x.waiters.find? (·.token == token)).map (·.fate)

end Exchange
end Hostlink
