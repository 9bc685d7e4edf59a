import Hostlink.Exchange
/-!
Posting and closing, taken apart into the steps that others may come between. A post looks whether
requests are refused, registers its request, and puts it into the queue; if the queue is closed,
what was registered is forgotten again. Closing refuses requests first, and then lets none wait.
-/

namespace Hostlink.Exchange

/-- Let a request wait, unless one waits under its correlation. Its token is spent in any case. -/
def register (x : Exchange) (request : Request) (deadline : Option Nat) :
    Except Fault Nat × Exchange :=
  let token := x.nextToken
  if (x.pending.lookup request.correlation).isSome then
    (.error (.internal ("correlation " ++ request.correlation ++ " already pending")),
      { x with nextToken := token + 1 })
  else
    let waiter : Waiter := { token, correlation := request.correlation, deadline }
    (.ok token, { x with
      pending := (request.correlation, token) :: x.pending
      waiters := waiter :: x.waiters
      nextToken := token + 1 })

/--
Put a request that was registered into the queue. If that is closed, the request is forgotten.
-/
def enqueue (x : Exchange) (request : Request) (token : Nat) : Except Fault Nat × Exchange :=
  match x.outbox.send? (.request request) with
  | some outbox => (.ok token, { x with outbox })
  | none => (.error outboxClosed, x.forget token)

/-- A post with what it leaves behind, also when it fails. -/
def attempt (x : Exchange) (request : Request) (deadline : Option Nat) :
    Except Fault Nat × Exchange :=
  if x.isClosed then (.error .connectionClosed, x)
  else
    match x.register request deadline with
    | (.error fault, x) => (.error fault, x)
    | (.ok token, x) => x.enqueue request token

/-- A post is its steps, one right after the other. -/
theorem post_eq (x : Exchange) (request : Request) (deadline : Option Nat) :
    x.post request deadline =
      (x.attempt request deadline).1.map fun token => (token, (x.attempt request deadline).2) := by
  unfold post attempt register enqueue
  split
  · rfl
  · split
    · rfl
    · dsimp only
      cases x.outbox.send? (.request request) <;> rfl

/-- Refuse requests from now on. -/
def refuse (x : Exchange) : Exchange :=
  { x with isClosed := true }

/-- Let none of the requests wait any longer. -/
def abandon (x : Exchange) : Exchange :=
  { x.settle x.isPending .closed with pending := [] }

theorem close_eq (x : Exchange) : x.close = x.refuse.abandon :=
  rfl

end Hostlink.Exchange
