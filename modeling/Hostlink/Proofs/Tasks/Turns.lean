import Hostlink.Proofs.Exchange.History
import Hostlink.Proofs.Session
/-!
Serving, as three tasks do it side by side. One reads, and brings the others to their end when the
input is over; one works on the requests of the host; one writes what is in the queue of outgoing
envelopes. They take their steps in any order, and anybody may do something with the exchange
between them.
-/

namespace Hostlink

namespace Outbox

/-- Take the first envelope out. -/
def take? (outbox : Outbox) : Option (Envelope × Outbox) :=
  match outbox.queue with
  | [] => none
  | envelope :: rest => some (envelope, { outbox with latest := rest.reverse })

/-- What was put at the end of a queue. -/
def added (before after : Outbox) : List Envelope :=
  after.queue.drop before.queue.length

variable {before after outbox : Outbox} {envelopes : List Envelope} {envelope : Envelope}

theorem queue_of_take?_eq_none (h : outbox.take? = none) : outbox.queue = [] := by
  unfold take? at h
  split at h
  · assumption
  · contradiction

theorem of_take?_eq_some (h : outbox.take? = some (envelope, after)) :
    outbox.queue = envelope :: after.queue ∧ after.isOpen = outbox.isOpen := by
  unfold take? at h
  split at h
  · contradiction
  · next queue =>
    cases h
    exact ⟨queue.trans (congrArg _ (List.reverse_reverse _).symm), rfl⟩

theorem added_self (outbox : Outbox) : outbox.added outbox = [] :=
  List.drop_length

theorem added_of_take? (h : outbox.take? = some (envelope, after)) : outbox.added after = [] := by
  unfold added
  rw [(of_take?_eq_some h).1]
  exact List.drop_eq_nil_of_le (Nat.le_succ _)

theorem Adds.added_eq (adds : before.Adds envelopes after) (isOpen : before.isOpen = true) :
    before.added after = envelopes := by
  unfold added
  rw [(adds isOpen).2, List.drop_left]

theorem Adds.added (adds : before.Adds envelopes after) :
    before.Adds (before.added after) after := by
  intro isOpen
  rw [adds.added_eq isOpen]
  exact adds isOpen

end Outbox

/-- Whether this is up to whoever takes the envelopes out of the queue. -/
def Exchange.Operation.receives : Operation → Bool
  | clear | closeOutbox => true
  | _ => false

/-- The next step of an action: it has come to a halt, or it goes on. -/
def Action.advance (s : Surroundings) : Action → (Progress ⊕ Action) × Surroundings
  | .settle settlement => (.inl (.settled settlement), s)
  | .ask request wait resume =>
    match s.exchange.post request (some (s.now + wait.getD s.wait)) with
    | .error fault => (.inr (resume (.error fault)), s)
    | .ok (token, exchange) =>
      if wait = some 0 then
        (.inr (resume (.error .timeout)), { s with exchange := exchange.forget token })
      else (.inl (.waiting token resume), { s with exchange })
  | .log event next => (.inr next, s.log event)
  | .inspect resume => (.inr (resume s.exchange.metrics s.exchange.pendingCount), s)

/-- An action proceeds by its steps. -/
theorem Action.proceed_eq (action : Action) (s : Surroundings) :
    action.proceed s =
      match action.advance s with
      | (.inl progress, s) => (progress, s)
      | (.inr next, s) => next.proceed s := by
  cases action with
  | ask request wait resume =>
    rw [proceed, advance]
    cases s.exchange.post request (some (s.now + wait.getD s.wait)) with
    | error fault => rfl
    | ok posted =>
      dsimp only
      split <;> rfl
  | _ => rfl

/-- The sink is closed. -/
def Session.shut {σ : Type} (sink : Sink σ) (s : Session σ) : Session σ :=
  let (_, metrics, state) := Outlet.close sink s.metrics s.sink
  { s with sink := state }.withMetrics metrics

/-- How far the task has come that reads. -/
inductive Reader where
  | reading
  /-- Nothing more will be read. -/
  | ended (result : Except Fault Unit)
  /-- The exchange is closed, and requests are still worked on. -/
  | closed (result : Except Fault Unit)
  /-- The writer has been notified, and may still write. -/
  | notified (result : Except Fault Unit)
  /-- The sink is closed. -/
  | finished (result : Except Fault Unit)

namespace Reader

def isReading : Reader → Bool
  | reading => true
  | _ => false

def hasNotified : Reader → Bool
  | notified _ | finished _ => true
  | _ => false

def isFinished : Reader → Bool
  | finished _ => true
  | _ => false

end Reader

/-- How far the task has come that works on requests. -/
inductive Worker where
  | idle
  /-- It does what is done about a request. -/
  | acting (request : Request) (started : Nat) (action : Action)
  /-- It waits for the response to a request of its own. -/
  | waiting (busy : Busy)
  | ended

/-- The request that is worked on. -/
def Worker.request? : Worker → Option Request
  | acting request _ _ => some request
  | waiting busy => some busy.request
  | _ => none

theorem Worker.ne_ended {worker : Worker} {request : Request}
    (h : worker.request? = some request) : worker ≠ .ended := by
  cases worker with
  | ended => contradiction
  | _ => exact nofun

/-- How far the task has come that writes. -/
inductive Writer where
  /-- It looks for an envelope, as it does before it looks for a notice. -/
  | polling
  /-- There was no envelope; it looks for a notice. -/
  | looking
  /-- It writes an envelope, before it has seen a notice or after. -/
  | writing (envelope : Envelope) (drains : Bool)
  /-- It has seen the notice, and takes the envelopes that are left. -/
  | draining
  /-- There was no envelope left; it is about to give up the queue. -/
  | leaving
  | ended

namespace Writer

/-- It looks for the next envelope, before it has seen a notice or after. -/
def seeking (drains : Bool) : Writer :=
  if drains then draining else polling

/-- The envelope that was taken out of the queue and is not sent yet. -/
def inHand? : Writer → Option Envelope
  | writing envelope _ => some envelope
  | _ => none

/-- Whether the notice has been seen. -/
def drains : Writer → Bool
  | writing _ drains => drains
  | draining | leaving | ended => true
  | _ => false

/-- Whether no more envelopes are taken. -/
def isDone : Writer → Bool
  | leaving | ended => true
  | _ => false

def isEnded : Writer → Bool
  | ended => true
  | _ => false

theorem eq_ended {writer : Writer} (h : writer.isEnded = true) : writer = .ended := by
  cases writer with
  | ended => rfl
  | _ => contradiction

@[simp]
theorem inHand?_seeking (drains : Bool) : (seeking drains).inHand? = none := by
  cases drains <;> rfl

@[simp]
theorem drains_seeking (drains : Bool) : (seeking drains).drains = drains := by
  cases drains <;> rfl

@[simp]
theorem isDone_seeking (drains : Bool) : (seeking drains).isDone = false := by
  cases drains <;> rfl

theorem seeking_ne_ended (drains : Bool) : seeking drains ≠ ended := by
  cases drains <;> exact nofun

theorem drains_of_isDone {writer : Writer} (done : writer.isDone = true) :
    writer.drains = true := by
  cases writer with
  | leaving => rfl
  | ended => rfl
  | _ => contradiction

end Writer

/-- The tasks that serve a session, each with how far it has come. -/
structure Tasks (σ : Type) where
  session : Session σ
  reader : Reader := .reading
  worker : Worker := .idle
  writer : Writer := .polling
  /-- Whether there is a notice that the writer has not seen. -/
  notice : Bool := false

namespace Tasks

variable {σ : Type}

/-- What happens while the tasks take their turns. -/
inductive Event where
  | read (request : Request)
  | settled (settled : Settled)
  | enqueued (envelope : Envelope)
  /-- An envelope is handed over to the outlet, which sends it. -/
  | handed (envelope : Envelope)
  /-- The writer is told to come to its end. -/
  | notified
  /-- The sink is closed. -/
  | shut

/-- Who takes the next step. -/
inductive Turn where
  | reader
  | worker
  | writer
  /-- Somebody posts or sends something, stops waiting, or does anything else with the exchange. -/
  | client (op : Exchange.Operation)
  | arrival (arrival : Arrival)
  | endInput
  | time (now : Nat)

def outbox (t : Tasks σ) : Outbox :=
  t.session.exchange.outbox

/-- The requests that have been read and are not settled yet. -/
def undone (t : Tasks σ) : List Request :=
  t.worker.request?.toList ++ t.session.queue

/-- The tasks at their beginning. A request that was waited with is waited with by the worker. -/
def start (s : Session σ) : Tasks σ where
  session := { s with busy := none }
  worker := match s.busy with
    | some busy => .waiting busy
    | none => .idle

/-- The next step of reading. When the input is over, all that is left is brought to its end. -/
def advanceReader (sink : Sink σ) (t : Tasks σ) : Option Event × Tasks σ :=
  match t.reader with
  | .reading =>
    let (reading, intake, metrics) := t.session.intake.next t.session.metrics
    let session := { t.session with intake }.withMetrics metrics
    match reading with
    | .envelope envelope =>
      (envelope.request?.map .read, { t with session := session.receive [envelope] })
    | .blocked => (none, { t with session })
    | .ended => (none, { t with session, reader := .ended (.ok ()) })
    | .failed fault => (none, { t with session, reader := .ended (.error fault) })
  | .ended result =>
    (none, { t with
      session := t.session.withExchange t.session.exchange.close, reader := .closed result })
  | .closed result =>
    match t.worker with
    | .ended => (some .notified, { t with notice := true, reader := .notified result })
    | _ => (none, t)
  | .notified result =>
    match t.writer with
    | .ended => (some .shut, { t with session := t.session.shut sink, reader := .finished result })
    | _ => (none, t)
  | .finished _ => (none, t)

/-- A request is settled. -/
def settle (t : Tasks σ) (started : Nat) (request : Request) (settlement : Option Settlement) :
    Option Event × Tasks σ :=
  let (_, surroundings) :=
    t.session.surroundings.conclude t.session.replyUnroutable started request settlement
  (some (.settled ⟨request, settlement⟩),
    { t with session := { t.session with surroundings }, worker := .idle })

/-- The next step of working on requests, one by one. -/
def advanceWorker (t : Tasks σ) : Option Event × Tasks σ :=
  match t.worker with
  | .idle =>
    match t.session.queue with
    | [] => (none, if t.reader.isReading then t else { t with worker := .ended })
    | request :: queue =>
      let t := { t with session := { t.session with queue } }
      let now := t.session.surroundings.now
      match t.session.routes.call request.path request with
      | some action => (none, { t with worker := .acting request now action })
      | none => t.settle now request none
  | .acting request started action =>
    let (stride, surroundings) := action.advance t.session.surroundings
    let t := { t with session := { t.session with surroundings } }
    match stride with
    | .inl (.settled settlement) => t.settle started request (some settlement)
    | .inl (.waiting token resume) =>
      (none, { t with worker := .waiting { request, started, token, resume } })
    | .inr next => (none, { t with worker := .acting request started next })
  | .waiting busy =>
    match (t.session.exchange.fate? busy.token).bind Fate.result? with
    | none => (none, t)
    | some result =>
      (none, { t with
        session := t.session.withExchange (t.session.exchange.forget busy.token)
        worker := .acting busy.request busy.started (busy.resume result) })
  | .ended => (none, t)

/-- The writer takes an envelope out of the queue, or comes to what it does if there is none. -/
def takeOr (t : Tasks σ) (drains : Bool) (none : Writer) : Tasks σ :=
  match t.outbox.take? with
  | some (envelope, outbox) =>
    { t with
      session := t.session.withExchange { t.session.exchange with outbox }
      writer := .writing envelope drains }
  | .none => { t with writer := none }

/--
The next step of writing. A queue with nobody left to send ends it too; but the task that reads has
its share of the queue until it is over.
-/
def advanceWriter (sink : Sink σ) (t : Tasks σ) : Option Event × Tasks σ :=
  match t.writer with
  | .polling => (none, t.takeOr false (if t.reader.isFinished then .leaving else .looking))
  | .looking =>
    if t.notice then (none, { t with notice := false, writer := .draining })
    else (none, { t with writer := .polling })
  | .writing envelope drains =>
    (some (.handed envelope), { t with
      session := (t.session.send sink envelope).2
      writer := .seeking drains })
  | .draining => (none, t.takeOr true .leaving)
  | .leaving => (none, { t with session := t.session.abandon, writer := .ended })
  | .ended => (none, t)

/-- The next step of who takes it; only the writer takes envelopes out of the queue. -/
def advance (sink : Sink σ) (t : Tasks σ) : Turn → Option Event × Tasks σ
  | .reader => t.advanceReader sink
  | .worker => t.advanceWorker
  | .writer => t.advanceWriter sink
  | .client op =>
    (none,
      if op.receives then t
      else { t with session := t.session.withExchange (t.session.exchange.step op) })
  | .arrival arrival => (none, { t with session := t.session.arrive arrival })
  | .endInput => (none, { t with session := t.session.endInput })
  | .time now => (none, { t with session := t.session.setTime now })

/-- What happens in a step, with what was put into the queue of outgoing envelopes. -/
def happens (t : Tasks σ) (step : Option Event × Tasks σ) : List Event :=
  (t.outbox.added step.2.outbox).map .enqueued ++ step.1.toList

/-- What happens in a turn, and the tasks after it. -/
def turn (sink : Sink σ) (t : Tasks σ) (turn : Turn) : List Event × Tasks σ :=
  let step := t.advance sink turn
  (t.happens step, step.2)

/-- What happens when turns are taken in the order of a schedule, and the tasks after it. -/
def run (sink : Sink σ) (t : Tasks σ) : List Turn → List Event × Tasks σ
  | [] => ([], t)
  | turn :: schedule =>
    let (events, t) := t.turn sink turn
    let (more, t) := t.run sink schedule
    (events ++ more, t)

end Tasks

end Hostlink
