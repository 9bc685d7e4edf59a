import Hostlink.Proofs.Ending
import Hostlink.Proofs.Reading
import Hostlink.Proofs.Tasks.Turns
/-!
Serving a session all at once is one of the schedules of its tasks: first all that has arrived is
read, and then the one that writes and the one that works on requests take turns.
-/

namespace Hostlink

namespace Session

variable {σ : Type} {sink : Sink σ} {s : Session σ}

/-- An envelope is taken out of the queue and sent. -/
def sendFirst (sink : Sink σ) (s : Session σ) (envelope : Envelope) (rest : List Envelope) :
    Session σ :=
  let outbox := { s.exchange.outbox with latest := rest.reverse }
  ((s.withExchange { s.exchange with outbox }).send sink envelope).2

theorem write_of_queue_eq_nil (queue : s.exchange.outbox.queue = []) : s.write sink = s := by
  have none : s.exchange.outbox.latest = [] := List.reverse_eq_nil_iff.1 queue
  unfold write
  rw [queue]
  show s.withExchange { s.exchange with outbox := { s.exchange.outbox with latest := [] } } = s
  rw [← none]
  rfl

theorem write_of_queue_eq_cons {envelope : Envelope} {rest : List Envelope}
    (queue : s.exchange.outbox.queue = envelope :: rest) :
    s.write sink = (sendFirst sink s envelope rest).write sink := by
  have left : (sendFirst sink s envelope rest).exchange.outbox.queue = rest :=
    List.reverse_reverse rest
  unfold write
  rw [queue, left]
  rfl

/-- The sink is closed, and no envelope is taken any more. -/
def closeSink (sink : Sink σ) (s : Session σ) : Session σ :=
  let s := s.shut sink
  s.withExchange { s.exchange with outbox := s.exchange.outbox.close }

/-- What an action comes to when it goes on until it settles its request or has to wait. -/
def followed (s : Session σ) (request : Request) (started : Nat) (action : Action) : Session σ :=
  match s.surroundings.follow s.replyUnroutable started request action with
  | (.concluded _, surroundings) => { s with surroundings, busy := none }
  | (.waiting token resume, surroundings) =>
    { s with surroundings, busy := some { request, started, token, resume } }

theorem followed_of_goesOn {action next : Action} {surroundings : Surroundings}
    (h : action.advance s.surroundings = (.inr next, surroundings)) (request : Request)
    (started : Nat) :
    followed s request started action = followed { s with surroundings } request started next := by
  unfold followed Surroundings.follow
  rw [action.proceed_eq, h]

/-- The first request of the queue has been begun with, and goes on as far as it can. -/
def beginFirst (s : Session σ) (request : Request) (rest : List Request) : Session σ :=
  match s.surroundings.dispatch s.routes s.replyUnroutable request with
  | (.concluded _, surroundings) => { s with surroundings, queue := rest, busy := none }
  | (.waiting token resume, surroundings) =>
    { s with surroundings, queue := rest,
             busy := some { request, started := s.surroundings.now, token, resume } }

end Session

theorem Action.now_proceed (action : Action) (s : Surroundings) :
    (action.proceed s).2.now = s.now := by
  induction action generalizing s with
  | settle settlement => rfl
  | ask asked wait resume ih =>
    unfold proceed
    split
    · exact ih _ s
    · split
      · exact ih _ _
      · rfl
  | log event next ih =>
    refine (ih (s.log event)).trans ?_
    unfold Surroundings.log
    split <;> rfl
  | inspect resume ih => exact ih _ _ s

/-- No time passes while a request is begun with. -/
theorem Surroundings.now_of_waiting {s after : Surroundings} {routes : Routes} {reply : Bool}
    {request : Request} {token : Nat} {resume : Except Fault Response → Action}
    (h : s.dispatch routes reply request = (.waiting token resume, after)) : after.now = s.now := by
  unfold dispatch follow at h
  split at h
  · next action _ =>
    have same := action.now_proceed s
    split at h
    · cases h
    · next proceeded =>
      cases h
      rwa [proceeded] at same
  · cases h

namespace Tasks

open Session (takenIn readAll sendFirst followed beginFirst)

variable {σ : Type} {sink : Sink σ} {s : Session σ} {reader : Reader}

/-- The tasks come from one state to another when they take their turns in some order. -/
def Leads (sink : Sink σ) (t after : Tasks σ) : Prop :=
  ∃ schedule, (t.run sink schedule).2 = after

namespace Leads

variable {t between after : Tasks σ}

theorem refl (t : Tasks σ) : Leads sink t t :=
  ⟨[], rfl⟩

theorem turn (turn : Turn) (h : (t.advance sink turn).2 = after) : Leads sink t after :=
  ⟨[turn], h⟩

theorem trans (first : Leads sink t between) (second : Leads sink between after) :
    Leads sink t after := by
  obtain ⟨sooner, rfl⟩ := first
  obtain ⟨later, rfl⟩ := second
  refine ⟨sooner ++ later, ?_⟩
  induction sooner generalizing t with
  | nil => rfl
  | cons turn sooner ih => exact ih

end Leads

/-- The tasks while nobody is in the middle of something. -/
def resting (s : Session σ) (reader : Reader) : Tasks σ :=
  { start s with reader }

theorem leads_write (s : Session σ) (reader : Reader) :
    Leads sink (resting s reader) (resting (s.write sink) reader) := by
  generalize queue : s.exchange.outbox.queue = envelopes
  induction envelopes generalizing s with
  | nil =>
    rw [Session.write_of_queue_eq_nil queue]
    exact .refl _
  | cons envelope rest ih =>
    rw [Session.write_of_queue_eq_cons queue]
    have taken : (resting s reader).outbox.take? =
        some (envelope, { s.exchange.outbox with latest := rest.reverse }) := by
      show s.exchange.outbox.take? = _
      unfold Outbox.take?
      rw [queue]
    let left := { s.exchange.outbox with latest := rest.reverse }
    have takes : Leads sink (resting s reader)
        { resting (s.withExchange { s.exchange with outbox := left }) reader with
          writer := .writing envelope false } := by
      refine .turn .writer ?_
      show (resting s reader).takeOr false _ = _
      unfold takeOr
      rw [taken]
      rfl
    refine takes.trans (.trans ?_ (ih (sendFirst sink s envelope rest) (List.reverse_reverse rest)))
    exact .turn .writer rfl

/-- The tasks while an action is under way. -/
def busyWith (s : Session σ) (reader : Reader) (request : Request) (started : Nat)
    (action : Action) : Tasks σ :=
  { resting { s with busy := none } reader with worker := .acting request started action }

theorem leads_next {action next : Action} {surroundings : Surroundings}
    (h : action.advance s.surroundings = (.inr next, surroundings)) (request : Request)
    (started : Nat) :
    Leads sink (busyWith s reader request started action)
      (busyWith { s with surroundings } reader request started next) := by
  refine .turn .worker ?_
  show (busyWith s reader request started action).advanceWorker.2 = _
  unfold advanceWorker busyWith resting start
  dsimp only
  rw [h]

theorem leads_wait {action : Action} {token : Nat} {resume : Except Fault Response → Action}
    {surroundings : Surroundings}
    (h : action.advance s.surroundings = (.inl (.waiting token resume), surroundings))
    (request : Request) (started : Nat) :
    Leads sink (busyWith s reader request started action)
      (resting (followed s request started action) reader) := by
  refine .turn .worker ?_
  show (busyWith s reader request started action).advanceWorker.2 = _
  unfold followed Surroundings.follow
  rw [action.proceed_eq, h]
  unfold advanceWorker busyWith resting start
  dsimp only
  rw [h]

theorem leads_acting (action : Action) (s : Session σ) (request : Request) (started : Nat) :
    Leads sink (busyWith s reader request started action)
      (resting (followed s request started action) reader) := by
  induction action generalizing s with
  | settle settlement => exact .turn .worker rfl
  | ask asked wait resume ih =>
    cases posted : s.surroundings.exchange.post asked
        (some (s.surroundings.now + wait.getD s.surroundings.wait)) with
    | error fault =>
      have next : (Action.ask asked wait resume).advance s.surroundings =
          (.inr (resume (.error fault)), s.surroundings) := by
        rw [Action.advance, posted]
      rw [Session.followed_of_goesOn next]
      exact (leads_next next request started).trans (ih _ _)
    | ok result =>
      obtain ⟨token, exchange⟩ := result
      by_cases atOnce : wait = some 0
      · have next : (Action.ask asked wait resume).advance s.surroundings =
            (.inr (resume (.error .timeout)),
              { s.surroundings with exchange := exchange.forget token }) := by
          rw [Action.advance, posted]
          exact if_pos atOnce
        rw [Session.followed_of_goesOn next]
        exact (leads_next next request started).trans (ih _ _)
      · have waits : (Action.ask asked wait resume).advance s.surroundings =
            (.inl (.waiting token resume), { s.surroundings with exchange }) := by
          rw [Action.advance, posted]
          exact if_neg atOnce
        exact leads_wait waits request started
  | log event next ih =>
    rw [Session.followed_of_goesOn rfl]
    exact (leads_next rfl request started).trans (ih _)
  | inspect resume ih =>
    rw [Session.followed_of_goesOn rfl]
    exact (leads_next rfl request started).trans (ih _ _ _)

theorem leads_begin (idle : s.busy = none) {request : Request} {rest : List Request}
    (queue : s.queue = request :: rest) :
    Leads sink (resting s reader) (resting (beginFirst s request rest) reader) := by
  unfold beginFirst Surroundings.dispatch
  cases called : s.routes.call request.path request with
  | none =>
    refine .turn .worker ?_
    show (resting s reader).advanceWorker.2 = _
    unfold advanceWorker resting start
    rw [idle]
    dsimp only
    rw [queue]
    dsimp only
    rw [called]
    rfl
  | some action =>
    have begins : Leads sink (resting s reader)
        (busyWith { s with queue := rest } reader request s.surroundings.now action) := by
      refine .turn .worker ?_
      show (resting s reader).advanceWorker.2 = _
      unfold advanceWorker resting start
      rw [idle]
      dsimp only
      rw [queue]
      dsimp only
      rw [called]
      rfl
    exact begins.trans (leads_acting action { s with queue := rest } request s.surroundings.now)

theorem leads_dispatchQueue (s : Session σ) (idle : s.busy = none) :
    Leads sink (resting s reader) (resting s.dispatchQueue reader) := by
  generalize queue : s.queue = requests
  induction requests generalizing s with
  | nil =>
    have same : s.dispatchQueue = s := by
      unfold Session.dispatchQueue
      rw [queue]
      show { s with queue := [], busy := none } = s
      rw [← queue, ← idle]
    rw [same]
    exact .refl _
  | cons request rest ih =>
    refine (leads_begin idle queue).trans ?_
    unfold beginFirst
    cases dispatched : s.surroundings.dispatch s.routes s.replyUnroutable request with
    | mk outcome surroundings =>
      cases outcome with
      | concluded outcome =>
        have same : s.dispatchQueue =
            { s with surroundings, queue := rest, busy := none }.dispatchQueue := by
          unfold Session.dispatchQueue
          rw [queue, Session.dispatchEach, dispatched]
        rw [same]
        exact ih _ rfl rfl
      | waiting token resume =>
        have same : s.dispatchQueue = { s with
            surroundings, queue := rest,
            busy := some { request, started := s.surroundings.now, token, resume } } := by
          unfold Session.dispatchQueue
          rw [queue, Session.dispatchEach, dispatched]
          dsimp only
          rw [Surroundings.now_of_waiting dispatched]
        rw [same]
        exact .refl _

theorem leads_dispatch (s : Session σ) :
    Leads sink (resting s reader) (resting s.dispatch reader) := by
  unfold Session.dispatch
  cases busy_eq : s.busy with
  | none => exact leads_dispatchQueue s busy_eq
  | some busy =>
    dsimp only
    cases fate : (s.exchange.fate? busy.token).bind Fate.result? with
    | none => exact .refl _
    | some result =>
      have resumes : Leads sink (resting s reader)
          (busyWith (s.withExchange (s.exchange.forget busy.token)) reader busy.request busy.started
            (busy.resume result)) := by
        refine .turn .worker ?_
        show (resting s reader).advanceWorker.2 = _
        unfold advanceWorker resting start
        rw [busy_eq]
        have known : ({ s with busy := none }.exchange.fate? busy.token).bind Fate.result? =
            some result := fate
        dsimp only
        rw [known]
        rfl
      refine resumes.trans ((leads_acting _ _ _ _).trans ?_)
      have reply : (s.withExchange (s.exchange.forget busy.token)).replyUnroutable =
          s.replyUnroutable := rfl
      unfold followed
      cases went : (s.withExchange (s.exchange.forget busy.token)).surroundings.follow
          s.replyUnroutable busy.started busy.request (busy.resume result) with
      | mk outcome surroundings =>
        dsimp only
        rw [reply, went]
        cases outcome with
        | concluded outcome => exact leads_dispatchQueue _ rfl
        | waiting token resume => exact .refl _

/-- How the task that reads goes on after reading has stopped. -/
def readerAfter : Reading → Reader
  | .ended => .ended (.ok ())
  | .failed fault => .ended (.error fault)
  | _ => .reading

theorem leads_readOne {envelope : Envelope} {rest : Intake} {after : Metrics}
    (next : s.intake.next s.metrics = (.envelope envelope, rest, after)) :
    Leads sink (resting s .reading)
      (resting ((takenIn s rest after).receive [envelope]) .reading) := by
  have next : s.intake.next { s with busy := none }.metrics = _ := next
  refine .turn .reader ?_
  show ((resting s .reading).advanceReader sink).2 = _
  unfold advanceReader resting start
  dsimp only
  rw [next]
  rfl

theorem leads_stop {reading : Reading} {rest : Intake} {after : Metrics}
    (next : s.intake.next s.metrics = (reading, rest, after))
    (stops : ∀ envelope, reading ≠ .envelope envelope) :
    Leads sink (resting s .reading) (resting (takenIn s rest after) (readerAfter reading)) := by
  have next : s.intake.next { s with busy := none }.metrics = _ := next
  refine .turn .reader ?_
  show ((resting s .reading).advanceReader sink).2 = _
  unfold advanceReader resting start
  dsimp only
  rw [next]
  cases reading with
  | envelope envelope => exact absurd rfl (stops envelope)
  | _ => rfl

theorem leads_read (s : Session σ) :
    Leads sink (resting s .reading)
      (resting (readAll s) (readerAfter (s.intake.drain s.metrics).2.1)) := by
  rcases next : s.intake.next s.metrics with ⟨reading, rest, after⟩
  by_cases stops : ∀ envelope, reading ≠ .envelope envelope
  · have drained : s.intake.drain s.metrics = ([], reading, rest, after) := by
      rw [Intake.drain_of_ne_envelope, next]
      rw [next]
      exact stops
    unfold readAll
    rw [drained]
    dsimp only
    rw [Session.receive_nil]
    exact leads_stop next stops
  · obtain ⟨envelope, is⟩ := not_forall.1 stops
    obtain rfl := not_not.1 is
    have lighter := Intake.next_weight_lt next
    have more := leads_read ((takenIn s rest after).receive [envelope])
    rw [Session.drain_received] at more
    rw [Session.readAll_of_envelope next, Intake.drain_of_envelope next]
    exact (leads_readOne next).trans more
termination_by s.intake.weight

/-- The tasks after all of them have come to their end. -/
def finished (s : Session σ) (result : Except Fault Unit) : Tasks σ where
  session := s
  reader := .finished result
  worker := .ended
  writer := .ended

/-- When nothing is left to do, the tasks come to their end one after the other. -/
theorem leads_finished (s : Session σ) (busy : s.busy = none) (queue : s.queue = [])
    (written : s.exchange.outbox.latest = []) (result : Except Fault Unit) :
    Leads sink (resting s (.closed result)) (finished (s.closeSink sink) result) := by
  obtain ⟨_, _, _, surroundings, _, _, requests, waits⟩ := s
  obtain ⟨⟨⟨latest, _⟩, _⟩, _⟩ := surroundings
  obtain rfl : waits = none := busy
  obtain rfl : requests = [] := queue
  obtain rfl : latest = [] := written
  -- the writer finds no envelope, sees the notice, finds none left, and gives up the queue
  exact ⟨[.worker, .reader, .writer, .writer, .writer, .writer, .reader], rfl⟩

theorem leads_finish (s : Session σ) (settled : (s.finish sink).undone = [])
    (result : Except Fault Unit) :
    Leads sink (resting s (.ended result)) (finished (s.finish sink) result) := by
  let closed := s.withExchange s.exchange.close
  let dispatched := (closed.write sink).dispatch
  obtain ⟨busy, queue⟩ := List.append_eq_nil_iff.1 settled
  have idle : (dispatched.write sink).busy = none :=
    Option.map_eq_none_iff.1 (Option.toList_eq_nil_iff.1 busy)
  have closes : Leads sink (resting s (.ended result)) (resting closed (.closed result)) :=
    .turn .reader rfl
  refine closes.trans ((leads_write closed _).trans ((leads_dispatch _).trans ?_))
  exact (leads_write dispatched _).trans (leads_finished _ idle queue rfl result)

/-- Serving while the input goes on is what the tasks come to in some order of their turns. -/
theorem leads_serve (goesOn : (s.serve sink).1 = none) :
    Leads sink (start s) (start (s.serve sink).2.2) := by
  have read : Leads sink (start s) _ := leads_read s
  unfold Session.serve at goesOn ⊢
  unfold readAll at read
  generalize s.intake.drain s.metrics = drained at goesOn read ⊢
  obtain ⟨envelopes, last, intake, metrics⟩ := drained
  have writes (s : Session σ) : Leads sink (resting s .reading) (start _) :=
    (leads_write s .reading).trans ((leads_dispatch _).trans (leads_write _ _))
  cases last with
  | ended => contradiction
  | failed fault => contradiction
  | envelope envelope => exact read.trans (writes _)
  | blocked => exact read.trans (writes _)

/-- So is serving to the end of the input. -/
theorem leads_serve_over {result : Except Fault Unit} (ends : (s.serve sink).1 = some result)
    (cares : s.Cares) : Leads sink (start s) (finished (s.serve sink).2.2 result) := by
  have read : Leads sink (start s) _ := leads_read s
  have settled := cares.undone_serve ends
  unfold Session.serve at ends settled ⊢
  unfold readAll at read
  generalize s.intake.drain s.metrics = drained at ends settled read ⊢
  obtain ⟨envelopes, last, intake, metrics⟩ := drained
  cases last with
  | ended =>
    cases ends
    exact read.trans (leads_finish _ settled _)
  | failed fault =>
    cases ends
    exact read.trans (leads_finish _ settled _)
  | envelope envelope => contradiction
  | blocked => contradiction

end Tasks

end Hostlink
