import Hostlink.Proofs.Dispatch
import Hostlink.Proofs.Outlet
/-!
A session loses no request, answers none twice, and writes the responses in the order in which the
requests were settled.
-/

namespace Hostlink.Session

variable {σ : Type} {sink : Sink σ} {written : σ → Bytes}

/-- The requests that have been read and are not settled yet, in their order. -/
def undone (s : Session σ) : List Request :=
  (s.busy.map Busy.request).toList ++ s.queue

/-- The requests that dispatching settles now: the one that waited comes first. -/
def settledNow (s : Session σ) : List Settled :=
  match s.busy with
  | none => settledEach s.routes s.replyUnroutable s.surroundings s.queue
  | some busy =>
    match (s.exchange.fate? busy.token).bind Fate.result? with
    | none => []
    | some result =>
      let surroundings := (s.withExchange (s.exchange.forget busy.token)).surroundings
      match surroundings.settlement? (busy.resume result) with
      | none => []
      | some settlement =>
        let (_, surroundings) :=
          surroundings.follow s.replyUnroutable busy.started busy.request (busy.resume result)
        ⟨busy.request, some settlement⟩ ::
          settledEach s.routes s.replyUnroutable surroundings s.queue

/-- What a session has written and is about to write. -/
structure Progress (before : Session σ) (settled : List Settled) (after : Session σ) : Prop where
  undone : before.undone = settled.map Settled.request ++ after.undone
  outbox : ∃ envelopes, before.exchange.outbox.Adds envelopes after.exchange.outbox ∧
    responses envelopes = settled.filterMap (Settled.response? before.replyUnroutable)
  sink : after.sink = before.sink
  intake : after.intake = before.intake
  outlet : after.outlet = before.outlet
  routes : after.routes = before.routes
  replyUnroutable : after.replyUnroutable = before.replyUnroutable

theorem Progress.trans {before between after : Session σ} {settled more : List Settled}
    (first : Progress before settled between) (second : Progress between more after) :
    Progress before (settled ++ more) after where
  undone := by rw [first.undone, second.undone, List.map_append, List.append_assoc]
  outbox := by
    obtain ⟨envelopes, adds, leads⟩ := first.outbox
    obtain ⟨others, adds', leads'⟩ := second.outbox
    refine ⟨envelopes ++ others, adds.trans adds', ?_⟩
    rw [responses_append, leads, leads', first.replyUnroutable, List.filterMap_append]
  sink := second.sink.trans first.sink
  intake := second.intake.trans first.intake
  outlet := second.outlet.trans first.outlet
  routes := second.routes.trans first.routes
  replyUnroutable := second.replyUnroutable.trans first.replyUnroutable

theorem dispatchQueue_progress {s : Session σ} (idle : s.busy = none) :
    Progress s (settledEach s.routes s.replyUnroutable s.surroundings s.queue) s.dispatchQueue := by
  obtain ⟨after, rest, busy, envelopes, eq, split, adds, leads⟩ :=
    dispatchEach_spec s.routes s.replyUnroutable s.surroundings s.queue
  unfold dispatchQueue
  rw [eq]
  refine ⟨?_, ⟨envelopes, adds, leads⟩, rfl, rfl, rfl, rfl, rfl⟩
  unfold undone
  rw [idle]
  exact split

theorem dispatch_progress (s : Session σ) : Progress s s.settledNow s.dispatch := by
  unfold settledNow dispatch
  cases busy_eq : s.busy with
  | none => exact dispatchQueue_progress busy_eq
  | some busy =>
    dsimp only
    cases (s.exchange.fate? busy.token).bind Fate.result? with
    | none => exact ⟨rfl, ⟨[], Outbox.Adds.refl _, rfl⟩, rfl, rfl, rfl, rfl, rfl⟩
    | some result =>
      dsimp only
      -- forgetting the request that was waited for leaves the queue of envelopes alone
      have same : (s.withExchange (s.exchange.forget busy.token)).surroundings.exchange.outbox =
          s.exchange.outbox := rfl
      generalize (s.withExchange (s.exchange.forget busy.token)).surroundings = surroundings at same
      cases settles : surroundings.settlement? (busy.resume result) with
      | none =>
        obtain ⟨token, resume, after, asked, eq, adds, quiet⟩ :=
          Surroundings.follow_of_waiting s.replyUnroutable settles busy.started busy.request
        rw [eq]
        refine ⟨?_, ⟨asked, same ▸ adds, quiet⟩, rfl, rfl, rfl, rfl, rfl⟩
        unfold undone
        rw [busy_eq]
        rfl
      | some settlement =>
        obtain ⟨outcome, after, first, eq, adds, leads⟩ :=
          Surroundings.follow_of_settlement? s.replyUnroutable settles busy.started busy.request
        rw [eq]
        have resumed : Progress s [⟨busy.request, some settlement⟩]
            { s with surroundings := after, busy := none } := by
          refine ⟨?_, ⟨first, same ▸ adds, ?_⟩, rfl, rfl, rfl, rfl, rfl⟩
          · unfold undone
            rw [busy_eq]
            rfl
          · rw [leads, List.filterMap_cons, List.filterMap_nil]
            cases Settled.response? s.replyUnroutable _ <;> rfl
        -- once the request that waited is settled, the queue is dispatched as if none had
        exact resumed.trans (dispatchQueue_progress rfl)

theorem send_of_fits (accepts : sink.Accepts written) (s : Session σ)
    {envelope : Envelope}
    (fits : (Wire.body envelope).length ≤
      min (s.outlet.limit.getD Frame.maxLength) Frame.maxLength) :
    ∃ state, s.send sink envelope =
        (.ok (), { s with sink := state }.withMetrics (s.metrics.countOut envelope)) ∧
      written state = written s.sink ++ Frame.ofEnvelope envelope := by
  obtain ⟨state, sent, wrote⟩ := Outlet.send_ok accepts s.outlet fits s.metrics s.sink
  refine ⟨state, ?_, wrote⟩
  unfold send
  rw [sent]

theorem write_written (accepts : sink.Accepts written) (s : Session σ) :
    written (s.write sink).sink =
      written s.sink ++ s.exchange.outbox.queue.flatMap (Frame.trace s.outlet.limit) :=
  Outlet.sendAll_written accepts s.outlet _ _ _

/-- The requests among envelopes. -/
def requests (envelopes : List Envelope) : List Request :=
  envelopes.filterMap Envelope.request?

theorem requests_nil : requests [] = [] := by
  rfl

theorem requests_cons_request (request : Request) (envelopes : List Envelope) :
    requests (.request request :: envelopes) = request :: requests envelopes := by
  rfl

theorem requests_cons_response (response : Response) (envelopes : List Envelope) :
    requests (.response response :: envelopes) = requests envelopes := by
  rfl

theorem requests_append (envelopes more : List Envelope) :
    requests (envelopes ++ more) = requests envelopes ++ requests more :=
  List.filterMap_append

theorem receive_undone (s : Session σ) (envelopes : List Envelope) :
    (s.receive envelopes).undone = s.undone ++ requests envelopes :=
  (List.append_assoc _ _ _).symm

theorem outbox_complete (x : Exchange) (response : Response) :
    (x.complete response).2.outbox = x.outbox := by
  unfold Exchange.complete
  split <;> rfl

theorem receive_outbox (s : Session σ) (envelopes : List Envelope) :
    (s.receive envelopes).exchange.outbox = s.exchange.outbox := by
  show (envelopes.foldl _ s.exchange).outbox = _
  generalize s.exchange = x
  induction envelopes generalizing x with
  | nil => rfl
  | cons envelope envelopes ih =>
    rw [List.foldl_cons, ih]
    cases envelope with
    | request => rfl
    | response response => exact outbox_complete x response

/-- The requests that serving settles. -/
def settledByServing (sink : Sink σ) (s : Session σ) : List Settled :=
  let (envelopes, last, intake, metrics) := s.intake.drain s.metrics
  let s := ({ s with intake }.withMetrics metrics).receive envelopes
  match last with
  | .ended => ((s.withExchange s.exchange.close).write sink).settledNow
  | .failed _ => ((s.withExchange s.exchange.close).write sink).settledNow
  | _ => (s.write sink).settledNow

/-- What has been read is settled or still undone, and what was settled has been written. -/
structure Served (sink : Sink σ) (written : σ → Bytes) (before : Session σ)
    (envelopes : List Envelope) (settled : List Settled) (after : Session σ) : Prop where
  undone : before.undone ++ requests envelopes = settled.map Settled.request ++ after.undone
  sent : ∃ sent, written after.sink =
      written before.sink ++ sent.flatMap (Frame.trace before.outlet.limit) ∧
    responses sent = responses before.exchange.outbox.queue ++
      settled.filterMap (Settled.response? before.replyUnroutable)
  outbox : after.exchange.outbox.queue = []
  outlet : after.outlet = before.outlet
  replyUnroutable : after.replyUnroutable = before.replyUnroutable

theorem write_dispatch_write (accepts : sink.Accepts written) {s : Session σ}
    (isOpen : s.exchange.outbox.isOpen = true) :
    Served sink written s [] (s.write sink).settledNow (((s.write sink).dispatch).write sink) ∧
      (((s.write sink).dispatch).write sink).exchange.outbox.isOpen = true := by
  have progress := dispatch_progress (s.write sink)
  obtain ⟨envelopes, adds, leads⟩ := progress.outbox
  obtain ⟨isOpen', queue⟩ := adds isOpen
  have cleared : (s.write sink).exchange.outbox.queue = [] := rfl
  rw [cleared, List.nil_append] at queue
  refine ⟨⟨?_, ⟨s.exchange.outbox.queue ++ envelopes, ?_, ?_⟩, rfl, progress.outlet,
    progress.replyUnroutable⟩, isOpen'⟩
  · rw [requests_nil, List.append_nil]
    exact progress.undone
  · rw [write_written accepts, progress.sink, progress.outlet, queue, write_written accepts,
      List.flatMap_append, List.append_assoc]
    rfl
  · rw [responses_append, leads]
    rfl

theorem close_written (accepts : sink.Accepts written) (m : Metrics) (s : σ) :
    written (Outlet.close sink m s).2.2 = written s := by
  obtain ⟨s', closed, same⟩ := accepts.close s
  unfold Outlet.close
  rw [closed]
  exact same

theorem finish_served (accepts : sink.Accepts written) {s : Session σ}
    (isOpen : s.exchange.outbox.isOpen = true) :
    Served sink written s [] ((s.withExchange s.exchange.close).write sink).settledNow
      (s.finish sink) := by
  -- closing the exchange lets requests wait no longer, but its outbox is closed only at the end
  have closing : (s.withExchange s.exchange.close).exchange.outbox.isOpen = true := isOpen
  obtain ⟨served, -⟩ := write_dispatch_write accepts closing
  obtain ⟨sent, all, leads⟩ := served.sent
  refine ⟨served.undone, ⟨sent, ?_, leads⟩, served.outbox, served.outlet, served.replyUnroutable⟩
  exact (close_written accepts _ _).trans all

theorem Served.received {s after : Session σ} {intake : Intake} {metrics : Metrics}
    {envelopes : List Envelope} {settled : List Settled}
    (served : Served sink written (({ s with intake }.withMetrics metrics).receive envelopes) []
      settled after) :
    Served sink written s envelopes settled after := by
  have undone := served.undone
  rw [receive_undone, requests_nil, List.append_nil] at undone
  obtain ⟨sent, all, leads⟩ := served.sent
  rw [receive_outbox] at leads
  exact ⟨undone, ⟨sent, all, leads⟩, served.outbox, served.outlet, served.replyUnroutable⟩

/--
Serving settles requests in the order in which they were read, and writes the responses of those
that were settled, in the same order.
-/
theorem serve_served (accepts : sink.Accepts written) {s : Session σ}
    (isOpen : s.exchange.outbox.isOpen = true) :
    Served sink written s (s.serve sink).2.1 (settledByServing sink s) (s.serve sink).2.2 ∧
      ((s.serve sink).1 = none → (s.serve sink).2.2.exchange.outbox.isOpen = true) := by
  unfold serve settledByServing
  obtain ⟨envelopes, last, intake, metrics⟩ := s.intake.drain s.metrics
  have isOpen' : (({ s with intake }.withMetrics metrics).receive envelopes).exchange.outbox.isOpen =
      true := by
    rw [receive_outbox]
    exact isOpen
  have finished := (finish_served accepts isOpen').received
  obtain ⟨served, goesOn⟩ := write_dispatch_write accepts isOpen'
  cases last with
  | ended => exact ⟨finished, nofun⟩
  | failed fault => exact ⟨finished, nofun⟩
  | envelope envelope => exact ⟨served.received, fun _ => goesOn⟩
  | blocked => exact ⟨served.received, fun _ => goesOn⟩

end Hostlink.Session
