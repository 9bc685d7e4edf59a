import Hostlink.Proofs.Reading
import Hostlink.Proofs.Tasks.Turns
/-!
What a turn of the tasks can come to. Of a session, only the requests that are read and to be worked
on, the queue of outgoing envelopes and what has gone out count here, and of the tasks, how they come
to their ends.
-/

namespace Hostlink

variable {σ : Type}

/-- How a session sends, what is counted of sending, and its sink. -/
def Session.outgoing (s : Session σ) : Outlet × (Metrics.Counter × Metrics.Counter) × σ :=
  (s.outlet, s.metrics.outgoing, s.sink)

theorem Session.outgoing_congr {before after : Session σ}
    (counted : after.metrics.outgoing = before.metrics.outgoing)
    (others : after.outlet = before.outlet ∧ after.sink = before.sink) :
    after.outgoing = before.outgoing := by
  unfold outgoing
  rw [counted, others.1, others.2]

namespace Intake

theorem outgoing_next {m counted : Metrics} {intake after : Intake} {reading : Reading}
    (read : intake.next m = (reading, after, counted)) : counted.outgoing = m.outgoing := by
  have kept : (intake.next m).2.2.outgoing = m.outgoing := by
    clear read
    fun_induction Intake.next m intake with
    | case2 m intake fault reader _ _ ih => exact ih
    | case7 m intake reader _ b bytes source _ ih => exact ih
    | _ => rfl
  rwa [read] at kept

/-- The envelopes that were read from an intake, while more may have arrived at its source. -/
inductive Yields (intake : Intake) : List Envelope → Intake → Prop where
  | nothing : Yields intake [] intake
  | envelope {envelopes : List Envelope} {between after : Intake} {m counted : Metrics}
      {envelope : Envelope} (earlier : Yields intake envelopes between)
      (read : between.next m = (.envelope envelope, after, counted)) :
      Yields intake (envelopes ++ [envelope]) after
  | pause {envelopes : List Envelope} {between after : Intake} {m counted : Metrics}
      {reading : Reading} (earlier : Yields intake envelopes between)
      (read : between.next m = (reading, after, counted))
      (stops : ∀ envelope, reading ≠ .envelope envelope) : Yields intake envelopes after
  | arrival {envelopes : List Envelope} {between : Intake}
      (earlier : Yields intake envelopes between) (arrival : Arrival) :
      Yields intake envelopes { between with
        source := { between.source with arrivals := between.source.arrivals ++ [arrival] } }
  | endInput {envelopes : List Envelope} {between : Intake}
      (earlier : Yields intake envelopes between) :
      Yields intake envelopes { between with source := { between.source with isEnded := true } }

variable {intake between after : Intake}

theorem Yields.trans {envelopes more : List Envelope} (first : intake.Yields envelopes between)
    (second : between.Yields more after) : intake.Yields (envelopes ++ more) after := by
  induction second with
  | nothing =>
    rw [List.append_nil]
    exact first
  | envelope _ read ih =>
    rw [← List.append_assoc]
    exact .envelope ih read
  | pause _ read stops ih => exact .pause ih read stops
  | arrival _ arrival ih => exact .arrival ih arrival
  | endInput _ ih => exact .endInput ih

/-- The requests among the envelopes that were read. -/
def Brings (intake : Intake) (requests : List Request) (after : Intake) : Prop :=
  ∃ envelopes, intake.Yields envelopes after ∧ Session.requests envelopes = requests

theorem Brings.refl (intake : Intake) : intake.Brings [] intake :=
  ⟨[], .nothing, rfl⟩

theorem Brings.trans {requests more : List Request} (first : intake.Brings requests between)
    (second : between.Brings more after) : intake.Brings (requests ++ more) after := by
  obtain ⟨envelopes, yields, rfl⟩ := first
  obtain ⟨others, yields', rfl⟩ := second
  exact ⟨envelopes ++ others, yields.trans yields', Session.requests_append _ _⟩

end Intake

namespace Exchange

variable (x : Exchange)

theorem outgoing_complete (response : Response) :
    (x.complete response).2.metrics.outgoing = x.metrics.outgoing := by
  unfold complete
  split <;> rfl

theorem outgoing_conclude (replyUnroutable : Bool) (request : Request)
    (settlement : Option Settlement) (micros : Nat) :
    (x.conclude replyUnroutable request settlement micros).2.metrics.outgoing =
      x.metrics.outgoing := by
  rcases settlement with _ | _ | _ | _ | _ <;> rfl

/-- A post puts an envelope into the queue, if anything, and counts nothing. -/
theorem attempt_adds (request : Request) (deadline : Option Nat) :
    (∃ envelopes, x.outbox.Adds envelopes (x.attempt request deadline).2.outbox) ∧
      (x.attempt request deadline).2.metrics = x.metrics := by
  unfold attempt register
  cases x.isClosed with
  | true => exact ⟨⟨[], Outbox.Adds.refl _⟩, rfl⟩
  | false =>
    cases (x.pending.lookup request.correlation).isSome with
    | true => exact ⟨⟨[], Outbox.Adds.refl _⟩, rfl⟩
    | false =>
      simp only [Bool.false_eq_true, if_false]
      unfold enqueue
      cases sent : x.outbox.send? (.request request) with
      | some outbox => exact ⟨⟨_, Outbox.adds_send? sent⟩, rfl⟩
      | none => exact ⟨⟨[], Outbox.Adds.refl _⟩, rfl⟩

theorem metrics_of_post {x after : Exchange} {request : Request} {deadline : Option Nat}
    {token : Nat} (posted : x.post request deadline = .ok (token, after)) :
    after.metrics = x.metrics := by
  rw [post_eq] at posted
  have kept := (x.attempt_adds request deadline).2
  cases attempted : (x.attempt request deadline).1 with
  | error fault =>
    rw [attempted] at posted
    cases posted
  | ok token =>
    rw [attempted] at posted
    cases posted
    exact kept

/-- Whatever is done to an exchange, envelopes are put at the end of its queue, if anywhere. -/
theorem adds_step {op : Operation} (sends : op.receives = false) :
    ∃ envelopes, x.outbox.Adds envelopes (x.step op).outbox := by
  cases op with
  | post request deadline => exact (x.attempt_adds request deadline).1
  | complete response =>
    have same := Session.outbox_complete x response
    exact ⟨[], same ▸ Outbox.Adds.refl _⟩
  | send envelope => exact ⟨[envelope], Outbox.adds_offer _ _⟩
  | clear => contradiction
  | closeOutbox => contradiction
  | drop token => exact ⟨[], Outbox.Adds.refl _⟩
  | close => exact ⟨[], Outbox.Adds.refl _⟩
  | expire now => exact ⟨[], Outbox.Adds.refl _⟩

theorem outgoing_step (op : Operation) :
    (x.step op).metrics.outgoing = x.metrics.outgoing := by
  cases op with
  | post request deadline => exact congrArg _ (x.attempt_adds request deadline).2
  | complete response => exact x.outgoing_complete response
  | _ => rfl

end Exchange

/-- A step of an action puts envelopes into the queue, if anything, and counts nothing. -/
theorem Action.advance_adds (action : Action) (s : Surroundings) :
    (∃ envelopes, s.exchange.outbox.Adds envelopes (action.advance s).2.exchange.outbox) ∧
      (action.advance s).2.exchange.metrics = s.exchange.metrics := by
  cases action with
  | settle settlement => exact ⟨⟨[], Outbox.Adds.refl _⟩, rfl⟩
  | ask asked wait resume =>
    unfold advance
    dsimp only
    cases posted : s.exchange.post asked (some (s.now + wait.getD s.wait)) with
    | error fault => exact ⟨⟨[], Outbox.Adds.refl _⟩, rfl⟩
    | ok result =>
      have adds := Exchange.adds_post posted
      have kept := Exchange.metrics_of_post posted
      dsimp only
      split
      · exact ⟨⟨_, adds⟩, kept⟩
      · exact ⟨⟨_, adds⟩, kept⟩
  | log event next =>
    obtain ⟨logged, -, adds⟩ := s.adds_log event
    refine ⟨⟨logged, adds⟩, ?_⟩
    show (s.log event).exchange.metrics = _
    unfold Surroundings.log
    split <;> rfl
  | inspect resume => exact ⟨⟨[], Outbox.Adds.refl _⟩, rfl⟩

theorem Action.eq_of_settled {action : Action} {s after : Surroundings} {settlement : Settlement}
    (h : action.advance s = (.inl (.settled settlement), after)) : after = s := by
  cases action with
  | settle settlement =>
    cases h
    rfl
  | ask asked wait resume =>
    simp only [advance] at h
    split at h
    · cases h
    · split at h <;> cases h
  | log event next => cases h
  | inspect resume => cases h

/-- A session has read requests, which are to be worked on, and nothing else that counts changed. -/
structure Session.Gains (before : Session σ) (requests : List Request) (after : Session σ) :
    Prop where
  brings : before.intake.Brings requests after.intake
  queue : after.queue = before.queue ++ requests
  outbox : after.exchange.outbox = before.exchange.outbox
  replyUnroutable : after.replyUnroutable = before.replyUnroutable
  outgoing : after.outgoing = before.outgoing

namespace Session.Gains

variable {s : Session σ} {intake : Intake} {metrics : Metrics}

theorem of_yields (yields : s.intake.Yields [] intake) : s.Gains [] { s with intake } where
  brings := ⟨[], yields, rfl⟩
  queue := (List.append_nil _).symm
  outbox := rfl
  replyUnroutable := rfl
  outgoing := rfl

theorem pause {reading : Reading} (read : s.intake.next s.metrics = (reading, intake, metrics))
    (stops : ∀ envelope, reading ≠ .envelope envelope) :
    s.Gains [] ({ s with intake }.withMetrics metrics) where
  brings := ⟨[], .pause .nothing read stops, rfl⟩
  queue := (List.append_nil _).symm
  outbox := rfl
  replyUnroutable := rfl
  outgoing := outgoing_congr (Intake.outgoing_next read) ⟨rfl, rfl⟩

theorem receive {envelope : Envelope}
    (read : s.intake.next s.metrics = (.envelope envelope, intake, metrics)) :
    s.Gains envelope.request?.toList
      (({ s with intake }.withMetrics metrics).receive [envelope]) where
  brings := by
    refine ⟨[envelope], .envelope .nothing read, ?_⟩
    cases envelope <;> rfl
  queue := by cases envelope <;> rfl
  outbox := Session.receive_outbox _ [envelope]
  replyUnroutable := rfl
  outgoing := by
    have kept := Intake.outgoing_next read
    refine outgoing_congr ?_ ⟨rfl, rfl⟩
    cases envelope with
    | request request => exact kept
    | response response => exact (Exchange.outgoing_complete _ response).trans kept

end Session.Gains

namespace Tasks

/--
The worker goes on, or somebody does something from outside: envelopes may be put into the queue, and
nothing is sent.
-/
structure GoesOn (t : Tasks σ) (session : Session σ) (worker : Worker) : Prop where
  brings : t.session.intake.Brings [] session.intake
  adds : ∃ envelopes, t.outbox.Adds envelopes session.exchange.outbox
  undone : worker.request?.toList ++ session.queue = t.undone
  ended : worker = .ended ↔ t.worker = .ended
  replyUnroutable : session.replyUnroutable = t.session.replyUnroutable
  outgoing : session.outgoing = t.session.outgoing

/-- A request is settled, and its response is put into the queue, if it has one. -/
structure Settles (t : Tasks σ) (settled : Settled) (session : Session σ) : Prop where
  working : t.worker ≠ .ended
  intake : session.intake = t.session.intake
  undone : t.undone = settled.request :: session.queue
  adds : t.outbox.Adds ((settled.response? t.session.replyUnroutable).toList.map .response)
    session.exchange.outbox
  replyUnroutable : session.replyUnroutable = t.session.replyUnroutable
  outgoing : session.outgoing = t.session.outgoing

/--
What a turn can come to, as far as requests, envelopes and the ends of the tasks are concerned.
-/
inductive Turned (sink : Sink σ) (t : Tasks σ) : List Event → Tasks σ → Prop where
  | goesOn {session : Session σ} {worker : Worker} (goesOn : t.GoesOn session worker) :
      Turned sink t ((t.outbox.added session.exchange.outbox).map .enqueued)
        { t with session, worker }
  | reads {session : Session σ} (request : Request) (reading : t.reader = .reading)
      (gains : t.session.Gains [request] session) :
      Turned sink t [.read request] { t with session }
  | settles {session : Session σ} (settled : Settled) (settles : t.Settles settled session) :
      Turned sink t
        ((t.outbox.added session.exchange.outbox).map .enqueued ++ [.settled settled])
        { t with session, worker := .idle }
  | worked (undone : t.undone = []) (reader : t.reader.isReading = false) :
      Turned sink t [] { t with worker := .ended }
  | stops {session : Session σ} {result : Except Fault Unit} (reading : t.reader = .reading)
      (gains : t.session.Gains [] session) :
      Turned sink t [] { t with session, reader := .ended result }
  | closes {result : Except Fault Unit} (ended : t.reader = .ended result) :
      Turned sink t [] { t with
        session := t.session.withExchange t.session.exchange.close, reader := .closed result }
  | notifies {result : Except Fault Unit} (closed : t.reader = .closed result)
      (worked : t.worker = .ended) :
      Turned sink t [.notified] { t with notice := true, reader := .notified result }
  | shuts {result : Except Fault Unit} (notified : t.reader = .notified result)
      (written : t.writer = .ended) :
      Turned sink t [.shut] { t with session := t.session.shut sink, reader := .finished result }
  | takes {drains : Bool} {envelope : Envelope} {outbox : Outbox}
      (seeking : t.writer = .seeking drains) (taken : t.outbox.take? = some (envelope, outbox)) :
      Turned sink t [] { t with
        session := t.session.withExchange { t.session.exchange with outbox }
        writer := .writing envelope drains }
  | sends {envelope : Envelope} {drains : Bool} (writing : t.writer = .writing envelope drains) :
      Turned sink t [.handed envelope] { t with
        session := (t.session.send sink envelope).2, writer := .seeking drains }
  | looks (polling : t.writer = .polling) : Turned sink t [] { t with writer := .looking }
  | polls (looking : t.writer = .looking) : Turned sink t [] { t with writer := .polling }
  | sees (looking : t.writer = .looking) (notice : t.notice = true) :
      Turned sink t [] { t with notice := false, writer := .draining }
  | leaves {drains : Bool} (seeking : t.writer = .seeking drains)
      (reason : drains = true ∨ t.reader.isFinished = true) (empty : t.outbox.queue = []) :
      Turned sink t [] { t with writer := .leaving }
  | abandons (leaving : t.writer = .leaving) :
      Turned sink t [] { t with session := t.session.abandon, writer := .ended }

variable {t : Tasks σ} {sink : Sink σ}

theorem happens_none (after : Tasks σ) :
    t.happens (none, after) = (t.outbox.added after.outbox).map .enqueued :=
  List.append_nil _

namespace Turned

/-- Nothing is put into the queue. -/
theorem removes {event : Option Event} {after : Tasks σ}
    (nothing : t.outbox.added after.outbox = []) (turned : Turned sink t event.toList after) :
    Turned sink t (t.happens (event, after)) after := by
  unfold happens
  rw [nothing]
  exact turned

theorem alone {event : Option Event} {after : Tasks σ} (same : after.outbox = t.outbox)
    (turned : Turned sink t event.toList after) :
    Turned sink t (t.happens (event, after)) after := by
  refine .removes ?_ turned
  rw [same]
  exact Outbox.added_self _

/-- Somebody does something, and no task comes to its end. -/
theorem others {session : Session σ} {worker : Worker} (goesOn : t.GoesOn session worker) :
    Turned sink t (t.happens (none, { t with session, worker })) { t with session, worker } := by
  rw [happens_none]
  exact .goesOn goesOn

/-- The worker goes on with the request that it works on. -/
theorem works {surroundings : Surroundings} {worker : Worker} {request : Request}
    (before : t.worker.request? = some request) (after : worker.request? = some request)
    (adds : ∃ envelopes, t.outbox.Adds envelopes surroundings.exchange.outbox)
    (kept : surroundings.exchange.metrics = t.session.metrics) :
    Turned sink t (t.happens (none, { t with session := { t.session with surroundings }, worker }))
      { t with session := { t.session with surroundings }, worker } := by
  refine .others {
    brings := .refl _
    adds := adds
    undone := ?_
    ended := iff_of_false (Worker.ne_ended after) (Worker.ne_ended before)
    replyUnroutable := rfl
    outgoing := Session.outgoing_congr (congrArg Metrics.outgoing kept) ⟨rfl, rfl⟩ }
  unfold Tasks.undone
  rw [before, after]

theorem quiet {session : Session σ} (gains : t.session.Gains [] session) :
    Turned sink t (t.happens (none, { t with session })) { t with session } := by
  refine .others {
    brings := gains.brings
    adds := ⟨[], ?_⟩
    undone := ?_
    ended := Iff.rfl
    replyUnroutable := gains.replyUnroutable
    outgoing := gains.outgoing }
  · rw [gains.outbox]
    exact Outbox.Adds.refl _
  · rw [gains.queue, List.append_nil]
    rfl

theorem idle (sink : Sink σ) (t : Tasks σ) : Turned sink t (t.happens (none, t)) t :=
  .quiet (.of_yields .nothing)

end Turned

variable (sink)

theorem turned_reader (t : Tasks σ) :
    Turned sink t (t.happens (t.advanceReader sink)) (t.advanceReader sink).2 := by
  unfold advanceReader
  split
  · next reading =>
    rcases read : t.session.intake.next t.session.metrics with ⟨result, intake, metrics⟩
    cases result with
    | envelope envelope =>
      have gains := Session.Gains.receive read
      cases envelope with
      | request request => exact .alone gains.outbox (.reads request reading gains)
      | response response => exact .quiet gains
    | blocked => exact .quiet (.pause read nofun)
    | ended =>
      have gains := Session.Gains.pause read nofun
      exact .alone gains.outbox (.stops reading gains)
    | failed fault =>
      have gains := Session.Gains.pause read nofun
      exact .alone gains.outbox (.stops reading gains)
  · next result ended => exact .alone rfl (.closes ended)
  · next result closed =>
    split
    · next worked => exact .alone rfl (.notifies closed worked)
    · exact .idle sink t
  · next result notified =>
    split
    · next written => exact .alone rfl (.shuts notified written)
    · exact .idle sink t
  · exact .idle sink t

theorem turned_settle {queue : List Request} (started : Nat) (request : Request)
    (settlement : Option Settlement) (working : t.worker ≠ .ended)
    (undone : t.undone = request :: queue) :
    let step := settle { t with session := { t.session with queue } } started request settlement
    Turned sink t (t.happens step) step.2 := by
  have kept := t.session.exchange.outgoing_conclude t.session.replyUnroutable request settlement
    ((t.session.surroundings.now - started) * 1000)
  exact .settles ⟨request, settlement⟩ {
    working := working
    intake := rfl
    undone := undone
    adds := Surroundings.adds_conclude t.session.replyUnroutable t.session.surroundings started
      request settlement
    replyUnroutable := rfl
    outgoing := Session.outgoing_congr kept ⟨rfl, rfl⟩ }

theorem turned_worker (t : Tasks σ) :
    Turned sink t (t.happens t.advanceWorker) t.advanceWorker.2 := by
  unfold advanceWorker
  split
  · next idle =>
    have undone : t.undone = t.session.queue := by
      unfold Tasks.undone
      rw [idle]
      rfl
    have working : t.worker ≠ .ended := by
      rw [idle]
      exact nofun
    split
    · next empty =>
      cases reading : t.reader.isReading with
      | true => exact .idle sink t
      | false => exact .alone rfl (.worked (undone.trans empty) reading)
    · next request queue first =>
      dsimp only
      split
      · next action called =>
        exact .others {
          brings := .refl _
          adds := ⟨[], Outbox.Adds.refl _⟩
          undone := (undone.trans first).symm
          ended := iff_of_false nofun working
          replyUnroutable := rfl
          outgoing := rfl }
      · exact turned_settle sink _ request none working (undone.trans first)
  · next request started action acting =>
    have busy : t.worker.request? = some request := by rw [acting]; rfl
    obtain ⟨adds, kept⟩ := action.advance_adds t.session.surroundings
    rcases advanced : action.advance t.session.surroundings with ⟨stride, surroundings⟩
    rw [advanced] at adds kept
    rcases stride with (settlement | ⟨token, resume⟩) | next
    · obtain rfl := Action.eq_of_settled advanced
      have undone : t.undone = request :: t.session.queue := by
        unfold Tasks.undone
        rw [busy]
        rfl
      exact turned_settle sink started request _ (Worker.ne_ended busy) undone
    · exact .works busy rfl adds kept
    · exact .works busy rfl adds kept
  · next busy waiting =>
    split
    · exact .idle sink t
    · have before : t.worker.request? = some busy.request := by rw [waiting]; rfl
      have adds : t.outbox.Adds [] (t.session.exchange.forget busy.token).outbox :=
        Outbox.Adds.refl _
      have kept : (t.session.exchange.forget busy.token).metrics = t.session.metrics := rfl
      exact .works before rfl ⟨[], adds⟩ kept
  · exact .idle sink t

theorem turned_takeOr {drains : Bool} {none : Writer} (seeking : t.writer = .seeking drains)
    (otherwise : t.outbox.queue = [] → Turned sink t [] { t with writer := none }) :
    Turned sink t (t.happens (.none, t.takeOr drains none)) (t.takeOr drains none) := by
  unfold takeOr
  cases taken : t.outbox.take? with
  | none => exact .alone rfl (otherwise (Outbox.queue_of_take?_eq_none taken))
  | some first => exact .removes (Outbox.added_of_take? taken) (.takes seeking taken)

theorem turned_writer (t : Tasks σ) :
    Turned sink t (t.happens (t.advanceWriter sink)) (t.advanceWriter sink).2 := by
  unfold advanceWriter
  split
  · next polling =>
    have seeking : t.writer = .seeking false := polling
    refine turned_takeOr sink seeking fun empty => ?_
    cases finished : t.reader.isFinished with
    | true => exact .leaves seeking (.inr finished) empty
    | false => exact .looks polling
  · next looking =>
    split
    · next notice => exact .alone rfl (.sees looking notice)
    · exact .alone rfl (.polls looking)
  · next envelope drains writing => exact .alone rfl (.sends writing)
  · next draining =>
    have seeking : t.writer = .seeking true := draining
    exact turned_takeOr sink seeking fun empty => .leaves seeking (.inl rfl) empty
  · next leaving =>
    -- the envelopes that nobody took are dropped with the queue
    exact .removes List.drop_nil (.abandons leaving)
  · exact .idle sink t

/-- Every turn comes to one of these. -/
theorem turned (t : Tasks σ) (turn : Turn) :
    Turned sink t (t.turn sink turn).1 (t.turn sink turn).2 := by
  unfold Tasks.turn
  cases turn with
  | reader => exact turned_reader sink t
  | worker => exact turned_worker sink t
  | writer => exact turned_writer sink t
  | client op =>
    show Turned sink t (t.happens (none, if op.receives then t else _))
      (if op.receives then t else _)
    cases receives : op.receives with
    | true => exact .idle sink t
    | false =>
      have kept := t.session.exchange.outgoing_step op
      exact .others {
        brings := .refl _
        adds := t.session.exchange.adds_step receives
        undone := rfl
        ended := Iff.rfl
        replyUnroutable := rfl
        outgoing := Session.outgoing_congr kept ⟨rfl, rfl⟩ }
  | arrival arrival => exact .quiet (.of_yields (.arrival .nothing arrival))
  | endInput => exact .quiet (.of_yields (.endInput .nothing))
  | time now =>
    exact .others {
      brings := .refl _
      adds := ⟨[], Outbox.Adds.refl _⟩
      undone := rfl
      ended := Iff.rfl
      replyUnroutable := rfl
      outgoing := rfl }

end Tasks

end Hostlink
