import Hostlink.Dispatch
import Hostlink.Session
/-!
What dispatching does to the queue of outgoing envelopes: each request that is settled puts its
response there, if it has one, and whatever else its action puts there are requests.
-/

namespace Hostlink

namespace Envelope

def request? : Envelope → Option Request
  | request r => some r
  | response _ => none

def response? : Envelope → Option Response
  | request _ => none
  | response r => some r

end Envelope

/-- The responses among envelopes. -/
def responses (envelopes : List Envelope) : List Response :=
  envelopes.filterMap Envelope.response?

@[simp]
theorem responses_append (envelopes more : List Envelope) :
    responses (envelopes ++ more) = responses envelopes ++ responses more :=
  List.filterMap_append

@[simp]
theorem responses_map_response (rs : List Response) : responses (rs.map .response) = rs := by
  unfold responses
  rw [List.filterMap_map]
  exact List.filterMap_some

theorem mem_of_mem_responses {response : Response} {envelopes : List Envelope}
    (h : response ∈ responses envelopes) : .response response ∈ envelopes := by
  obtain ⟨envelope, mem, eq⟩ := List.mem_filterMap.1 h
  cases envelope with
  | request => contradiction
  | response => cases eq; exact mem

theorem responses_filter (p : Envelope → Bool) (envelopes : List Envelope) :
    responses (envelopes.filter p) = (responses envelopes).filter fun r => p (.response r) := by
  unfold responses
  rw [List.filterMap_filter, List.filter_filterMap]
  congr 1
  funext envelope
  cases envelope with
  | request r => exact ite_self _
  | response r => rfl

namespace Outbox

/-- An open queue stays open and gets these envelopes at its end. -/
def Adds (before : Outbox) (envelopes : List Envelope) (after : Outbox) : Prop :=
  before.isOpen = true → after.isOpen = true ∧ after.queue = before.queue ++ envelopes

variable {before between after : Outbox} {envelopes more : List Envelope}

theorem Adds.refl (outbox : Outbox) : outbox.Adds [] outbox :=
  fun isOpen => ⟨isOpen, (List.append_nil _).symm⟩

theorem Adds.trans (first : before.Adds envelopes between) (second : between.Adds more after) :
    before.Adds (envelopes ++ more) after := by
  intro isOpen
  obtain ⟨isOpen', queue'⟩ := first isOpen
  obtain ⟨isOpen'', queue''⟩ := second isOpen'
  exact ⟨isOpen'', by rw [queue'', queue', List.append_assoc]⟩

theorem adds_send? {envelope : Envelope} (h : before.send? envelope = some after) :
    before.Adds [envelope] after := by
  intro isOpen
  refine ⟨?_, queue_send? h⟩
  unfold send? at h
  rw [if_pos isOpen] at h
  rw [← Option.some.inj h]
  exact isOpen

theorem adds_offer (outbox : Outbox) (envelope : Envelope) :
    outbox.Adds [envelope] (outbox.offer envelope) := by
  intro isOpen
  have sent : outbox.send? envelope = some { outbox with latest := envelope :: outbox.latest } :=
    if_pos isOpen
  unfold offer
  rw [sent]
  exact adds_send? sent isOpen

end Outbox

theorem Exchange.adds_post {x after : Exchange} {request : Request} {deadline : Option Nat}
    {token : Nat} (h : x.post request deadline = .ok (token, after)) :
    x.outbox.Adds [.request request] after.outbox := by
  unfold post at h
  split at h
  · contradiction
  · split at h
    · contradiction
    · split at h
      · contradiction
      · next outbox sent =>
        cases h
        exact Outbox.adds_send? sent

theorem Surroundings.adds_log (s : Surroundings) (event : Log.Event) :
    ∃ asked, responses asked = [] ∧ s.exchange.outbox.Adds asked (s.log event).exchange.outbox := by
  unfold log
  split
  · exact ⟨[], rfl, Outbox.Adds.refl _⟩
  · exact ⟨[_], rfl, Outbox.adds_offer _ _⟩

/-- While an action goes on, it puts nothing but requests into the queue. -/
theorem Action.adds_proceed (action : Action) (s : Surroundings) :
    ∃ asked, responses asked = [] ∧
      s.exchange.outbox.Adds asked (action.proceed s).2.exchange.outbox := by
  induction action generalizing s with
  | settle settlement => exact ⟨[], rfl, Outbox.Adds.refl _⟩
  | ask request wait resume ih =>
    unfold proceed
    split
    -- what cannot be posted leaves the queue as it is
    · exact ih _ s
    · next token exchange posted =>
      have adds := Exchange.adds_post posted
      split
      · obtain ⟨asked, quiet, more⟩ :=
          ih (.error .timeout) { s with exchange := exchange.forget token }
        exact ⟨.request request :: asked, quiet, adds.trans more⟩
      · exact ⟨[.request request], rfl, adds⟩
  | log event next ih =>
    obtain ⟨logged, quiet, adds⟩ := s.adds_log event
    obtain ⟨asked, quiet', more⟩ := ih (s.log event)
    refine ⟨logged ++ asked, ?_, adds.trans more⟩
    rw [responses_append, quiet, quiet']
    rfl
  | inspect resume ih => exact ih _ _ s

/-- A request with how it was settled; one without a route is settled by nothing. -/
structure Settled where
  request : Request
  settlement : Option Settlement

/-- The response that a settled request leads to. -/
def Settled.response? (replyUnroutable : Bool) (settled : Settled) : Option Response :=
  Response.ofSettlement replyUnroutable settled.request settled.settlement

/-- A response goes where its request came from. -/
theorem Settled.of_response? {replyUnroutable : Bool} {settled : Settled} {response : Response}
    (h : settled.response? replyUnroutable = some response) :
    response.correlation = settled.request.correlation ∧
      response.channel = settled.request.channel := by
  obtain ⟨request, settlement⟩ := settled
  unfold response? Response.ofSettlement at h
  split at h
  · split at h
    · cases h
      exact ⟨rfl, rfl⟩
    · contradiction
  all_goals
    cases h <;> exact ⟨rfl, rfl⟩

namespace Surroundings

variable (routes : Routes) (replyUnroutable : Bool)

theorem adds_conclude (s : Surroundings) (started : Nat) (request : Request)
    (settlement : Option Settlement) :
    s.exchange.outbox.Adds
      ((Response.ofSettlement replyUnroutable request settlement).toList.map .response)
      (s.conclude replyUnroutable started request settlement).2.exchange.outbox := by
  unfold conclude Exchange.conclude
  cases Response.ofSettlement replyUnroutable request settlement with
  | none => exact Outbox.Adds.refl _
  | some response => exact Outbox.adds_offer _ _

/-- What an action settles its request with, if it need not wait. -/
def settlement? (s : Surroundings) (action : Action) : Option Settlement :=
  match (action.proceed s).1 with
  | .settled settlement => some settlement
  | .waiting _ _ => none

theorem follow_of_settlement? {s : Surroundings} {action : Action} {settlement : Settlement}
    (h : s.settlement? action = some settlement) (started : Nat) (request : Request) :
    ∃ outcome after envelopes,
      s.follow replyUnroutable started request action = (.concluded outcome, after) ∧
      s.exchange.outbox.Adds envelopes after.exchange.outbox ∧
      responses envelopes =
        (Settled.response? replyUnroutable ⟨request, some settlement⟩).toList := by
  obtain ⟨asked, quiet, adds⟩ := action.adds_proceed s
  unfold settlement? at h
  unfold follow
  generalize action.proceed s = progress at h adds
  obtain ⟨progress, s'⟩ := progress
  cases progress with
  | waiting => contradiction
  | settled settlement' =>
    cases h
    refine ⟨_, _, _, rfl, adds.trans (adds_conclude replyUnroutable s' started request _), ?_⟩
    rw [responses_append, responses_map_response, quiet]
    rfl

theorem follow_of_waiting {s : Surroundings} {action : Action} (h : s.settlement? action = none)
    (started : Nat) (request : Request) :
    ∃ token resume after asked,
      s.follow replyUnroutable started request action = (.waiting token resume, after) ∧
      s.exchange.outbox.Adds asked after.exchange.outbox ∧ responses asked = [] := by
  obtain ⟨asked, quiet, adds⟩ := action.adds_proceed s
  unfold settlement? at h
  unfold follow
  generalize action.proceed s = progress at h adds
  obtain ⟨progress, s'⟩ := progress
  cases progress with
  | waiting token resume => exact ⟨token, resume, s', asked, rfl, adds, quiet⟩
  | settled => contradiction

/-- How a request is settled that is begun now, if it need not wait. -/
def begin? (s : Surroundings) (request : Request) : Option Settled :=
  match routes.call request.path request with
  | none => some ⟨request, none⟩
  | some action => (s.settlement? action).map fun settlement => ⟨request, some settlement⟩

theorem dispatch_of_begin? {s : Surroundings} {request : Request} {settled : Settled}
    (h : s.begin? routes request = some settled) :
    settled.request = request ∧ ∃ outcome after envelopes,
      s.dispatch routes replyUnroutable request = (.concluded outcome, after) ∧
      s.exchange.outbox.Adds envelopes after.exchange.outbox ∧
      responses envelopes = (settled.response? replyUnroutable).toList := by
  unfold begin? at h
  unfold dispatch
  cases found : routes.call request.path request with
  | none =>
    rw [found] at h
    cases h
    refine ⟨rfl, _, _, _, rfl, adds_conclude replyUnroutable s s.now request none, ?_⟩
    rw [responses_map_response]
    rfl
  | some action =>
    rw [found] at h
    obtain ⟨settlement, settles, rfl⟩ := Option.map_eq_some_iff.1 h
    exact ⟨rfl, follow_of_settlement? replyUnroutable settles s.now request⟩

theorem dispatch_of_waiting {s : Surroundings} {request : Request}
    (h : s.begin? routes request = none) :
    ∃ token resume after asked,
      s.dispatch routes replyUnroutable request = (.waiting token resume, after) ∧
      s.exchange.outbox.Adds asked after.exchange.outbox ∧ responses asked = [] := by
  unfold begin? at h
  unfold dispatch
  cases found : routes.call request.path request with
  | none =>
    rw [found] at h
    contradiction
  | some action =>
    rw [found] at h
    exact follow_of_waiting replyUnroutable (Option.map_eq_none_iff.1 h) s.now request

end Surroundings

namespace Session

/-- The requests of a queue that are settled when it is dispatched. -/
def settledEach (routes : Routes) (replyUnroutable : Bool) (s : Surroundings) :
    List Request → List Settled
  | [] => []
  | request :: rest =>
    match s.begin? routes request with
    | some settled =>
      settled ::
        settledEach routes replyUnroutable (s.dispatch routes replyUnroutable request).2 rest
    | none => []

/-- Dispatching a queue settles its first requests in order, and keeps the others. -/
theorem dispatchEach_spec (routes : Routes) (replyUnroutable : Bool) (s : Surroundings)
    (requests : List Request) :
    ∃ after rest busy envelopes,
      dispatchEach routes replyUnroutable s requests = (after, rest, busy) ∧
      requests = (settledEach routes replyUnroutable s requests).map Settled.request ++
        ((busy.map Busy.request).toList ++ rest) ∧
      s.exchange.outbox.Adds envelopes after.exchange.outbox ∧
      responses envelopes = (settledEach routes replyUnroutable s requests).filterMap
        (Settled.response? replyUnroutable) := by
  induction requests generalizing s with
  | nil => exact ⟨s, [], none, [], rfl, rfl, Outbox.Adds.refl _, rfl⟩
  | cons request requests ih =>
    unfold dispatchEach settledEach
    cases begun : s.begin? routes request with
    | some settled =>
      obtain ⟨same, outcome, s', first, eq, adds, leads⟩ :=
        Surroundings.dispatch_of_begin? routes replyUnroutable begun
      obtain ⟨after, rest, busy, more, eq', split, adds', leads'⟩ := ih s'
      rw [eq]
      refine ⟨after, rest, busy, first ++ more, eq', ?_, adds.trans adds', ?_⟩
      · rw [List.map_cons, same, List.cons_append, ← split]
      · rw [responses_append, leads, leads', List.filterMap_cons]
        cases settled.response? replyUnroutable <;> rfl
    | none =>
      -- the request that has to wait is kept in front of those that come after it
      obtain ⟨token, resume, s', asked, eq, adds, quiet⟩ :=
        Surroundings.dispatch_of_waiting routes replyUnroutable begun
      rw [eq]
      exact ⟨_, _, _, asked, rfl, rfl, adds, quiet⟩

end Session
end Hostlink
