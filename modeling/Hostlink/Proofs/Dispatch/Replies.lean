import Hostlink.Proofs.Dispatch
import Hostlink.Proofs.Metrics.Family
/-!
What dispatching comes to when every handler settles its request at once: the responses of the
requests, in their order, each of which depends on its own request only. Every request is counted
once by its outcome, and failures are counted by their reason.
-/

namespace Hostlink

/-- What a handler does that settles its requests at once. -/
abbrev Reaction := Request → Route.Params → Settlement

namespace Route.Table

/-- How a table settles a request; nothing, if no route matches. -/
def settlement? (table : Route.Table Reaction) (request : Request) : Option Settlement :=
  (table.find? request.path).map fun (entry, params) => entry.handler request params

/-- The routes that settle requests as a table does. -/
def routes (table : Route.Table Reaction) : Routes :=
  ⟨table.entries.map fun entry =>
    ⟨entry.id, entry.pattern, fun request params => .settle (entry.handler request params)⟩⟩

theorem call_routes (table : Route.Table Reaction) (request : Request) :
    table.routes.call request.path request = (table.settlement? request).map .settle := by
  unfold Routes.call settlement? find? routes
  rw [List.findSome?_map, Option.map_map]
  induction table.entries with
  | nil => rfl
  | cons entry entries ih =>
    rw [List.findSome?_cons, List.findSome?_cons]
    cases matched : entry.pattern.matches? request.path with
    | none =>
      simp only [Function.comp_apply, matched]
      exact ih
    | some params =>
      simp only [Function.comp_apply, matched]
      rfl

end Route.Table

/-- The responses to a request that was settled so. -/
def replies (replyUnroutable : Bool) (request : Request) (settlement : Option Settlement) :
    List Response :=
  let failed (message : String) : Response :=
    { correlation := request.correlation, channel := request.channel, error := some message }
  match settlement with
  | some (.reply value) =>
    [{ correlation := request.correlation, channel := request.channel, payload := some value }]
  | some .silence => []
  | some (.failure message) => [failed message]
  | some (.panic text) => [failed ("handler panicked: " ++ text.getD "unknown panic")]
  | none => if replyUnroutable then [failed ("unroutable: " ++ request.path)] else []

theorem toList_ofSettlement (replyUnroutable : Bool) (request : Request)
    (settlement : Option Settlement) :
    (Response.ofSettlement replyUnroutable request settlement).toList =
      replies replyUnroutable request settlement := by
  cases settlement with
  | none => cases replyUnroutable <;> rfl
  | some settlement => cases settlement <;> rfl

theorem of_mem_replies {replyUnroutable : Bool} {request : Request}
    {settlement : Option Settlement} {response : Response}
    (mem : response ∈ replies replyUnroutable request settlement) :
    response.correlation = request.correlation ∧ response.channel = request.channel ∧
      (response.payload = none ∨ response.error = none) := by
  cases settlement with
  | none =>
    cases replyUnroutable with
    | true =>
      cases List.mem_singleton.1 mem
      exact ⟨rfl, rfl, .inl rfl⟩
    | false => contradiction
  | some settlement =>
    cases settlement with
    | reply value =>
      cases List.mem_singleton.1 mem
      exact ⟨rfl, rfl, .inr rfl⟩
    | silence => contradiction
    | failure message =>
      cases List.mem_singleton.1 mem
      exact ⟨rfl, rfl, .inl rfl⟩
    | panic text =>
      cases List.mem_singleton.1 mem
      exact ⟨rfl, rfl, .inl rfl⟩

namespace Surroundings

variable (table : Route.Table Reaction) (replyUnroutable : Bool)

/-- Settle a request as a table does. -/
def settle (s : Surroundings) (request : Request) : Surroundings :=
  (s.conclude replyUnroutable s.now request (table.settlement? request)).2

theorem dispatch_routes (s : Surroundings) (request : Request) :
    ∃ outcome, s.dispatch table.routes replyUnroutable request =
      (.concluded outcome, s.settle table replyUnroutable request) := by
  unfold dispatch settle
  rw [Route.Table.call_routes]
  cases table.settlement? request <;> exact ⟨_, rfl⟩

theorem adds_settle (s : Surroundings) (request : Request) :
    s.exchange.outbox.Adds
      ((replies replyUnroutable request (table.settlement? request)).map .response)
      (s.settle table replyUnroutable request).exchange.outbox := by
  rw [← toList_ofSettlement]
  exact adds_conclude replyUnroutable s s.now request _

theorem adds_settleEach (s : Surroundings) (requests : List Request) :
    s.exchange.outbox.Adds
      ((requests.flatMap fun request =>
        replies replyUnroutable request (table.settlement? request)).map .response)
      (requests.foldl (settle table replyUnroutable) s).exchange.outbox := by
  induction requests generalizing s with
  | nil => exact Outbox.Adds.refl _
  | cons request requests ih =>
    rw [List.flatMap_cons, List.map_append]
    exact (adds_settle table replyUnroutable s request).trans (ih _)

theorem dispatchEach_routes (s : Surroundings) (requests : List Request) :
    Session.dispatchEach table.routes replyUnroutable s requests =
      (requests.foldl (settle table replyUnroutable) s, [], none) := by
  induction requests generalizing s with
  | nil => rfl
  | cons request requests ih =>
    obtain ⟨outcome, eq⟩ := dispatch_routes table replyUnroutable s request
    unfold Session.dispatchEach
    rw [eq]
    exact ih _

end Surroundings

/-- Why a request that was settled so counts as a failure of its handler, if it does. -/
def failureReason? : Option Settlement → Option String
  | some (.failure _) => some "error"
  | some (.panic _) => some "panic"
  | _ => none

namespace Metrics

theorem failures_countSettlement (m : Metrics) (settlement : Option Settlement) (reason : String) :
    (m.countSettlement settlement).handlerFailures.get [("reason", reason)] =
      m.handlerFailures.get [("reason", reason)] +
        if failureReason? settlement == some reason then 1 else 0 := by
  have counts := m.handlerFailures.get_increment_label "reason"
  cases settlement with
  | none => exact (UInt64.add_zero _).symm
  | some settlement =>
    cases settlement with
    | reply value => exact (UInt64.add_zero _).symm
    | silence => exact (UInt64.add_zero _).symm
    | failure message => exact counts "error" reason
    | panic text => exact counts "panic" reason

theorem unroutable_countSettlement (m : Metrics) (settlement : Option Settlement) :
    (m.countSettlement settlement).unroutable.get [] =
      m.unroutable.get [] + if settlement.isNone then 1 else 0 := by
  cases settlement with
  | none => exact Counter.get_increment _ _
  | some settlement => cases settlement <;> exact (UInt64.add_zero _).symm

theorem durations_countOutcome (m : Metrics) (outcome : Outcome) (micros : Nat) (label : String) :
    (m.countOutcome outcome micros).dispatchDuration.count [("outcome", label)] =
      m.dispatchDuration.count [("outcome", label)] + if outcome.label == label then 1 else 0 :=
  m.dispatchDuration.count_observe_label "outcome" outcome.label label micros

end Metrics

namespace Surroundings

variable (table : Route.Table Reaction) (replyUnroutable : Bool)

theorem failures_settleEach (s : Surroundings) (requests : List Request) (reason : String) :
    (requests.foldl (settle table replyUnroutable) s).exchange.metrics.handlerFailures.get
        [("reason", reason)] =
      s.exchange.metrics.handlerFailures.get [("reason", reason)] +
        UInt64.ofNat (requests.countP
          fun request => failureReason? (table.settlement? request) == some reason) :=
  Metrics.foldl_eq_countP (·.exchange.metrics.handlerFailures.get [("reason", reason)]) _
    (fun s request =>
      s.exchange.metrics.failures_countSettlement (table.settlement? request) reason) s requests

theorem unroutable_settleEach (s : Surroundings) (requests : List Request) :
    (requests.foldl (settle table replyUnroutable) s).exchange.metrics.unroutable.get [] =
      s.exchange.metrics.unroutable.get [] +
        UInt64.ofNat (requests.countP fun request => (table.settlement? request).isNone) :=
  Metrics.foldl_eq_countP (·.exchange.metrics.unroutable.get []) _
    (fun s request =>
      s.exchange.metrics.unroutable_countSettlement (table.settlement? request)) s requests

/-- Whether a request has an outcome with this label. -/
def hasLabel (label : String) (request : Request) : Bool :=
  (Outcome.ofSettlement (table.settlement? request)).label == label

theorem durations_settleEach (s : Surroundings) (requests : List Request) (label : String) :
    (requests.foldl (settle table replyUnroutable) s).exchange.metrics.dispatchDuration.count
        [("outcome", label)] =
      s.exchange.metrics.dispatchDuration.count [("outcome", label)] +
        UInt64.ofNat (requests.countP (hasLabel table label)) := by
  refine Metrics.foldl_eq_countP
    (·.exchange.metrics.dispatchDuration.count [("outcome", label)]) _ ?_ s requests
  intro s request
  let settlement := table.settlement? request
  have settled : (s.exchange.metrics.countSettlement settlement).dispatchDuration =
      s.exchange.metrics.dispatchDuration := by
    cases settlement with
    | none => rfl
    | some settlement => cases settlement <;> rfl
  have counted := (s.exchange.metrics.countSettlement settlement).durations_countOutcome
    (Outcome.ofSettlement settlement) ((s.now - s.now) * 1000) label
  rwa [settled] at counted

theorem countP_hasLabel (requests : List Request) :
    requests.countP (hasLabel table "replied") + requests.countP (hasLabel table "silent") +
        requests.countP (hasLabel table "failed") +
        requests.countP (hasLabel table "unroutable") = requests.length := by
  have one : ∀ request ∈ requests,
      [hasLabel table "replied", hasLabel table "silent", hasLabel table "failed",
        hasLabel table "unroutable"].countP (· request) = if true then 1 else 0 := by
    intro request _
    show ["replied", "silent", "failed", "unroutable"].countP
      ((Outcome.ofSettlement (table.settlement? request)).label == ·) = 1
    cases Outcome.ofSettlement (table.settlement? request) <;> rfl
  have sum := Metrics.foldr_countP one
  rw [List.countP_true] at sum
  rw [← sum, Nat.add_assoc, Nat.add_assoc]
  rfl

/-- The number of durations that were seen, whatever the outcome. -/
def seen (m : Metrics) : UInt64 :=
  let count (label : String) := m.dispatchDuration.count [("outcome", label)]
  count "replied" + count "silent" + count "failed" + count "unroutable"

theorem seen_settleEach (s : Surroundings) (requests : List Request) :
    seen (requests.foldl (settle table replyUnroutable) s).exchange.metrics =
      seen s.exchange.metrics + UInt64.ofNat requests.length := by
  rw [← countP_hasLabel table requests]
  unfold seen
  simp only [durations_settleEach, UInt64.ofNat_add]
  ac_rfl

end Surroundings

namespace Session

open Surroundings (seen)

/--
Requests that are settled at once are answered in their order, each by what its own handler does and
with its own correlation and channel. What comes of one request makes no difference to the others,
and each is counted by its outcome, its failure or its lack of a route.
-/
theorem dispatchEach_replies (table : Route.Table Reaction) (replyUnroutable : Bool)
    {s : Surroundings} (isOpen : s.exchange.outbox.isOpen = true) (requests : List Request) :
    let answers (table : Route.Table Reaction) (request : Request) : List Response :=
      replies replyUnroutable request (table.settlement? request)
    let queue (responses : List Response) : List Envelope :=
      s.exchange.outbox.queue ++ responses.map .response
    let number (p : Option Settlement → Bool) : UInt64 :=
      UInt64.ofNat (requests.countP fun request => p (table.settlement? request))
    ∃ after, dispatchEach table.routes replyUnroutable s requests = (after, [], none) ∧
      after.exchange.outbox.queue = queue (requests.flatMap (answers table)) ∧
      (∀ request ∈ requests, ∀ response ∈ answers table request,
        response.correlation = request.correlation ∧ response.channel = request.channel ∧
          (response.payload = none ∨ response.error = none)) ∧
      (∀ first request last, requests = first ++ request :: last →
        ∀ (other : Route.Table Reaction) (changed : Request),
          (∀ same ∈ first ++ last, other.settlement? same = table.settlement? same) →
          ∃ after', dispatchEach other.routes replyUnroutable s (first ++ changed :: last) =
              (after', [], none) ∧
            after.exchange.outbox.queue = queue (first.flatMap (answers table) ++
              (answers table request ++ last.flatMap (answers table))) ∧
            after'.exchange.outbox.queue = queue (first.flatMap (answers table) ++
              (answers other changed ++ last.flatMap (answers table)))) ∧
      seen after.exchange.metrics = seen s.exchange.metrics + UInt64.ofNat requests.length ∧
      (∀ label, after.exchange.metrics.dispatchDuration.count [("outcome", label)] =
        s.exchange.metrics.dispatchDuration.count [("outcome", label)] +
          number fun settlement => (Outcome.ofSettlement settlement).label == label) ∧
      (∀ reason, after.exchange.metrics.handlerFailures.get [("reason", reason)] =
        s.exchange.metrics.handlerFailures.get [("reason", reason)] +
          number fun settlement => failureReason? settlement == some reason) ∧
      after.exchange.metrics.unroutable.get [] =
        s.exchange.metrics.unroutable.get [] + number Option.isNone := by
  intro answers queue number
  have queued (table : Route.Table Reaction) (requests : List Request) :=
    (Surroundings.adds_settleEach table replyUnroutable s requests isOpen).2
  refine ⟨_, Surroundings.dispatchEach_routes table replyUnroutable s requests,
    queued table requests, fun request _ response mem => of_mem_replies mem, ?_,
    Surroundings.seen_settleEach table replyUnroutable s requests,
    Surroundings.durations_settleEach table replyUnroutable s requests,
    Surroundings.failures_settleEach table replyUnroutable s requests,
    Surroundings.unroutable_settleEach table replyUnroutable s requests⟩
  rintro first request last rfl other changed same
  refine ⟨_, Surroundings.dispatchEach_routes other replyUnroutable s _, ?_, ?_⟩
  · rw [queued, List.flatMap_append, List.flatMap_cons]
  · have agree {part : List Request} (sub : part ⊆ first ++ last) :
        part.flatMap (answers other) = part.flatMap (answers table) := by
      rw [List.flatMap_def, List.flatMap_def]
      refine congrArg List.flatten (List.map_congr_left ?_)
      intro request mem
      exact congrArg (replies replyUnroutable request) (same request (sub mem))
    rw [queued, List.flatMap_append, List.flatMap_cons]
    show queue (first.flatMap (answers other) ++ (_ ++ last.flatMap (answers other))) = _
    rw [agree (List.subset_append_left first last), agree (List.subset_append_right first last)]

theorem dispatchEach_replies_mixed :
    let quiet : Request := { path := "/quiet", correlation := "1", path_ne := by decide }
    let crash : Request := { path := "/crash", correlation := "2", path_ne := by decide }
    let react : Reaction := fun request _ =>
      if request.path = "/quiet" then .reply .null else .panic none
    let table : Route.Table Reaction := ⟨[⟨0, ⟨"/*", [.wildcard]⟩, react⟩]⟩
    let s : Surroundings := {}
    ∃ after, dispatchEach table.routes false s [quiet, crash] = (after, [], none) ∧
      after.exchange.outbox.queue =
        [.response { correlation := "1", payload := some .null },
          .response { correlation := "2", error := some "handler panicked: unknown panic" }] ∧
      seen after.exchange.metrics = 2 ∧
      after.exchange.metrics.handlerFailures.get [("reason", "panic")] = 1 := by
  intro quiet crash react table s
  have settles (request : Request)
      (matched : (Route.Pattern.matches? ⟨"/*", [.wildcard]⟩ request.path).isSome) :
      table.settlement? request = some (react request {}) := by
    obtain ⟨params, matched⟩ := Option.isSome_iff_exists.1 matched
    unfold Route.Table.settlement? Route.Table.find?
    rw [List.findSome?_cons, matched]
    rfl
  have first : table.settlement? quiet = some (.reply .null) := settles quiet (by decide +kernel)
  have second : table.settlement? crash = some (.panic none) := settles crash (by decide +kernel)
  obtain ⟨after, eq, queue, -, -, durations, -, failures, -⟩ :=
    dispatchEach_replies table false (s := s) rfl [quiet, crash]
  refine ⟨after, eq, ?_, durations, ?_⟩
  · rw [queue]
    simp only [List.flatMap_cons, first, second]
    rfl
  · rw [failures]
    simp only [List.countP_cons, first, second]
    rfl

end Session
end Hostlink
