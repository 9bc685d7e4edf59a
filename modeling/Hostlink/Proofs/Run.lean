import Hostlink.Proofs.Intake
import Hostlink.Proofs.Session
/-!
What a session writes when all handlers settle their requests at once: the responses to the requests
of the stream, in order. Neither the way in which the input is cut nor the times at which it is
served make a difference.
-/

namespace Hostlink

open Hostlink.Frame (parse isTooLarge)

/-- The response to a request whose handler settles it at once. -/
def answer? (routes : Routes) (replyUnroutable : Bool) (request : Request) : Option Response :=
  let reply : Response := Response.ofRequest request
  match routes.call request.path request with
  | none =>
    if replyUnroutable then
      some { reply with error := some (Fault.unroutable request.path).message }
    else none
  | some (.settle (.reply value)) => some { reply with payload := some value }
  | some (.settle (.failure message)) => some { reply with error := some message }
  | some (.settle (.panic message)) => some { reply with error := some (panicMessage message) }
  | some _ => none

/-- The handler of a request, if there is one, settles it at once. -/
def SettlesAtOnce (routes : Routes) (request : Request) : Prop :=
  ∀ action, routes.call request.path request = some action →
    ∃ settlement, action = .settle settlement

namespace Surroundings

theorem dispatch_at_once {routes : Routes} {request : Request}
    (settles : SettlesAtOnce routes request) (replyUnroutable : Bool) (s : Surroundings) :
    ∃ outcome after, s.dispatch routes replyUnroutable request = (.concluded outcome, after) ∧
      s.exchange.outbox.Adds ((answer? routes replyUnroutable request).toList.map .response)
        after.exchange.outbox := by
  unfold dispatch answer?
  cases found : routes.call request.path request with
  | none => exact ⟨_, _, rfl, adds_conclude replyUnroutable s s.now request none⟩
  | some action =>
    obtain ⟨settlement, rfl⟩ := settles action found
    have adds := adds_conclude replyUnroutable s s.now request (some settlement)
    refine ⟨_, _, rfl, ?_⟩
    cases settlement <;> exact adds

end Surroundings

namespace Session

variable {σ : Type} {sink : Sink σ} {written : σ → Bytes}

theorem dispatchEach_at_once {routes : Routes} {requests : List Request}
    (settles : ∀ request ∈ requests, SettlesAtOnce routes request) (replyUnroutable : Bool)
    (s : Surroundings) :
    ∃ after, dispatchEach routes replyUnroutable s requests = (after, [], none) ∧
      s.exchange.outbox.Adds ((requests.filterMap (answer? routes replyUnroutable)).map .response)
        after.exchange.outbox := by
  induction requests generalizing s with
  | nil => exact ⟨s, rfl, Outbox.Adds.refl _⟩
  | cons request requests ih =>
    obtain ⟨outcome, between, eq, adds⟩ :=
      Surroundings.dispatch_at_once (settles request (by simp)) replyUnroutable s
    obtain ⟨after, eq', adds'⟩ := ih (fun request mem => settles request (by simp [mem])) between
    refine ⟨after, ?_, ?_⟩
    · unfold dispatchEach
      rw [eq]
      exact eq'
    · have all := adds.trans adds'
      rw [List.filterMap_cons]
      cases answered : answer? routes replyUnroutable request with
      | none =>
        rw [answered] at all
        exact all
      | some response =>
        rw [answered] at all
        exact all

/-- No request waits for a response, and nothing is to be written. -/
structure Free (s : Session σ) : Prop where
  isOpen : s.exchange.outbox.isOpen = true
  outbox : s.exchange.outbox.queue = []
  busy : s.busy = none

/-- Nothing is to be dispatched either. -/
structure Idle (s : Session σ) : Prop extends Free s where
  queue : s.queue = []

/-- The bytes that answer requests. -/
def answers (s : Session σ) (requests : List Request) : Bytes :=
  (requests.filterMap (answer? s.routes s.replyUnroutable)).flatMap fun response =>
    Frame.trace s.outlet.limit (.response response)

/-- What serving leads to: requests are answered, and nothing is to be done any more. -/
structure Answered (written : σ → Bytes) (before : Session σ) (requests : List Request)
    (after : Session σ) : Prop where
  idle : after.Idle
  written : written after.sink = written before.sink ++ before.answers requests
  intake : after.intake = before.intake
  outlet : after.outlet = before.outlet
  routes : after.routes = before.routes
  replyUnroutable : after.replyUnroutable = before.replyUnroutable

theorem write_dispatch_write_at_once (accepts : sink.Accepts written) {s : Session σ}
    (free : s.Free) (settles : ∀ request ∈ s.queue, SettlesAtOnce s.routes request) :
    Answered written s s.queue (((s.write sink).dispatch).write sink) := by
  obtain ⟨after, eq, adds⟩ :=
    dispatchEach_at_once settles s.replyUnroutable (s.write sink).surroundings
  obtain ⟨isOpen', queue⟩ := adds free.isOpen
  have cleared : (s.write sink).surroundings.exchange.outbox.queue = [] := rfl
  rw [cleared, List.nil_append] at queue
  have dispatched : (s.write sink).dispatch =
      { s.write sink with surroundings := after, queue := [], busy := none } := by
    unfold dispatch
    have notBusy : (s.write sink).busy = none := free.busy
    rw [notBusy]
    show (s.write sink).dispatchQueue = _
    have eq' : dispatchEach (s.write sink).routes (s.write sink).replyUnroutable
        (s.write sink).surroundings (s.write sink).queue = (after, [], none) := eq
    unfold dispatchQueue
    rw [eq']
  rw [dispatched]
  refine ⟨⟨⟨isOpen', rfl, rfl⟩, rfl⟩, ?_, rfl, rfl, rfl, rfl⟩
  rw [write_written accepts]
  show written (s.write sink).sink ++
    after.exchange.outbox.queue.flatMap (Frame.trace s.outlet.limit) = _
  rw [queue, write_written accepts, free.outbox, List.flatMap_nil, List.append_nil,
    List.flatMap_map]
  rfl

theorem finish_at_once (accepts : sink.Accepts written) {s : Session σ} (free : s.Free)
    (settles : ∀ request ∈ s.queue, SettlesAtOnce s.routes request) :
    written (s.finish sink).sink = written s.sink ++ s.answers s.queue := by
  have closing : Free (s.withExchange s.exchange.close) := ⟨free.isOpen, free.outbox, free.busy⟩
  have answered := write_dispatch_write_at_once accepts closing settles
  exact (close_written accepts _ _).trans answered.written

section serve

variable {s : Session σ} {envelopes : List Envelope} {intake : Intake} {metrics : Metrics}

theorem free_receive (idle : s.Idle) (envelopes : List Envelope) : (s.receive envelopes).Free := by
  refine ⟨?_, ?_, idle.busy⟩
  · rw [receive_outbox]
    exact idle.isOpen
  · rw [receive_outbox]
    exact idle.outbox

theorem queue_receive (idle : s.Idle) (envelopes : List Envelope) :
    (s.receive envelopes).queue = requests envelopes := by
  show s.queue ++ requests envelopes = _
  rw [idle.queue, List.nil_append]

theorem Idle.read (idle : s.Idle) (intake : Intake) (metrics : Metrics) :
    Idle ({ s with intake }.withMetrics metrics) :=
  ⟨⟨idle.isOpen, idle.outbox, idle.busy⟩, idle.queue⟩

theorem serve_blocked (accepts : sink.Accepts written) (idle : s.Idle)
    (read : s.intake.drain s.metrics = (envelopes, .blocked, intake, metrics))
    (settles : ∀ request ∈ requests envelopes, SettlesAtOnce s.routes request) :
    ∃ after, s.serve sink = (none, envelopes, after) ∧
      Answered written { s with intake } (requests envelopes) after := by
  have queue := queue_receive (idle.read intake metrics) envelopes
  have free := free_receive (idle.read intake metrics) envelopes
  have answered := write_dispatch_write_at_once accepts free
    (by rw [queue]; exact settles)
  rw [queue] at answered
  unfold serve
  rw [read]
  exact ⟨_, rfl, answered.idle, answered.written, answered.intake, answered.outlet,
    answered.routes, answered.replyUnroutable⟩

/-- How serving ends after a reading; after others it does not. -/
def ending? : Reading → Option (Except Fault Unit)
  | .ended => some (.ok ())
  | .failed fault => some (.error fault)
  | _ => none

theorem serve_over (accepts : sink.Accepts written) (idle : s.Idle) {last : Reading}
    {ending : Except Fault Unit}
    (read : s.intake.drain s.metrics = (envelopes, last, intake, metrics))
    (ends : ending? last = some ending)
    (settles : ∀ request ∈ requests envelopes, SettlesAtOnce s.routes request) :
    ∃ after, s.serve sink = (some ending, envelopes, after) ∧
      written after.sink = written s.sink ++ s.answers (requests envelopes) := by
  have queue := queue_receive (idle.read intake metrics) envelopes
  have free := free_receive (idle.read intake metrics) envelopes
  have finished := finish_at_once accepts free (by rw [queue]; exact settles)
  rw [queue] at finished
  unfold serve
  rw [read]
  cases last with
  | ended =>
    cases ends
    exact ⟨_, rfl, finished⟩
  | failed fault =>
    cases ends
    exact ⟨_, rfl, finished⟩
  | envelope => contradiction
  | blocked => contradiction

end serve

/-- Serve each time some chunks have arrived, and at last when the input has ended. -/
def run (sink : Sink σ) : List (List Bytes) → Session σ → Option (Except Fault Unit) × Session σ
  | [], s =>
    let (ending, _, s) := s.endInput.serve sink
    (ending, s)
  | chunks :: rest, s =>
    match (chunks.foldl (fun s chunk => s.arrive (.data chunk)) s).serve sink with
    | (none, _, s) => run sink rest s
    | (some ending, _, s) => (some ending, s)

/-- How a stream ends: with a header over the limit, if there is one. -/
def endingOf (items : List (Except Fault Envelope)) : Except Fault Unit :=
  match items.find? isTooLarge with
  | some (.error fault) => .error fault
  | _ => .ok ()

theorem endingOf_append {items : List (Except Fault Envelope)}
    (goOn : ∀ item ∈ items, isTooLarge item = false) (more : List (Except Fault Envelope)) :
    endingOf (items ++ more) = endingOf more := by
  have none : items.find? isTooLarge = none := by
    rw [List.find?_eq_none]
    intro item mem
    rw [goOn item mem]
    decide
  unfold endingOf
  rw [List.find?_append, none, Option.none_or]

theorem endingOf_goesOn {items : List (Except Fault Envelope)}
    (goOn : ∀ item ∈ items, isTooLarge item = false) : endingOf items = .ok () := by
  have := endingOf_append goOn []
  rwa [List.append_nil] at this

theorem endingOf_final {items : List (Except Fault Envelope)}
    (goOn : ∀ item ∈ items, isTooLarge item = false) {fault : Fault}
    (final : isTooLarge (.error fault : Except Fault Envelope)) :
    endingOf (items ++ [.error fault]) = .error fault := by
  rw [endingOf_append goOn]
  unfold endingOf
  rw [List.find?_cons, final]

/-- A session that chunks have arrived at. -/
def arrived (chunks : List Bytes) (s : Session σ) : Session σ :=
  let source := s.intake.source
  let source := { source with arrivals := source.arrivals ++ chunks.map .data }
  { s with intake := { s.intake with source } }

theorem foldl_arrive (chunks : List Bytes) (s : Session σ) :
    chunks.foldl (fun s chunk => s.arrive (.data chunk)) s = s.arrived chunks := by
  induction chunks generalizing s with
  | nil =>
    unfold arrived
    simp only [List.map_nil, List.append_nil]
    rfl
  | cons chunk chunks ih =>
    rw [List.foldl_cons, ih]
    unfold arrived arrive
    simp only [List.map_cons, List.append_assoc, List.singleton_append]

theorem ready_arrived {s : Session σ} {chunks : List Bytes} (ready : s.intake.Ready)
    (nonempty : ∀ chunk ∈ chunks, chunk ≠ []) : (s.arrived chunks).intake.Ready := by
  refine ⟨ready.sound, ?_⟩
  intro arrival mem
  obtain mem | mem := List.mem_append.1 mem
  · exact ready.flows arrival mem
  · obtain ⟨chunk, isChunk, rfl⟩ := List.mem_map.1 mem
    cases chunk with
    | nil => exact absurd rfl (nonempty [] isChunk)
    | cons b bytes => exact ⟨b, bytes, rfl⟩

theorem left_arrived (s : Session σ) (chunks : List Bytes) (later : Bytes) :
    (s.arrived chunks).intake.left later = s.intake.left (chunks.flatten ++ later) := by
  have bytes :
      (s.arrived chunks).intake.source.bytes = s.intake.source.bytes ++ chunks.flatten := by
    unfold Source.bytes arrived
    rw [List.flatMap_append, List.flatMap_map]
    exact congrArg (_ ++ ·) List.flatMap_id'
  unfold Intake.left
  rw [bytes, List.append_assoc]
  rfl

/-- The requests of a stream. -/
def requestsOf (items : List (Except Fault Envelope)) : List Request :=
  requests (Intake.envelopes items)

theorem requestsOf_append (items more : List (Except Fault Envelope)) :
    requestsOf (items ++ more) = requestsOf items ++ requestsOf more := by
  unfold requestsOf requests
  rw [Intake.envelopes_append, List.filterMap_append]

theorem requestsOf_final (items : List (Except Fault Envelope)) (fault : Fault) :
    requestsOf (items ++ [.error fault]) = requestsOf items := by
  rw [requestsOf_append]
  exact List.append_nil _

theorem answers_append (s : Session σ) (first second : List Request) :
    s.answers (first ++ second) = s.answers first ++ s.answers second := by
  unfold answers
  rw [List.filterMap_append, List.flatMap_append]

/-- Serving answers requests of the stream, either some of them or all that there will be. -/
theorem serve_left (accepts : sink.Accepts written) {s : Session σ} (idle : s.Idle)
    (ready : s.intake.Ready) {later : Bytes} (ends : s.intake.source.isEnded = true → later = [])
    (settles : ∀ request ∈ requestsOf (s.intake.left later), SettlesAtOnce s.routes request) :
    (∃ envelopes after items, s.serve sink = (none, envelopes, after) ∧
      s.intake.source.isEnded = false ∧ (∀ item ∈ items, isTooLarge item = false) ∧
      Intake.Passed s.intake items after.intake ∧
      Answered written { s with intake := after.intake } (requestsOf items) after) ∨
    (∃ envelopes after, s.serve sink = (some (endingOf (s.intake.left later)), envelopes, after) ∧
      written after.sink = written s.sink ++ s.answers (requestsOf (s.intake.left later))) := by
  obtain ⟨items, goOn, read, stops, -⟩ := Intake.drain_spec ready s.metrics
  generalize drained : s.intake.drain s.metrics = result at read stops
  obtain ⟨envelopes, last, intake, metrics⟩ := result
  simp only at read stops
  have same : requests envelopes = requestsOf items := by rw [← read]; rfl
  cases stops with
  | blocked passed none empty goesOn =>
    -- these requests are only some of the stream's, but all of the stream's settle at once
    rw [passed.left later, requestsOf_append] at settles
    have first : ∀ request ∈ requests envelopes, SettlesAtOnce s.routes request := by
      intro request mem
      rw [same] at mem
      exact settles request (List.mem_append_left _ mem)
    obtain ⟨after, eq, answered⟩ := serve_blocked accepts idle drained first
    refine .inl ⟨envelopes, after, items, eq, goesOn, goOn, ?_, ?_⟩
    · rw [answered.intake]
      exact passed
    · rw [← same, answered.intake]
      exact answered
  | ended passed none isOver =>
    rw [ends isOver, passed.left, none, List.append_nil] at settles ⊢
    rw [← same] at settles
    obtain ⟨after, eq, all⟩ := serve_over accepts idle drained rfl settles
    refine .inr ⟨envelopes, after, ?_, ?_⟩
    · rw [endingOf_goesOn goOn]
      exact eq
    · rw [← same]
      exact all
  | failed final all =>
    rw [all later, requestsOf_final, ← same] at settles
    obtain ⟨after, eq, wrote⟩ := serve_over accepts idle drained rfl settles
    refine .inr ⟨envelopes, after, ?_, ?_⟩
    · rw [all later, endingOf_final goOn final]
      exact eq
    · rw [all later, requestsOf_final, ← same]
      exact wrote

theorem run_at_once (accepts : sink.Accepts written) {batches : List (List Bytes)}
    (nonempty : ∀ chunks ∈ batches, ∀ chunk ∈ chunks, chunk ≠ []) {s : Session σ} (idle : s.Idle)
    (ready : s.intake.Ready) (goesOn : s.intake.source.isEnded = false)
    (settles : ∀ request ∈ requestsOf (s.intake.left batches.flatten.flatten),
      SettlesAtOnce s.routes request) :
    ∃ last, s.run sink batches = (some (endingOf (s.intake.left batches.flatten.flatten)), last) ∧
      written last.sink =
        written s.sink ++ s.answers (requestsOf (s.intake.left batches.flatten.flatten)) := by
  -- what is left of the stream stays the same when chunks go from later batches to the source
  induction batches generalizing s with
  | nil =>
    have ready' : s.endInput.intake.Ready := ⟨ready.sound, ready.flows⟩
    have idle' : s.endInput.Idle := ⟨⟨idle.isOpen, idle.outbox, idle.busy⟩, idle.queue⟩
    obtain ⟨_, _, _, -, notOver, -⟩ | ⟨envelopes, after, eq, wrote⟩ :=
      serve_left accepts idle' ready' (fun _ => rfl) settles
    · contradiction
    · refine ⟨after, ?_, wrote⟩
      unfold run
      rw [eq]
      rfl
  | cons chunks rest ih =>
    have ready' := ready_arrived ready (nonempty chunks (by simp))
    have idle' : (s.arrived chunks).Idle := ⟨⟨idle.isOpen, idle.outbox, idle.busy⟩, idle.queue⟩
    have same : s.intake.left (chunks :: rest).flatten.flatten =
        (s.arrived chunks).intake.left rest.flatten.flatten := by
      rw [left_arrived, List.flatten_cons, List.flatten_append]
    have goesOn' : (s.arrived chunks).intake.source.isEnded = false := goesOn
    rw [same] at settles ⊢
    unfold run
    rw [foldl_arrive]
    obtain ⟨envelopes, after, items, eq, -, goOn, passed, answered⟩ | ⟨envelopes, after, eq, wrote⟩ :=
      serve_left accepts idle' ready' (by rw [goesOn']; nofun) settles
    · rw [eq, passed.left, endingOf_append goOn, requestsOf_append]
      rw [passed.left, requestsOf_append] at settles
      have routes : after.routes = s.routes := answered.routes
      have outlet : after.outlet = s.outlet := answered.outlet
      have replyUnroutable : after.replyUnroutable = s.replyUnroutable := answered.replyUnroutable
      obtain ⟨last, eq', wrote⟩ := ih (fun chunks mem => nonempty chunks (by simp [mem]))
        answered.idle passed.ready (passed.isEnded.trans goesOn')
        (by rw [routes]; exact fun request mem => settles request (List.mem_append_right _ mem))
      refine ⟨last, eq', ?_⟩
      rw [wrote, answered.written, answers_append, List.append_assoc]
      unfold answers
      rw [routes, outlet, replyUnroutable]
      rfl
    · rw [eq]
      exact ⟨after, rfl, wrote⟩

/--
When every handler that is called settles its request at once, a session that serves until its input
is over writes the frames of the responses to the requests of the stream, in order and nothing else;
a response whose body is too long is left out. Neither the chunks in which the bytes arrive, nor how
many are read or written at once, nor how often the session serves makes a difference.
-/
theorem run_writes_answers (accepts : sink.Accepts written) {s : Session σ} (idle : s.Idle)
    (sound : s.intake.reader.Sound) (flows : s.intake.source.Flows)
    (goesOn : s.intake.source.isEnded = false) {batches : List (List Bytes)}
    (nonempty : ∀ chunks ∈ batches, ∀ chunk ∈ chunks, chunk ≠ []) :
    let stream := s.intake.reader.pending ++ (s.intake.source.bytes ++ batches.flatten.flatten)
    let items := parse Intake.decode s.intake.reader.limit stream
    (∀ request ∈ requestsOf items, SettlesAtOnce s.routes request) →
    ∃ last, s.run sink batches = (some (endingOf items), last) ∧
      written last.sink = written s.sink ++
        ((requestsOf items).filterMap (answer? s.routes s.replyUnroutable)).flatMap fun response =>
          Frame.trace s.outlet.limit (.response response) := by
  intro stream items settles
  exact run_at_once accepts nonempty idle ⟨sound, flows⟩ goesOn settles

theorem run_writes_answers_echo :
    let request : Request := { path := "/a", correlation := "1", path_ne := by decide }
    let response : Response := { correlation := "1", payload := some (.string "/a") }
    let echo : Handler := fun request _ => .settle (.reply (.string request.path))
    let s : Session Bytes.Queue := {
      intake := {}, outlet := {}, sink := .empty, surroundings := {}
      routes := ⟨[⟨0, ⟨"/*", [.wildcard]⟩, echo⟩]⟩ }
    let body := Wire.body (.request request)
    let batches : List (List Bytes) := [[Bytes.ofWord body.length], [body.take 5, body.drop 5]]
    ∃ last, s.run Sink.memory batches = (some (.ok ()), last) ∧
      last.sink.toList = Frame.trace none (.response response) := by
  intro request response echo s body batches
  have fits : Frame.Fits none body.length := Frame.fits_iff.2 (by decide +kernel)
  have portable : Envelope.Portable (.request request) := Envelope.portable_of_none rfl
  have stream : s.intake.reader.pending ++ (s.intake.source.bytes ++ batches.flatten.flatten) =
      Bytes.ofWord body.length ++ body ++ [] := by
    show [] ++ ([] ++ batches.flatten.flatten) = _
    simp [batches]
  have items : parse Intake.decode none (Bytes.ofWord body.length ++ body ++ []) =
      [.ok (.request request)] := by
    rw [Frame.parse_frame _ fits, Frame.parse_nil]
    exact congrArg (· :: []) (Wire.decode_body portable)
  have nonempty : ∀ chunks ∈ batches, ∀ chunk ∈ chunks, chunk ≠ [] := by
    decide +kernel
  have settles : ∀ r ∈ requestsOf [.ok (.request request)], SettlesAtOnce s.routes r := by
    intro r _ action called
    obtain ⟨⟨entry, params⟩, found, rfl⟩ := Option.map_eq_some_iff.1 called
    obtain ⟨route, isRoute, taken⟩ := List.exists_of_findSome?_eq_some found
    obtain ⟨_, -, same⟩ := Option.map_eq_some_iff.1 taken
    obtain rfl := List.mem_singleton.1 isRoute
    cases same
    exact ⟨.reply (.string r.path), rfl⟩
  have matched : Route.Pattern.matches? ⟨"/*", [.wildcard]⟩ "/a" = some ⟨[("*", "a")]⟩ := by
    decide +kernel
  have answered : answer? s.routes s.replyUnroutable request = some response := by
    simp [answer?, Routes.call, Route.Table.find?, s, request, matched, echo, response,
      Response.ofRequest]
  have limit : s.intake.reader.limit = none := rfl
  have idle : s.Idle := ⟨⟨rfl, rfl, rfl⟩, rfl⟩
  have runs := run_writes_answers Sink.memory_accepts idle (Frame.Reader.sound_new none)
    (List.forall_mem_nil _) rfl nonempty
  rw [stream] at runs
  obtain ⟨last, ran, wrote⟩ := runs (items ▸ settles)
  refine ⟨last, ?_, ?_⟩
  · rw [ran, limit, items, endingOf_goesOn (by simp [isTooLarge])]
  · have only : requestsOf [.ok (.request request)] = [request] := rfl
    have empty : s.sink.toList = [] := rfl
    have unlimited : s.outlet.limit = none := rfl
    rw [wrote, limit, items, only, List.filterMap_cons, answered, empty, unlimited]
    simp only [List.filterMap_nil, List.flatMap_cons, List.flatMap_nil, List.append_nil,
      List.nil_append]

end Session
end Hostlink
