import Hostlink.Proofs.Handshake
import Hostlink.Proofs.Intake.Delivery
import Hostlink.Proofs.Reading
/-!
The handshake over a whole stream. All frames up to the first request that shakes hands are passed
over, but for the responses, which go to who waits for them. This request gets the only frame that
is written, and what follows it is left to whoever reads next.
-/

namespace Hostlink

open Hostlink.Frame (parse isTooLarge)
open Hostlink.Intake (Passed Ready envelopes)

namespace Exchange

/-- Take responses in, in order. -/
def takeIn (x : Exchange) (responses : List Response) : Exchange :=
  responses.foldl (fun x response => (x.complete response).2) x

/-- The same exchange, but for what is counted of other things than responses nobody waits for. -/
def Alike (x y : Exchange) : Prop :=
  ∃ m : Metrics, m.orphanResponses = x.metrics.orphanResponses ∧ y = { x with metrics := m }

theorem Alike.refl (x : Exchange) : Alike x x :=
  ⟨x.metrics, rfl, rfl⟩

theorem Alike.trans {x y z : Exchange} (first : Alike x y) (second : Alike y z) : Alike x z := by
  obtain ⟨m, same, rfl⟩ := first
  obtain ⟨m', same', rfl⟩ := second
  exact ⟨m', same'.trans same, rfl⟩

theorem Alike.complete {x y : Exchange} (alike : Alike x y) (response : Response) :
    Alike (x.complete response).2 (y.complete response).2 := by
  obtain ⟨m, same, rfl⟩ := alike
  let orphanResponses := (x.complete response).2.metrics.orphanResponses
  exact ⟨{ m with orphanResponses }, rfl, (complete_counted x response same).symm⟩

theorem Alike.takeIn {x y : Exchange} (alike : Alike x y) (responses : List Response) :
    Alike (x.takeIn responses) (y.takeIn responses) := by
  induction responses generalizing x y with
  | nil => exact alike
  | cons response responses ih => exact ih (alike.complete response)

theorem takeIn_append (x : Exchange) (responses more : List Response) :
    x.takeIn (responses ++ more) = (x.takeIn responses).takeIn more :=
  List.foldl_append

end Exchange

namespace Session

variable {σ γ : Type} {s between after : Session σ} {items more : List (Except Fault Envelope)}

/-- The responses of a stream. -/
def responsesOf (items : List (Except Fault Envelope)) : List Response :=
  responses (envelopes items)

theorem responsesOf_append (items more : List (Except Fault Envelope)) :
    responsesOf (items ++ more) = responsesOf items ++ responsesOf more := by
  unfold responsesOf
  rw [Intake.envelopes_append, responses_append]

/-- Whether a frame of a stream holds the request that shakes hands. -/
def isGreeting : Except Fault Envelope → Bool
  | .ok (.request request) => request.path = initializePath
  | _ => false

/-- These items of a stream have been read, and nothing has come of them but responses. -/
structure Overheard (before : Session σ) (items : List (Except Fault Envelope))
    (after : Session σ) : Prop where
  exchange : (before.exchange.takeIn (responsesOf items)).Alike after.exchange
  rest : after = { before with intake := after.intake }.withExchange after.exchange

theorem Overheard.trans (first : Overheard s items between)
    (second : Overheard between more after) : Overheard s (items ++ more) after where
  exchange := by
    rw [responsesOf_append, Exchange.takeIn_append]
    exact (first.exchange.takeIn _).trans second.exchange
  rest := by
    refine second.rest.trans ?_
    rw [first.rest]
    rfl

theorem Overheard.sink (overheard : Overheard s items after) : after.sink = s.sink := by
  rw [overheard.rest]
  rfl

theorem Overheard.but (overheard : Overheard s items after) :
    after = { s with intake := after.intake, sink := after.sink }.withExchange after.exchange := by
  rw [overheard.sink]
  exact overheard.rest

theorem Overheard.silent (silent : Intake.Silent items) (intake : Intake) {m : Metrics}
    (same : m.orphanResponses = s.metrics.orphanResponses) :
    Overheard s items (s.takenIn intake m) where
  exchange := by
    unfold responsesOf
    rw [Intake.envelopes_silent silent]
    exact ⟨m, same, rfl⟩
  rest := rfl

theorem Overheard.response (response : Response) (s : Session σ) :
    Overheard s [.ok (.response response)] (s.withExchange (s.exchange.complete response).2) :=
  ⟨.refl _, rfl⟩

theorem Overheard.request (request : Request) (s : Session σ) :
    Overheard s [.ok (.request request)] s :=
  ⟨.refl _, rfl⟩

variable [Json.Decode γ] {sink : Sink σ}

/-- What shaking hands comes to behind these items of the stream. -/
inductive Shaken (sink : Sink σ) (before : Session σ) :
    List (Except Fault Envelope) → Handshake γ × Session σ → Prop where
  | waiting {items : List (Except Fault Envelope)} {after : Session σ}
      (overheard : Overheard before items after)
      (passed : Passed before.intake items after.intake) (none : after.intake.left [] = [])
      (goesOn : before.intake.source.isEnded = false) : Shaken sink before items (.waiting, after)
  | greeted {items : List (Except Fault Envelope)} {between : Session σ} {request : Request}
      (overheard : Overheard before items between)
      (passed : Passed before.intake (items ++ [.ok (.request request)]) between.intake)
      (path : request.path = initializePath) :
      Shaken sink before items (between.answer γ sink request)
  | ended {items : List (Except Fault Envelope)} {after : Session σ}
      (overheard : Overheard before items after)
      (all : before.intake.left [] = items) (ends : before.intake.source.isEnded = true) :
      Shaken sink before items (.refused .connectionClosed, after)
  | failed {items : List (Except Fault Envelope)} {after : Session σ} {fault : Fault}
      (overheard : Overheard before items after)
      (final : isTooLarge (.error fault : Except Fault Envelope))
      (all : ∀ later, before.intake.left later = items ++ [.error fault]) :
      Shaken sink before items (.refused fault, after)

theorem Shaken.prepend {result : Handshake γ × Session σ} (overheard : Overheard s items between)
    (passed : Passed s.intake items between.intake) (shaken : Shaken sink between more result) :
    Shaken sink s (items ++ more) result := by
  cases shaken with
  | waiting overheard' passed' none goesOn =>
    exact .waiting (overheard.trans overheard') (passed.trans passed') none
      (passed.isEnded ▸ goesOn)
  | greeted overheard' passed' path =>
    refine .greeted (overheard.trans overheard') ?_ path
    rw [List.append_assoc]
    exact passed.trans passed'
  | ended overheard' all ends =>
    refine .ended (overheard.trans overheard') ?_ (passed.isEnded ▸ ends)
    rw [passed.left, all]
  | failed overheard' final all =>
    refine .failed (overheard.trans overheard') final ?_
    intro later
    rw [passed.left, all, List.append_assoc]

/-- Items that are passed over: none shakes hands, and none ends the stream. -/
def Early (items : List (Except Fault Envelope)) : Prop :=
  ∀ item ∈ items, isGreeting item = false ∧ isTooLarge item = false

theorem Early.append (first : Early items) (second : Early more) : Early (items ++ more) :=
  List.forall_mem_append.2 ⟨first, second⟩

theorem early_silent (silent : Intake.Silent items) : Early items := by
  intro item mem
  obtain ⟨none, goesOn⟩ := silent item mem
  cases item with
  | ok envelope => contradiction
  | error fault => exact ⟨rfl, goesOn⟩

theorem early_response (response : Response) : Early [.ok (.response response)] :=
  List.forall_mem_singleton.2 ⟨rfl, rfl⟩

theorem early_request {request : Request} (path : request.path ≠ initializePath) :
    Early [.ok (.request request)] := by
  refine List.forall_mem_singleton.2 ⟨?_, rfl⟩
  simpa [isGreeting] using path

theorem shakeHands_shaken (sink : Sink σ) (ready : s.intake.Ready) :
    ∃ items, Early items ∧ Shaken sink s items (s.shakeHands γ sink) := by
  fun_induction shakeHands γ sink s with
  | case1 s response intake m read s' ih =>
    obtain ⟨skipped, silent, passed, -⟩ := Intake.passed_next ready read
    obtain ⟨items, early, shaken⟩ := ih passed.ready
    have overheard : Overheard s (skipped ++ [.ok (.response response)]) _ :=
      (Overheard.silent silent intake (Intake.orphans_next read)).trans (.response response _)
    exact ⟨_, ((early_silent silent).append (early_response response)).append early,
      shaken.prepend overheard passed⟩
  | case2 s request intake m read s' path =>
    obtain ⟨skipped, silent, passed, -⟩ := Intake.passed_next ready read
    exact ⟨skipped, early_silent silent,
      .greeted (.silent silent intake (Intake.orphans_next read)) passed path⟩
  | case3 s request intake m read s' path ih =>
    obtain ⟨skipped, silent, passed, -⟩ := Intake.passed_next ready read
    obtain ⟨items, early, shaken⟩ := ih passed.ready
    have overheard : Overheard s (skipped ++ [.ok (.request request)]) s' :=
      (Overheard.silent silent intake (Intake.orphans_next read)).trans (.request request _)
    exact ⟨_, ((early_silent silent).append (early_request path)).append early,
      shaken.prepend overheard passed⟩
  | case4 s intake m read =>
    obtain ⟨skipped, silent, stops, -⟩ := Intake.stops_next ready read (by simp)
    have overheard := Overheard.silent silent intake (Intake.orphans_next read)
    cases stops with
    | blocked passed none empty goesOn =>
      exact ⟨skipped, early_silent silent, .waiting overheard passed none goesOn⟩
  | case5 s intake m read =>
    obtain ⟨skipped, silent, stops, -⟩ := Intake.stops_next ready read (by simp)
    have overheard := Overheard.silent silent intake (Intake.orphans_next read)
    cases stops with
    | ended passed none ends =>
      have all := passed.left []
      rw [none, List.append_nil] at all
      exact ⟨skipped, early_silent silent, .ended overheard all ends⟩
  | case6 s fault intake m read =>
    obtain ⟨skipped, silent, stops, -⟩ := Intake.stops_next ready read (by simp)
    have overheard := Overheard.silent silent intake (Intake.orphans_next read)
    cases stops with
    | failed final all => exact ⟨skipped, early_silent silent, .failed overheard final all⟩

/--
Shake hands each time some chunks have arrived, and at last when the input has ended. Tells also
what has not arrived by then.
-/
def awaitGreeting (γ : Type) [Json.Decode γ] (sink : Sink σ) :
    List (List Bytes) → Session σ → Handshake γ × Session σ × List (List Bytes)
  | [], s =>
    let (handshake, s) := s.endInput.shakeHands γ sink
    (handshake, s, [])
  | chunks :: rest, s =>
    match (chunks.foldl (fun s chunk => s.arrive (.data chunk)) s).shakeHands γ sink with
    | (.waiting, s) => awaitGreeting γ sink rest s
    | (handshake, s) => (handshake, s, rest)

/-- A session whose input may go on with these chunks. -/
structure Reads (s : Session σ) (batches : List (List Bytes)) : Prop where
  ready : s.intake.Ready
  nonempty : ∀ chunks ∈ batches, ∀ chunk ∈ chunks, chunk ≠ []
  ends : s.intake.source.isEnded = true → batches = []

/-- What becomes of the rest of the stream, if it goes on with these chunks. -/
def leftOf (s : Session σ) (batches : List (List Bytes)) (later : Bytes) :
    List (Except Fault Envelope) :=
  s.intake.left (batches.flatten.flatten ++ later)

theorem leftOf_cons (s : Session σ) (chunks : List Bytes) (batches : List (List Bytes))
    (later : Bytes) :
    s.leftOf (chunks :: batches) later = (s.arrived chunks).leftOf batches later := by
  unfold leftOf
  rw [left_arrived, List.flatten_cons, List.flatten_append, List.append_assoc]

theorem leftOf_of_intake (same : after.intake = s.intake) (batches : List (List Bytes))
    (later : Bytes) : after.leftOf batches later = s.leftOf batches later := by
  unfold leftOf
  rw [same]

theorem Reads.of_intake {batches : List (List Bytes)} (reads : s.Reads batches)
    (same : after.intake = s.intake) : after.Reads batches :=
  ⟨same ▸ reads.ready, reads.nonempty, same ▸ reads.ends⟩

/-- What waiting for the request that shakes hands comes to. -/
inductive Awaited (sink : Sink σ) (before : Session σ) (batches : List (List Bytes)) :
    Handshake γ × Session σ × List (List Bytes) → Prop where
  | greeted {items : List (Except Fault Envelope)} {between : Session σ} {request : Request}
      {remaining : List (List Bytes)} (overheard : Overheard before items between)
      (early : Early items) (path : request.path = initializePath) (reads : between.Reads remaining)
      (left : ∀ later, before.leftOf batches later =
        items ++ .ok (.request request) :: between.leftOf remaining later) :
      Awaited sink before batches
        ((between.answer γ sink request).1, (between.answer γ sink request).2, remaining)
  | ended {items : List (Except Fault Envelope)} {after : Session σ}
      (overheard : Overheard before items after) (early : Early items)
      (all : before.leftOf batches [] = items) :
      Awaited sink before batches (.refused .connectionClosed, after, [])
  | failed {items : List (Except Fault Envelope)} {after : Session σ} {fault : Fault}
      {remaining : List (List Bytes)} (overheard : Overheard before items after)
      (early : Early items) (final : isTooLarge (.error fault : Except Fault Envelope))
      (all : before.leftOf batches [] = items ++ [.error fault]) :
      Awaited sink before batches (.refused fault, after, remaining)

theorem answer_ne_waiting (sink : Sink σ) (s : Session σ) (request : Request) :
    (s.answer γ sink request).1 ≠ .waiting := by
  unfold answer
  cases configOf γ request with
  | ok config =>
    dsimp only
    split <;> nofun
  | error fault =>
    dsimp only
    split <;> nofun

theorem Overheard.arrived {chunks : List Bytes}
    (overheard : Overheard (s.arrived chunks) items after) : Overheard s items after :=
  ⟨overheard.exchange, overheard.rest⟩

variable {batches : List (List Bytes)}

theorem Awaited.prepend {chunks : List Bytes}
    {result : Handshake γ × Session σ × List (List Bytes)}
    (overheard : Overheard s items between) (early : Early items)
    (left : ∀ later, s.leftOf (chunks :: batches) later = items ++ between.leftOf batches later)
    (awaited : Awaited sink between batches result) :
    Awaited sink s (chunks :: batches) result := by
  cases awaited with
  | greeted overheard' early' path reads left' =>
    refine .greeted (overheard.trans overheard') (early.append early') path reads ?_
    intro later
    rw [left, left', List.append_assoc]
  | ended overheard' early' all =>
    refine .ended (overheard.trans overheard') (early.append early') ?_
    rw [left, all]
  | failed overheard' early' final all =>
    refine .failed (overheard.trans overheard') (early.append early') final ?_
    rw [left, all, List.append_assoc]

theorem awaitGreeting_awaited (sink : Sink σ) (reads : s.Reads batches) :
    Awaited sink s batches (s.awaitGreeting γ sink batches) := by
  induction batches generalizing s with
  | nil =>
    have ready : s.endInput.intake.Ready := ⟨reads.ready.sound, reads.ready.flows⟩
    obtain ⟨items, early, shaken⟩ := shakeHands_shaken (γ := γ) sink ready
    unfold awaitGreeting
    generalize s.endInput.shakeHands γ sink = result at shaken
    cases shaken with
    | waiting overheard passed none goesOn => contradiction
    | greeted overheard passed path =>
      refine .greeted ⟨overheard.exchange, overheard.rest⟩ early path
        ⟨passed.ready, List.forall_mem_nil _, fun _ => rfl⟩ ?_
      intro later
      have left := passed.left later
      rw [List.append_assoc] at left
      exact left
    | ended overheard all ends =>
      exact .ended ⟨overheard.exchange, overheard.rest⟩ early all
    | failed overheard final all =>
      exact .failed ⟨overheard.exchange, overheard.rest⟩ early final (all [])
  | cons chunks batches ih =>
    have ready := ready_arrived reads.ready (reads.nonempty chunks List.mem_cons_self)
    have nonempty := fun chunks mem => reads.nonempty chunks (List.mem_cons_of_mem _ mem)
    have goesOn : (s.arrived chunks).intake.source.isEnded = false := by
      cases ended : s.intake.source.isEnded with
      | false => exact ended
      | true => cases reads.ends ended
    obtain ⟨items, early, shaken⟩ := shakeHands_shaken (γ := γ) sink ready
    unfold awaitGreeting
    rw [foldl_arrive]
    generalize (s.arrived chunks).shakeHands γ sink = result at shaken
    cases shaken with
    | @waiting after overheard passed none _ =>
      have ended : after.intake.source.isEnded = false := passed.isEnded.trans goesOn
      refine .prepend overheard.arrived early ?_
        (ih ⟨passed.ready, nonempty, by rw [ended]; nofun⟩)
      intro later
      rw [leftOf_cons]
      exact passed.left _
    | @greeted between request overheard passed path =>
      have answered := answer_ne_waiting (γ := γ) sink between request
      have ended : between.intake.source.isEnded = false := passed.isEnded.trans goesOn
      have left (later : Bytes) : s.leftOf (chunks :: batches) later =
          items ++ .ok (.request request) :: between.leftOf batches later := by
        rw [leftOf_cons, leftOf, passed.left, List.append_assoc]
        rfl
      have greeted : Awaited (γ := γ) sink s (chunks :: batches) _ :=
        .greeted overheard.arrived early path ⟨passed.ready, nonempty, by rw [ended]; nofun⟩ left
      generalize between.answer γ sink request = result at answered greeted
      obtain ⟨handshake, after⟩ := result
      cases handshake with
      | waiting => contradiction
      | accepted config => exact greeted
      | refused fault => exact greeted
    | ended overheard all ends =>
      rw [goesOn] at ends
      contradiction
    | failed overheard final all =>
      refine .failed overheard.arrived early final ?_
      rw [leftOf_cons]
      exact all _

theorem answer_of_fits {written : σ → Bytes} (accepts : sink.Accepts written) (s : Session σ)
    {request : Request}
    (fits : (Wire.body (.response (Response.ofGreeting γ request))).length ≤
      min (s.outlet.limit.getD Frame.maxLength) Frame.maxLength) :
    ∃ state, s.answer γ sink request =
        ((match configOf γ request with
          | .ok config => .accepted config
          | .error fault => .refused fault),
          { s with sink := state }.withMetrics
            (s.metrics.countOut (.response (Response.ofGreeting γ request)))) ∧
      written state =
        written s.sink ++ Frame.ofEnvelope (.response (Response.ofGreeting γ request)) := by
  obtain ⟨state, sent, wrote⟩ := send_of_fits accepts s fits
  refine ⟨state, ?_, wrote⟩
  unfold Response.ofGreeting at sent ⊢
  unfold answer
  cases config : configOf γ request with
  | ok config =>
    simp only [config] at sent ⊢
    rw [sent]
  | error fault =>
    simp only [config] at sent ⊢
    rw [sent]

theorem takeWhile_early (early : Early items) (rest : List (Except Fault Envelope)) :
    (items ++ rest).takeWhile (!isGreeting ·) = items ++ rest.takeWhile (!isGreeting ·) := by
  apply List.takeWhile_append_of_pos
  intro item mem
  rw [(early item mem).1]
  rfl

theorem dropWhile_early (early : Early items) (rest : List (Except Fault Envelope)) :
    (items ++ rest).dropWhile (!isGreeting ·) = rest.dropWhile (!isGreeting ·) := by
  apply List.dropWhile_append_of_pos
  intro item mem
  rw [(early item mem).1]
  rfl

theorem isGreeting_request {request : Request} (path : request.path = initializePath) :
    isGreeting (.ok (.request request)) = true := by
  simpa [isGreeting] using path

/-- A payload that cannot be read as a type is malformed. -/
theorem malformed_of_payloadAs {α : Type} [Json.Decode α] {payload : Option Json.Value}
    {fault : Fault} (unread : payloadAs α payload = .error fault) :
    ∃ text, fault = .malformedPayload text := by
  unfold payloadAs at unread
  cases read : Json.ofValue (α := α) (payload.getD .null) with
  | ok value =>
    rw [read] at unread
    contradiction
  | error e =>
    rw [read] at unread
    cases unread
    exact ⟨_, rfl⟩

/-- The request that shakes hands is accepted or refused, and the response says which. -/
theorem answer_replies {written : σ → Bytes} (accepts : sink.Accepts written) (s : Session σ)
    {request : Request}
    (fits : (Wire.body (.response (Response.ofGreeting γ request))).length ≤
      min (s.outlet.limit.getD Frame.maxLength) Frame.maxLength) :
    let reply (error : Option String) : Response :=
      { correlation := request.correlation, channel := request.channel, error }
    let wrote (response : Response) : Prop := written (s.answer γ sink request).2.sink =
      written s.sink ++ Frame.ofEnvelope (.response response)
    (∃ config, payloadAs (Initialization γ) request.payload = .ok ⟨config⟩ ∧
        (s.answer γ sink request).1 = .accepted config ∧ wrote (reply none)) ∨
      (∃ text, payloadAs (Initialization γ) request.payload = .error (.malformedPayload text) ∧
        (s.answer γ sink request).1 = .refused (.malformedPayload text) ∧
        wrote (reply (some ("malformed payload: " ++ text)))) := by
  intro reply wrote
  obtain ⟨state, answered, taken⟩ := answer_of_fits accepts s fits
  have same : (s.answer γ sink request).2.sink = state := by
    rw [answered]
    rfl
  rw [← same] at taken
  rw [answered]
  unfold Response.ofGreeting configOf at taken
  unfold configOf
  cases read : payloadAs (Initialization γ) request.payload with
  | ok init =>
    rw [read] at taken
    exact .inl ⟨init.config, rfl, rfl, taken⟩
  | error fault =>
    obtain ⟨text, rfl⟩ := malformed_of_payloadAs read
    rw [read] at taken
    exact .inr ⟨text, rfl, rfl, taken⟩

theorem Overheard.answer (overheard : Overheard s items between) (sink : Sink σ)
    (request : Request) :
    let after := (between.answer γ sink request).2
    (s.exchange.takeIn (responsesOf items)).Alike after.exchange ∧
      after =
        { s with intake := after.intake, sink := after.sink }.withExchange after.exchange ∧
      after.intake = between.intake := by
  intro after
  have sent : after = (between.send sink (.response (Response.ofGreeting γ request))).2 :=
    answer_snd between request
  rw [sent]
  refine ⟨overheard.exchange.trans ⟨_, Outlet.orphans_send _ _ _ _ _, rfl⟩, ?_, rfl⟩
  unfold send
  rw [overheard.rest]
  rfl

/-- Serving what has arrived reads what was left of the stream. -/
theorem Reads.serve (reads : s.Reads batches) (sink : Sink σ) :
    ((s.arrived batches.flatten).endInput.serve sink).2.1 = envelopes (s.leftOf batches []) := by
  have nonempty : ∀ chunk ∈ batches.flatten, chunk ≠ [] := by
    intro chunk mem
    obtain ⟨chunks, isBatch, isChunk⟩ := List.mem_flatten.1 mem
    exact reads.nonempty chunks isBatch chunk isChunk
  have ready : (s.arrived batches.flatten).endInput.intake.Ready := by
    obtain ⟨sound, flows⟩ := ready_arrived reads.ready nonempty
    exact ⟨sound, flows⟩
  obtain ⟨read, -, -⟩ := Intake.drain_left ready (s.arrived batches.flatten).endInput.metrics
  have left : (s.arrived batches.flatten).endInput.intake.left [] = s.leftOf batches [] :=
    left_arrived s batches.flatten []
  rw [left] at read
  rw [← read]
  unfold Session.serve
  generalize (s.arrived batches.flatten).endInput.intake.drain _ = result
  obtain ⟨envelopes, last, intake, metrics⟩ := result
  cases last <;> rfl

/--
The first request of the stream that shakes hands is answered with its own correlation and channel:
without an error if it brings a configuration, which is then accepted, and with the fault of reading
it otherwise. Before it, only responses are taken in; what follows it is left over. If there is no
such request, nothing is written, and the stream is said to be closed or to be broken.
-/
theorem awaitGreeting_answers {written : σ → Bytes} (accepts : sink.Accepts written)
    (reads : s.Reads batches) :
    let items := parse Intake.decode s.intake.reader.limit
      (s.intake.reader.pending ++ (s.intake.source.bytes ++ batches.flatten.flatten))
    let before := items.takeWhile (!isGreeting ·)
    ∃ handshake after remaining, s.awaitGreeting γ sink batches = (handshake, after, remaining) ∧
      (s.exchange.takeIn (responsesOf before)).Alike after.exchange ∧
      after =
        { s with intake := after.intake, sink := after.sink }.withExchange after.exchange ∧
      match items.dropWhile (!isGreeting ·) with
      | .ok (.request greeting) :: rest =>
        let reply (error : Option String) : Response :=
          { correlation := greeting.correlation, channel := greeting.channel, error }
        let wrote (response : Response) : Prop :=
          written after.sink = written s.sink ++ Frame.ofEnvelope (.response response)
        (Wire.body (.response (Response.ofGreeting γ greeting))).length ≤
            min (s.outlet.limit.getD Frame.maxLength) Frame.maxLength →
          ((∃ config, payloadAs (Initialization γ) greeting.payload = .ok ⟨config⟩ ∧
              handshake = .accepted config ∧ wrote (reply none)) ∨
            (∃ text, payloadAs (Initialization γ) greeting.payload =
                .error (.malformedPayload text) ∧
              handshake = .refused (.malformedPayload text) ∧
              wrote (reply (some ("malformed payload: " ++ text))))) ∧
          after.Reads remaining ∧
          (∀ later, s.leftOf batches later =
            before ++ .ok (.request greeting) :: after.leftOf remaining later) ∧
          ((after.arrived remaining.flatten).endInput.serve sink).2.1 = envelopes rest
      | _ =>
        after.sink = s.sink ∧
          handshake = .refused (match endingOf items with
            | .ok () => .connectionClosed
            | .error fault => fault) := by
  intro items before
  have stream : s.leftOf batches [] = items := by
    unfold leftOf Intake.left
    rw [List.append_nil]
  have awaited := awaitGreeting_awaited (γ := γ) sink reads
  generalize s.awaitGreeting γ sink batches = result at awaited
  cases awaited with
  | @ended passed after overheard early all =>
    obtain rfl : items = passed := stream.symm.trans all
    have first := takeWhile_early early []
    have behind := dropWhile_early early []
    rw [List.append_nil] at first behind
    replace first : before = items := first.trans (List.append_nil items)
    have ending : endingOf items = .ok () := endingOf_goesOn fun item mem => (early item mem).2
    refine ⟨_, after, [], rfl, first ▸ overheard.exchange, overheard.but, ?_⟩
    rw [behind, ending]
    exact ⟨overheard.sink, rfl⟩
  | @failed passed after fault remaining overheard early final all =>
    have split : items = passed ++ [.error fault] := stream.symm.trans all
    have first : before = passed ++ [.error fault] := by
      show items.takeWhile _ = _
      rw [split, takeWhile_early early]
      rfl
    have behind : items.dropWhile (!isGreeting ·) = [] := by
      rw [split, dropWhile_early early]
      rfl
    have ending : endingOf items = .error fault := by
      rw [split, endingOf_final (fun item mem => (early item mem).2) final]
    have same : responsesOf before = responsesOf passed := by
      rw [first, responsesOf_append]
      exact List.append_nil _
    refine ⟨_, after, remaining, rfl, same ▸ overheard.exchange, overheard.but, ?_⟩
    rw [behind, ending]
    exact ⟨overheard.sink, rfl⟩
  | @greeted passed between greeting remaining overheard early path reads' left =>
    have split : items = passed ++ .ok (.request greeting) :: between.leftOf remaining [] :=
      stream.symm.trans (left [])
    have greets := isGreeting_request path
    have first : before = passed := by
      show items.takeWhile _ = _
      rw [split, takeWhile_early early, List.takeWhile_cons_of_neg (by rw [greets]; decide),
        List.append_nil]
    have behind : items.dropWhile (!isGreeting ·) =
        .ok (.request greeting) :: between.leftOf remaining [] := by
      rw [split, dropWhile_early early, List.dropWhile_cons_of_neg (by rw [greets]; decide)]
    obtain ⟨alike, rest, same⟩ := overheard.answer (γ := γ) sink greeting
    refine ⟨_, _, remaining, rfl, first ▸ alike, rest, ?_⟩
    rw [behind]
    intro fits
    have limit : between.outlet = s.outlet := by
      rw [overheard.rest]
      rfl
    have replies := answer_replies (γ := γ) accepts between (limit ▸ fits)
    rw [overheard.sink] at replies
    refine ⟨replies, reads'.of_intake same, ?_, ?_⟩
    · intro later
      rw [left, first, leftOf_of_intake same]
    · rw [(reads'.of_intake same).serve, leftOf_of_intake same]

theorem awaitGreeting_answers_burst :
    let early : Response := { correlation := "9" }
    let config : Json.Value := .object [("config", .string "blue")]
    let greeting : Request :=
      { path := initializePath, correlation := "1", payload := some config, path_ne := by decide }
    let later : Request := { path := "/a", correlation := "2", path_ne := by decide }
    let bytes := Frame.ofEnvelope (.response early) ++
      (Frame.ofEnvelope (.request greeting) ++ Frame.ofEnvelope (.request later))
    let batches := [[bytes.take 50], [bytes.drop 50]]
    let s : Session Bytes.Queue :=
      { intake := {}, outlet := {}, sink := .empty, surroundings := {} }
    ∃ after remaining,
      s.awaitGreeting String Sink.memory batches = (.accepted "blue", after, remaining) ∧
      after.sink.toList = Frame.ofEnvelope (.response { correlation := "1" }) ∧
      ((after.arrived remaining.flatten).endInput.serve Sink.memory).2.1 = [.request later] := by
  intro early config greeting later bytes batches s
  have portable : (Envelope.request greeting).Portable := by
    refine ⟨?_, ?_, ?_⟩ <;> rintro v ⟨⟩
    · simp [config, Json.Value.Exact, Json.Value.ExactMembers]
    · decide
    · simp [config, Json.Value.normal, Json.Value.normalMembers, Json.sortMembers, Json.keepLast]
  have fits : ∀ envelope ∈ [.response early, .request greeting, .request later],
      Frame.Fits none (Wire.body envelope).length := by
    intro envelope mem
    refine Frame.fits_iff.2 ?_
    revert envelope
    decide +kernel
  let expected : List (Except Fault Envelope) :=
    [.ok (.response early), .ok (.request greeting), .ok (.request later)]
  have items : parse Wire.decode none ([] ++ ([] ++ batches.flatten.flatten)) = expected := by
    have whole : [] ++ ([] ++ batches.flatten.flatten) = bytes := by
      simp [batches]
    rw [whole, ← List.append_nil bytes, List.append_assoc, List.append_assoc,
      Frame.parse_ofEnvelope (Envelope.portable_of_none rfl) (fits _ (by simp)),
      Frame.parse_ofEnvelope portable (fits _ (by simp)),
      Frame.parse_ofEnvelope (Envelope.portable_of_none rfl) (fits _ (by simp)), Frame.parse_nil]
  have reads : s.Reads batches :=
    ⟨⟨Frame.Reader.sound_new none, List.forall_mem_nil _⟩, by decide +kernel, by simp [s]⟩
  obtain ⟨handshake, after, remaining, eq, -, -, answers⟩ :=
    awaitGreeting_answers (γ := String) Sink.memory_accepts reads
  rw [show parse Intake.decode s.intake.reader.limit
    (s.intake.reader.pending ++ (s.intake.source.bytes ++ batches.flatten.flatten)) = _ from items]
    at answers
  have greets : isGreeting (.ok (.request greeting)) = true := isGreeting_request rfl
  rw [List.dropWhile_cons_of_pos (by rfl), List.dropWhile_cons_of_neg (by rw [greets]; decide)]
    at answers
  obtain ⟨⟨_, read, accepted, wrote⟩ | ⟨_, read, -⟩, -, -, served⟩ := answers (by decide +kernel)
  · cases read
    exact ⟨after, remaining, accepted ▸ eq, wrote, served⟩
  · contradiction

end Session
end Hostlink
