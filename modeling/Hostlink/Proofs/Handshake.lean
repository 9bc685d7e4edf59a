import Hostlink.Proofs.Intake
import Hostlink.Proofs.Session
/-!
Shaking hands answers one request, the first for its path among those that can be read, and changes
nothing else that is written.
-/

namespace Hostlink

/-- The response to the request that shakes hands. -/
def Response.ofGreeting (γ : Type) [Json.Decode γ] (request : Request) : Response :=
  let reply : Response := Response.ofRequest request
  match Session.configOf γ request with
  | .ok _ => reply
  | .error fault => { reply with error := some fault.message }

theorem Response.of_ofGreeting (γ : Type) [Json.Decode γ] (request : Request) :
    (ofGreeting γ request).correlation = request.correlation ∧
      (ofGreeting γ request).channel = request.channel := by
  unfold ofGreeting
  cases Session.configOf γ request <;> exact ⟨rfl, rfl⟩

namespace Session

variable {σ : Type} {s : Session σ} {intake : Intake} {metrics : Metrics}

/-- The request that shakes hands, if it can be read now: the first one for its path. -/
def greeting? (s : Session σ) : Option Request :=
  (requests (s.intake.drain s.metrics).1).find? (·.path = initializePath)

theorem greeting?_of_envelope {envelope : Envelope}
    (read : s.intake.next s.metrics = (.envelope envelope, intake, metrics)) :
    s.greeting? =
      (requests (envelope :: (intake.drain metrics).1)).find? (·.path = initializePath) := by
  unfold greeting?
  rw [Intake.drain_of_envelope read]

/-- Whoever reads on where an envelope was read that does not shake hands finds the same request. -/
theorem greeting?_of_passed {envelope : Envelope}
    (read : s.intake.next s.metrics = (.envelope envelope, intake, metrics))
    (passed : ∀ request, envelope.request? = some request → request.path ≠ initializePath)
    {after : Session σ} (same : after.intake = intake) : after.greeting? = s.greeting? := by
  rw [greeting?_of_envelope read]
  unfold greeting?
  rw [same, Intake.drain_metrics metrics]
  cases envelope with
  | response response => rw [requests_cons_response]
  | request request =>
    rw [requests_cons_request, List.find?_cons_of_neg]
    simpa using passed request rfl

theorem greeting?_of_request {request : Request}
    (read : s.intake.next s.metrics = (.envelope (.request request), intake, metrics))
    (path : request.path = initializePath) : s.greeting? = some request := by
  rw [greeting?_of_envelope read, requests_cons_request, List.find?_cons_of_pos]
  simpa using path

theorem greeting?_of_ne_envelope
    (h : ∀ envelope, (s.intake.next s.metrics).1 ≠ .envelope envelope) :
    s.greeting? = none := by
  unfold greeting?
  rw [Intake.drain_of_ne_envelope h]
  rfl

/-- The request that shakes hands has been answered, if it was read; all else is as it was. -/
structure Greeted (γ : Type) [Json.Decode γ] (written : σ → Bytes) (before : Session σ)
    (greeting : Option Request) (after : Session σ) : Prop where
  written : written after.sink = written before.sink ++ greeting.toList.flatMap fun request =>
    Frame.trace before.outlet.limit (.response (Response.ofGreeting γ request))
  outbox : after.exchange.outbox = before.exchange.outbox
  undone : after.undone = before.undone
  outlet : after.outlet = before.outlet
  replyUnroutable : after.replyUnroutable = before.replyUnroutable

variable {sink : Sink σ} {written : σ → Bytes} {γ : Type} [Json.Decode γ]

theorem answer_snd (s : Session σ) (request : Request) :
    (s.answer γ sink request).2 = (s.send sink (.response (Response.ofGreeting γ request))).2 := by
  unfold answer Response.ofGreeting
  cases configOf γ request with
  | ok config =>
    dsimp only
    generalize s.send sink (.response (Response.ofRequest request)) = sent
    obtain ⟨result, s'⟩ := sent
    cases result <;> rfl
  | error fault =>
    dsimp only
    generalize s.send sink (.response { Response.ofRequest request with error := _ }) = sent
    obtain ⟨result, s'⟩ := sent
    cases result <;> rfl

theorem answer_greeted (accepts : sink.Accepts written) (s : Session σ) (request : Request) :
    Greeted γ written s (some request) (s.answer γ sink request).2 := by
  rw [answer_snd]
  refine ⟨?_, rfl, rfl, rfl, rfl⟩
  show written (s.outlet.send sink _ s.metrics s.sink).2.2 = _
  rw [Outlet.send_written accepts]
  simp only [Option.toList_some, List.flatMap_cons, List.flatMap_nil, List.append_nil]

theorem Greeted.of_same {before after : Session σ} (sink : after.sink = before.sink)
    (outbox : after.exchange.outbox = before.exchange.outbox)
    (undone : after.undone = before.undone) (outlet : after.outlet = before.outlet)
    (replyUnroutable : after.replyUnroutable = before.replyUnroutable) :
    Greeted γ written before none after :=
  ⟨by rw [sink]; exact (List.append_nil _).symm, outbox, undone, outlet, replyUnroutable⟩

/-- Shaking hands answers the request that shakes hands, if it can be read. -/
theorem shakeHands_greeted (accepts : sink.Accepts written) (s : Session σ) :
    Greeted γ written s s.greeting? (s.shakeHands γ sink).2 := by
  -- responses and other requests only make what is left to read less
  fun_induction shakeHands γ sink s with
  | case1 s response intake m read s' ih =>
    rw [greeting?_of_passed read nofun rfl] at ih
    have outbox : (s'.exchange.complete response).2.outbox = s.exchange.outbox :=
      outbox_complete _ _
    exact ⟨ih.written, ih.outbox.trans outbox, ih.undone, ih.outlet, ih.replyUnroutable⟩
  | case2 s request intake m read s' path =>
    rw [greeting?_of_request read path]
    have greeted := answer_greeted (γ := γ) accepts s' request
    exact ⟨greeted.written, greeted.outbox, greeted.undone, greeted.outlet, greeted.replyUnroutable⟩
  | case3 s request intake m read s' path ih =>
    rw [greeting?_of_passed read (by rintro _ ⟨⟩; exact path) rfl] at ih
    exact ⟨ih.written, ih.outbox, ih.undone, ih.outlet, ih.replyUnroutable⟩
  | case4 s intake m read =>
    rw [greeting?_of_ne_envelope (by rw [read]; nofun)]
    exact .of_same rfl rfl rfl rfl rfl
  | case5 s intake m read =>
    rw [greeting?_of_ne_envelope (by rw [read]; nofun)]
    exact .of_same rfl rfl rfl rfl rfl
  | case6 s fault intake m read =>
    rw [greeting?_of_ne_envelope (by rw [read]; nofun)]
    exact .of_same rfl rfl rfl rfl rfl

end Session
end Hostlink
