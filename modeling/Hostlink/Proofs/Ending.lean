import Hostlink.Proofs.Exchange.History
import Hostlink.Proofs.Session
/-!
When serving comes to its end, nothing is left undone. The exchange is closed then: it takes no more
requests of the plugin and lets none wait any longer, so that every action goes on until it settles
its request.
-/

namespace Hostlink

theorem Surroundings.isClosed_log (s : Surroundings) (event : Log.Event) :
    (s.log event).exchange.isClosed = s.exchange.isClosed := by
  unfold log
  split <;> rfl

/-- An action never waits when no request can be posted. -/
theorem Action.proceed_of_closed (action : Action) {s : Surroundings}
    (closed : s.exchange.isClosed = true) :
    ∃ settlement after, action.proceed s = (.settled settlement, after) ∧
      after.exchange.isClosed = true := by
  induction action generalizing s with
  | settle settlement => exact ⟨settlement, s, rfl, closed⟩
  | ask request wait resume ih =>
    have refused : s.exchange.post request (some (s.now + wait.getD s.wait)) =
        .error .connectionClosed := if_pos closed
    rw [proceed, refused]
    exact ih _ closed
  | log event next ih => exact ih ((s.isClosed_log event).trans closed)
  | inspect resume ih => exact ih _ _ closed

/-- After closing, whoever cares for a request knows what has become of it. -/
theorem Exchange.Sound.result_close {x : Exchange} (sound : x.Sound) {token : Nat}
    (mem : token ∈ x.waiters.map (·.token)) :
    ∃ result, (x.close.fate? token).bind Fate.result? = some result := by
  rw [← x.settle_tokens (·.isWaiting) .closed] at mem
  obtain ⟨w, hw, same⟩ := List.mem_map.1 mem
  have found : ((x.settle (·.isWaiting) .closed).waiters.find? (·.token == token)).isSome := by
    rw [List.find?_isSome]
    exact ⟨w, hw, beq_iff_eq.2 same⟩
  obtain ⟨v, found⟩ := Option.isSome_iff_exists.1 found
  have resolved : v.isWaiting = false := isWaiting_settle rfl v (List.mem_of_find?_eq_some found)
  rw [sound.close_eq]
  unfold fate?
  dsimp only
  rw [found]
  apply Option.isSome_iff_exists.1
  simpa [Waiter.isWaiting] using resolved

namespace Surroundings

variable {s : Surroundings}

theorem follow_of_closed (closed : s.exchange.isClosed = true) (replyUnroutable : Bool)
    (started : Nat) (request : Request) (action : Action) :
    ∃ outcome after, s.follow replyUnroutable started request action = (.concluded outcome, after) ∧
      after.exchange.isClosed = true := by
  obtain ⟨settlement, after, proceeds, closed'⟩ := action.proceed_of_closed closed
  unfold follow
  rw [proceeds]
  exact ⟨_, _, rfl, closed'⟩

theorem dispatch_of_closed (closed : s.exchange.isClosed = true) (routes : Routes)
    (replyUnroutable : Bool) (request : Request) :
    ∃ outcome after, s.dispatch routes replyUnroutable request = (.concluded outcome, after) ∧
      after.exchange.isClosed = true := by
  unfold dispatch
  split
  · exact follow_of_closed closed replyUnroutable s.now request _
  · exact ⟨_, _, rfl, closed⟩

end Surroundings

namespace Session

variable {σ : Type} {sink : Sink σ} {s : Session σ}

theorem dispatchEach_of_closed (routes : Routes) (replyUnroutable : Bool) {s : Surroundings}
    (closed : s.exchange.isClosed = true) (requests : List Request) :
    ∃ after, dispatchEach routes replyUnroutable s requests = (after, [], none) := by
  induction requests generalizing s with
  | nil => exact ⟨s, rfl⟩
  | cons request rest ih =>
    obtain ⟨outcome, after, dispatched, closed'⟩ :=
      Surroundings.dispatch_of_closed closed routes replyUnroutable request
    rw [dispatchEach, dispatched]
    exact ih closed'

theorem undone_dispatchQueue (closed : s.exchange.isClosed = true) :
    s.dispatchQueue.undone = [] := by
  obtain ⟨after, all⟩ := dispatchEach_of_closed s.routes s.replyUnroutable closed s.queue
  unfold dispatchQueue
  rw [all]
  rfl

theorem undone_dispatch (closed : s.exchange.isClosed = true)
    (told : ∀ busy, s.busy = some busy →
      ∃ result, (s.exchange.fate? busy.token).bind Fate.result? = some result) :
    s.dispatch.undone = [] := by
  unfold dispatch
  cases busy_eq : s.busy with
  | none => exact undone_dispatchQueue closed
  | some busy =>
    obtain ⟨result, known⟩ := told busy busy_eq
    have closed' : (s.withExchange (s.exchange.forget busy.token)).surroundings.exchange.isClosed =
        true := closed
    obtain ⟨outcome, after, followed, closed''⟩ := Surroundings.follow_of_closed closed'
      s.replyUnroutable busy.started busy.request (busy.resume result)
    dsimp only
    rw [known]
    dsimp only
    rw [followed]
    exact undone_dispatchQueue closed''

/-- The request that waits still cares for the request of its own that it waits for. -/
structure Cares (s : Session σ) : Prop where
  sound : s.exchange.Sound
  token_mem : ∀ busy, s.busy = some busy → busy.token ∈ s.exchange.waiters.map (·.token)

/-- Nobody stops caring for a request because of what is read. -/
theorem sound_receive (sound : s.exchange.Sound) (envelopes : List Envelope) :
    (s.receive envelopes).exchange.Sound ∧
      (s.receive envelopes).exchange.waiters.map (·.token) = s.exchange.waiters.map (·.token) := by
  show Exchange.Sound (envelopes.foldl _ s.exchange) ∧
    (envelopes.foldl _ s.exchange).waiters.map (·.token) = _
  generalize s.exchange = x at sound
  induction envelopes generalizing x with
  | nil => exact ⟨sound, rfl⟩
  | cons envelope envelopes ih =>
    cases envelope with
    | request request => exact ih x sound
    | response response =>
      obtain ⟨sound', tokens⟩ := ih (x.complete response).2 (sound.step (.complete response))
      refine ⟨sound', tokens.trans ?_⟩
      rw [sound.complete_eq]
      split
      · exact Exchange.settle_tokens _ _ _
      · rfl

namespace Cares

theorem ofSettings (settings : Settings) (sink : σ) : (Session.ofSettings settings sink).Cares :=
  ⟨Exchange.sound_new {} {}, nofun⟩

theorem read (cares : s.Cares) (intake : Intake) (metrics : Metrics) (envelopes : List Envelope) :
    (({ s with intake }.withMetrics metrics).receive envelopes).Cares := by
  have sound : ({ s with intake }.withMetrics metrics).exchange.Sound :=
    cares.sound.of_same rfl rfl (Nat.le_refl _)
  obtain ⟨sound', tokens⟩ := sound_receive sound envelopes
  refine ⟨sound', ?_⟩
  rw [tokens]
  exact cares.token_mem

/-- Nothing is left undone when the input is over. -/
theorem undone_finish (cares : s.Cares) (sink : Sink σ) : (s.finish sink).undone = [] := by
  let closed := (s.withExchange s.exchange.close).write sink
  have dispatched : closed.dispatch.undone = [] := by
    apply undone_dispatch
    · rfl
    · intro busy waits
      exact cares.sound.result_close (cares.token_mem busy waits)
  -- what is written and closed after that has nothing to do with what is undone
  unfold finish
  generalize closed.dispatch = after at dispatched ⊢
  exact dispatched

/-- Serving leaves nothing undone when it comes to its end. -/
theorem undone_serve (cares : s.Cares) {ending : Except Fault Unit}
    (ends : (s.serve sink).1 = some ending) : (s.serve sink).2.2.undone = [] := by
  unfold serve at ends ⊢
  generalize s.intake.drain s.metrics = drained at ends ⊢
  obtain ⟨envelopes, last, intake, metrics⟩ := drained
  have undone := (cares.read intake metrics envelopes).undone_finish sink
  cases last with
  | ended => exact undone
  | failed fault => exact undone
  | envelope envelope => contradiction
  | blocked => contradiction

end Cares

end Session

end Hostlink
