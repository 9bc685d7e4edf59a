import Hostlink.Proofs.Exchange.History
/-!
What becomes of the requests of an exchange over a whole history: each response goes to the one
request that waits for it, if there is one, and a request has the fate that its history tells.
-/

namespace Hostlink.Exchange

variable {x : Exchange} {history later : List Operation} {request : Request}
  {deadline : Option Nat} {correlation : String} {token : Nat} {w : Waiter}

theorem Sound.nextToken_le_step (sound : x.Sound) (op : Operation) :
    x.nextToken ≤ (x.step op).nextToken := by
  cases op with
  | post request deadline =>
    show _ ≤ (x.attempt request deadline).2.nextToken
    have attempted := sound.attempted request deadline
    generalize x.attempt request deadline = attempt at attempted ⊢
    cases attempted with
    | refused => exact Nat.le_refl _
    | duplicate => exact Nat.le_succ _
    | unsent => exact Nat.le_succ _
    | posted => exact Nat.le_succ _
  | complete response =>
    show _ ≤ (x.complete response).2.nextToken
    rw [sound.complete_eq]
    split <;> exact Nat.le_refl _
  | _ => exact Nat.le_refl _

theorem token_of_post {after : Exchange} (h : x.post request deadline = .ok (token, after)) :
    token = x.nextToken := by
  unfold post at h
  split at h
  · contradiction
  · split at h
    · contradiction
    · split at h <;> cases h
      rfl

theorem of_newcomer? {op : Operation} (h : x.newcomer? op = some w) :
    ∃ request deadline after, op = .post request deadline ∧
      x.post request deadline = .ok (w.token, after) ∧
      w = { token := w.token, correlation := request.correlation, deadline } := by
  unfold newcomer? at h
  split at h
  · next request deadline =>
    cases posted : x.post request deadline with
    | error fault =>
      rw [posted] at h
      contradiction
    | ok result =>
      rw [posted] at h
      cases h
      exact ⟨request, deadline, result.2, rfl, posted, rfl⟩
  · contradiction

/-- Nobody gets a token that has been given out before. -/
theorem Sound.waiter?_step (sound : x.Sound) (given : token < x.nextToken) (op : Operation) :
    (x.step op).waiter? token = (x.waiter? token).bind (·.after op) := by
  have other : (x.newcomer? op).toList.find? (·.token == token) = none := by
    rw [List.find?_eq_none]
    intro w hw same
    obtain ⟨_, _, _, _, posted, _⟩ := of_newcomer? (Option.mem_toList.1 hw)
    have new := token_of_post posted
    have := beq_iff_eq.1 same
    omega
  unfold waiter?
  rw [sound.step_waiters, List.find?_append, other, Option.none_or,
    Waiter.find?_filterMap_after sound.tokens_nodup]

theorem Sound.waiter?_run (sound : x.Sound) (given : token < x.nextToken)
    (history : List Operation) :
    (x.run history).waiter? token = (x.waiter? token).bind (·.afterAll history) := by
  induction history generalizing x with
  | nil => exact (Option.bind_fun_some _).symm
  | cons op history ih =>
    rw [run_cons, ih (sound.step op) (Nat.lt_of_lt_of_le given (sound.nextToken_le_step op)),
      sound.waiter?_step given]
    cases x.waiter? token <;> rfl

theorem mem_of_waiter? (h : x.waiter? token = some w) : w ∈ x.waiters ∧ w.token = token := by
  unfold waiter? at h
  exact ⟨List.mem_of_find?_eq_some h, by simpa using List.find?_some h⟩

theorem Sound.waiter?_of_mem (sound : x.Sound) (hw : w ∈ x.waiters) :
    x.waiter? w.token = some w := by
  cases found : x.waiter? w.token with
  | none => exact absurd (beq_self_eq_true w.token) (List.find?_eq_none.1 found w hw)
  | some v =>
    obtain ⟨hv, same⟩ := mem_of_waiter? found
    rw [sound.eq_of_token hv hw same]

/-- What has become of a request since it was posted is told by what came later. -/
theorem Sound.waiter?_of_posted (sound : x.Sound)
    (posted : x.Posted history request deadline token later) :
    (x.run history).waiter? token =
      Waiter.afterAll { token, correlation := request.correlation, deadline } later := by
  obtain ⟨before, after, rfl, posted⟩ := posted
  have stepped := (sound.run before).step (.post request deadline)
  have mem : { token, correlation := request.correlation, deadline } ∈
      ((x.run before).step (.post request deadline)).waiters := by
    rw [(sound.run before).step_waiters]
    unfold newcomer?
    dsimp only
    rw [posted]
    exact List.mem_cons_self
  rw [run_append, run_cons, stepped.waiter?_run (stepped.token_lt _ mem),
    stepped.waiter?_of_mem mem]
  rfl

/-- Every waiter was there before or has been posted since. -/
theorem Sound.posted_of_mem (sound : x.Sound) (hw : w ∈ (x.run history).waiters) :
    (∃ v ∈ x.waiters, v.afterAll history = some w) ∨
      ∃ request deadline later, x.Posted history request deadline w.token later ∧
        Waiter.afterAll { token := w.token, correlation := request.correlation, deadline } later =
          some w := by
  induction history generalizing x with
  | nil => exact .inl ⟨w, hw, rfl⟩
  | cons op history ih =>
    rcases ih (sound.step op) hw with ⟨v, hv, goesOn⟩ | ⟨request, deadline, later, posted, goesOn⟩
    · rw [sound.step_waiters, List.mem_append, Option.mem_toList, List.mem_filterMap] at hv
      rcases hv with brings | ⟨u, hu, after⟩
      · obtain ⟨request, deadline, after, rfl, posted, eq⟩ := of_newcomer? brings
        rw [← Waiter.token_of_afterAll goesOn] at posted eq
        rw [eq] at goesOn
        exact .inr ⟨request, deadline, history, ⟨[], after, rfl, posted⟩, goesOn⟩
      · refine .inl ⟨u, hu, ?_⟩
        unfold Waiter.afterAll
        rw [after]
        exact goesOn
    · obtain ⟨before, after, rfl, posted⟩ := posted
      exact .inr ⟨request, deadline, later, ⟨op :: before, after, rfl, posted⟩, goesOn⟩

/-- By its history alone an exchange tells who waits. -/
theorem waits_iff {outbox : Outbox} {metrics : Metrics} :
    (new outbox metrics).Waits history correlation token ↔
      ∃ w ∈ ((new outbox metrics).run history).waiters,
        w.waitsFor correlation = true ∧ w.token = token := by
  have sound := sound_new outbox metrics
  constructor
  · rintro ⟨request, deadline, later, posted, rfl, kept, undecided⟩
    have goesOn := sound.waiter?_of_posted posted
    rw [Waiter.afterAll_new, kept, undecided] at goesOn
    obtain ⟨mem, same⟩ := mem_of_waiter? goesOn
    exact ⟨_, mem, beq_self_eq_true _, same⟩
  · rintro ⟨w, hw, waits, rfl⟩
    rcases sound.posted_of_mem hw with ⟨v, hv, -⟩ | ⟨request, deadline, later, posted, goesOn⟩
    · exact nomatch hv
    · rw [Waiter.afterAll_new] at goesOn
      split at goesOn
      · contradiction
      · next kept =>
        have eq := Option.some.inj goesOn
        rw [← eq] at waits
        simp only [Waiter.waitsFor, Waiter.isWaiting, Bool.and_eq_true, beq_iff_eq] at waits
        obtain ⟨waiting, rfl⟩ := waits
        refine ⟨request, deadline, later, posted, rfl, Bool.eq_false_iff.2 kept, ?_⟩
        -- what has been decided is no longer waiting
        cases decided : later.findSome? (·.verdict? request.correlation deadline) with
        | none => rfl
        | some fate =>
          obtain ⟨op, -, verdict⟩ := List.exists_of_findSome?_eq_some decided
          have resolved := Operation.resolved_of_verdict? verdict
          rw [decided, Option.getD_some, Option.isNone_iff_eq_none] at waiting
          rw [waiting] at resolved
          contradiction

end Hostlink.Exchange
