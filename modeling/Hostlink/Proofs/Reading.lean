import Hostlink.Session
import Hostlink.Proofs.Intake
/-!
Reading all that has arrived at once comes to the same as reading the envelopes one after the other
and taking in each before the next one is read. What is counted of responses that nobody waits for
is all of the metrics that taking in changes, and reading neither looks at it nor changes it.
-/

namespace Hostlink

namespace Intake

/-- What is counted of responses that nobody waits for has nothing to do with reading. -/
theorem next_orphans (m : Metrics) (orphanResponses : Metrics.Counter) (intake : Intake) :
    intake.next { m with orphanResponses } =
      ((intake.next m).1, (intake.next m).2.1, { (intake.next m).2.2 with orphanResponses }) := by
  fun_induction Intake.next m intake with
  | case1 m intake envelope reader h => rw [next_of_frame h]; rfl
  | case2 m intake fault reader h recoverable ih =>
    rw [next_of_frame h]
    simp only [if_pos recoverable]
    exact ih
  | case3 m intake fault reader h final =>
    rw [next_of_frame h]
    simp only [if_neg final]
  | case4 m intake reader h source eq => rw [next_of_none h, eq]
  | case5 m intake reader h reason source eq => rw [next_of_none h, eq]
  | case6 m intake reader h source eq => rw [next_of_none h, eq]
  | case7 m intake reader h b bytes source eq ih =>
    rw [next_of_none h, eq]
    exact ih

theorem orphans_next {m after : Metrics} {intake rest : Intake} {reading : Reading}
    (read : intake.next m = (reading, rest, after)) :
    after.orphanResponses = m.orphanResponses := by
  have same := congrArg (·.2.2.orphanResponses) (next_orphans m m.orphanResponses intake)
  rwa [read] at same

theorem drain_orphans (m : Metrics) (orphanResponses : Metrics.Counter) (intake : Intake) :
    intake.drain { m with orphanResponses } =
      ((intake.drain m).1, (intake.drain m).2.1, (intake.drain m).2.2.1,
        { (intake.drain m).2.2.2 with orphanResponses }) := by
  fun_induction Intake.drain m intake with
  | case1 m intake envelope rest after h more last eq ih =>
    have next := next_orphans m orphanResponses intake
    rw [h] at next
    rw [drain_of_envelope next, ih, eq]
  | case2 m intake h =>
    have stop : ∀ envelope, (intake.next { m with orphanResponses }).1 ≠ .envelope envelope := by
      intro envelope eq
      rw [next_orphans] at eq
      exact h envelope _ _ (Prod.ext eq rfl)
    rw [drain_of_ne_envelope stop, next_orphans]

theorem orphans_drain (m : Metrics) (intake : Intake) :
    (intake.drain m).2.2.2.orphanResponses = m.orphanResponses :=
  congrArg (·.2.2.2.orphanResponses) (drain_orphans m m.orphanResponses intake)

end Intake

/-- What a response comes to has nothing to do with what else is counted. -/
theorem Exchange.complete_counted (x : Exchange) (response : Response) {m after : Metrics}
    (same : after.orphanResponses = m.orphanResponses) :
    { ({ x with metrics := m }.complete response).2 with
      metrics := { after with
        orphanResponses :=
          ({ x with metrics := m }.complete response).2.metrics.orphanResponses } } =
      ({ x with metrics := after }.complete response).2 := by
  unfold complete
  dsimp only
  cases x.pending.lookup response.correlation with
  | none =>
    dsimp only
    rw [same]
  | some token =>
    dsimp only [settle]
    rw [← same]

namespace Session

variable {σ : Type} {s : Session σ}

theorem receive_nil (s : Session σ) : s.receive [] = s := by
  show { s with queue := s.queue ++ [] } = s
  rw [List.append_nil]

theorem receive_cons (s : Session σ) (envelope : Envelope) (envelopes : List Envelope) :
    s.receive (envelope :: envelopes) = (s.receive [envelope]).receive envelopes := by
  cases envelope with
  | request request =>
    show { s with queue := s.queue ++ request :: _ }.withExchange _ =
      { s with queue := s.queue ++ [request] ++ _ }.withExchange _
    rw [List.append_assoc]
    rfl
  | response response =>
    show { s with queue := s.queue ++ _ }.withExchange _ =
      { s with queue := s.queue ++ [] ++ _ }.withExchange _
    rw [List.append_nil]
    rfl

/-- The session after something has been read, for which there are new metrics. -/
def takenIn (s : Session σ) (intake : Intake) (metrics : Metrics) : Session σ :=
  { s with intake }.withMetrics metrics

/-- It does not matter whether an envelope is taken in before the next ones are read or after. -/
theorem takenIn_receive (s : Session σ) (envelope : Envelope) (intake later : Intake)
    {m after : Metrics} (same : after.orphanResponses = m.orphanResponses) :
    takenIn ((s.takenIn intake m).receive [envelope]) later
        { after with
          orphanResponses := ((s.takenIn intake m).receive [envelope]).metrics.orphanResponses } =
      (s.takenIn later after).receive [envelope] := by
  cases envelope with
  | request request =>
    show takenIn _ later { after with orphanResponses := m.orphanResponses } = _
    rw [← same]
    rfl
  | response response =>
    exact congrArg { s with intake := later, queue := s.queue ++ [] }.withExchange
      (Exchange.complete_counted s.exchange response same)

/-- The session after all that has arrived has been read. -/
def readAll (s : Session σ) : Session σ :=
  let (envelopes, _, intake, metrics) := s.intake.drain s.metrics
  (s.takenIn intake metrics).receive envelopes

/-- Reading goes on after an envelope has been taken in as it would have without. -/
theorem drain_received (s : Session σ) (envelope : Envelope) (rest : Intake) (after : Metrics) :
    ((s.takenIn rest after).receive [envelope]).intake.drain
        ((s.takenIn rest after).receive [envelope]).metrics =
      ((rest.drain after).1, (rest.drain after).2.1, (rest.drain after).2.2.1,
        { (rest.drain after).2.2.2 with
          orphanResponses :=
            ((s.takenIn rest after).receive [envelope]).metrics.orphanResponses }) := by
  have metrics : ((s.takenIn rest after).receive [envelope]).metrics = { after with
      orphanResponses := ((s.takenIn rest after).receive [envelope]).metrics.orphanResponses } :=
    congrArg Session.metrics (takenIn_receive s envelope rest rest (m := after) rfl).symm
  rw [metrics]
  exact Intake.drain_orphans after _ rest

theorem readAll_of_envelope {envelope : Envelope} {rest : Intake} {after : Metrics}
    (next : s.intake.next s.metrics = (.envelope envelope, rest, after)) :
    readAll s = readAll ((s.takenIn rest after).receive [envelope]) := by
  unfold readAll
  rw [drain_received, Intake.drain_of_envelope next]
  dsimp only
  rw [takenIn_receive s envelope rest _ (Intake.orphans_drain after rest)]
  exact receive_cons _ _ _

end Session

end Hostlink
