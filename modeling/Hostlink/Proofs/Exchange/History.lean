import Hostlink.Proofs.Exchange.Pending
import Hostlink.Proofs.Metrics.Family
/-!
Histories of an exchange: any operations, in any order. What has become of a request is told by the
operations that came after it was posted: the first that concerns it decides. Each operation acts on
each waiter by itself (`Waiter.after`), so that a history can be followed for one waiter alone.
-/

namespace Hostlink

namespace Exchange

/-- What can be done to an exchange. -/
inductive Operation where
  | post (request : Request) (deadline : Option Nat)
  | complete (response : Response)
  /-- Who sent the request with this token stops caring for it. -/
  | drop (token : Nat)
  | close
  /-- It is this time: requests expire whose deadline has come. -/
  | expire (now : Nat)
  | send (envelope : Envelope)
  /-- All envelopes are taken out of the queue. -/
  | clear
  /-- The queue takes no more envelopes. -/
  | closeOutbox

namespace Operation

/-- What an operation makes of a request that waits under a correlation until a deadline. -/
def verdict? (correlation : String) (deadline : Option Nat) : Operation → Option Fate
  | complete response =>
    if response.correlation = correlation then some (.answered response) else none
  | close => some .closed
  | expire now => if deadline.any (· ≤ now) then some .expired else none
  | _ => none

/-- Whether an operation drops the request with a token. -/
def drops (token : Nat) : Operation → Bool
  | drop dropped => dropped == token
  | _ => false

theorem resolved_of_verdict? {correlation : String} {deadline : Option Nat} {op : Operation}
    {fate : Fate} (h : op.verdict? correlation deadline = some fate) :
    fate.result?.isSome = true := by
  unfold verdict? at h
  split at h
  · split at h
    · cases h; rfl
    · contradiction
  · cases h; rfl
  · split at h
    · cases h; rfl
    · contradiction
  · contradiction

end Operation

/-- An exchange to which nothing has been done yet. -/
def new (outbox : Outbox) (metrics : Metrics) : Exchange :=
  { outbox, metrics }

/-- The exchange after an operation. -/
def step (x : Exchange) : Operation → Exchange
  | .post request deadline => (x.attempt request deadline).2
  | .complete response => (x.complete response).2
  | .drop token => x.forget token
  | .close => x.close
  | .expire now => x.expire now
  | .send envelope => { x with outbox := x.outbox.offer envelope }
  | .clear => { x with outbox := x.outbox.clear }
  | .closeOutbox => { x with outbox := x.outbox.close }

/-- The exchange after operations in order. -/
def run (x : Exchange) (history : List Operation) : Exchange :=
  history.foldl step x

/-- What an operation tells, if it hands a response over. -/
def tells? (x : Exchange) : Operation → Option Bool
  | .complete response => some (x.complete response).1
  | _ => none

/-- What the operations tell that hand responses over, in order. -/
def told (x : Exchange) : List Operation → List Bool
  | [] => []
  | op :: rest => (x.tells? op).toList ++ (x.step op).told rest

/-- The waiter that an operation brings. -/
def newcomer? (x : Exchange) : Operation → Option Waiter
  | .post request deadline =>
    (x.post request deadline).toOption.map fun (token, _) =>
      { token, correlation := request.correlation, deadline }
  | _ => none

/-- The waiter with a token. -/
def waiter? (x : Exchange) (token : Nat) : Option Waiter :=
  x.waiters.find? (·.token == token)

/--
A request was taken under a token in the course of a history, and the operations `later` have come
since.
-/
def Posted (x : Exchange) (history : List Operation) (request : Request) (deadline : Option Nat)
    (token : Nat) (later : List Operation) : Prop :=
  ∃ before after, history = before ++ .post request deadline :: later ∧
    (x.run before).post request deadline = .ok (token, after)

/-- A request was taken under a token, and nothing has dropped or resolved it since. -/
def Waits (x : Exchange) (history : List Operation) (correlation : String) (token : Nat) : Prop :=
  ∃ request deadline later, x.Posted history request deadline token later ∧
    request.correlation = correlation ∧ later.any (·.drops token) = false ∧
    later.findSome? (·.verdict? correlation deadline) = none

end Exchange

namespace Waiter

open Exchange (Operation)

/-- What an operation makes of a waiter; nothing, if it is dropped. -/
def after (w : Waiter) (op : Operation) : Option Waiter :=
  if op.drops w.token then none
  else if w.isWaiting then
    some { w with fate := (op.verdict? w.correlation w.deadline).getD w.fate }
  else some w

/-- What operations in order make of a waiter. -/
def afterAll (w : Waiter) : List Operation → Option Waiter
  | [] => some w
  | op :: rest => (w.after op).bind (·.afterAll rest)

theorem isWaiting_of_resolved {w : Waiter} {fate : Fate} (resolved : fate.result?.isSome = true) :
    { w with fate }.isWaiting = false := by
  unfold isWaiting
  rw [Option.isNone_eq_false_iff]
  exact resolved

theorem token_of_after {w v : Waiter} {op : Operation} (h : w.after op = some v) :
    v.token = w.token := by
  unfold after at h
  split at h
  · contradiction
  · split at h <;> cases h <;> rfl

theorem token_of_afterAll {w v : Waiter} {ops : List Operation} (h : w.afterAll ops = some v) :
    v.token = w.token := by
  induction ops generalizing w with
  | nil => cases h; rfl
  | cons op ops ih =>
    obtain ⟨u, after, goesOn⟩ := Option.bind_eq_some_iff.1 h
    exact (ih goesOn).trans (token_of_after after)

/-- The first operation that concerns a waiter decides what becomes of it. -/
theorem afterAll_eq (w : Waiter) (ops : List Operation) :
    w.afterAll ops =
      if ops.any (·.drops w.token) then none
      else if w.isWaiting then
        some { w with fate := (ops.findSome? (·.verdict? w.correlation w.deadline)).getD w.fate }
      else some w := by
  induction ops generalizing w with
  | nil => simp [afterAll]
  | cons op ops ih =>
    unfold afterAll after
    cases dropped : op.drops w.token with
    | true => simp [dropped]
    | false =>
      cases waiting : w.isWaiting with
      | false => simp [dropped, waiting, ih]
      | true =>
        cases verdict : op.verdict? w.correlation w.deadline with
        | none => simp [dropped, waiting, verdict, ih]
        | some fate =>
          have finished : { w with fate }.isWaiting = false :=
            isWaiting_of_resolved (Operation.resolved_of_verdict? verdict)
          simp [dropped, verdict, ih, finished]

/-- What becomes of a request that was just posted. -/
theorem afterAll_new (token : Nat) (correlation : String) (deadline : Option Nat)
    (ops : List Operation) :
    Waiter.afterAll { token, correlation, deadline } ops =
      if ops.any (·.drops token) then none
      else some { token, correlation, deadline, fate :=
        (ops.findSome? (·.verdict? correlation deadline)).getD .waiting } :=
  afterAll_eq _ _

theorem find?_filterMap_after {waiters : List Waiter} (nodup : (waiters.map (·.token)).Nodup)
    (op : Operation) (token : Nat) :
    (waiters.filterMap (·.after op)).find? (·.token == token) =
      (waiters.find? (·.token == token)).bind (·.after op) := by
  induction waiters with
  | nil => rfl
  | cons w rest ih =>
    obtain ⟨fresh, nodup⟩ := List.nodup_cons.1 nodup
    rw [List.filterMap_cons]
    by_cases here : w.token = token
    · rw [List.find?_cons_of_pos (by simpa using here), Option.bind_some]
      cases eq : w.after op with
      | some v =>
        have same := token_of_after eq
        exact List.find?_cons_of_pos (by simpa [same] using here)
      | none =>
        -- it has gone, and no other waiter has its token
        have others : rest.find? (·.token == token) = none := by
          rw [List.find?_eq_none]
          intro v hv same
          exact fresh (List.mem_map.2 ⟨v, hv, (beq_iff_eq.1 same).trans here.symm⟩)
        dsimp only
        rw [ih nodup, others]
        rfl
    · rw [List.find?_cons_of_neg (by simpa using here), ← ih nodup]
      cases eq : w.after op with
      | none => rfl
      | some v =>
        have same := token_of_after eq
        exact List.find?_cons_of_neg (by simpa [same] using here)

/-- An operation that concerns nobody changes no waiter. -/
theorem filterMap_after_of_quiet {op : Operation} (keeps : ∀ token, op.drops token = false)
    (quiet : ∀ correlation deadline, op.verdict? correlation deadline = none)
    (waiters : List Waiter) : waiters.filterMap (·.after op) = waiters := by
  have same : ∀ w ∈ waiters, w.after op = some w := by
    intro w _
    unfold after
    rw [keeps, quiet]
    simp
  rw [List.filterMap_congr same]
  exact List.filterMap_some

end Waiter

namespace Exchange

variable {x : Exchange} {op : Operation}

theorem run_cons (op : Operation) (history : List Operation) :
    x.run (op :: history) = (x.step op).run history :=
  rfl

theorem run_append (history more : List Operation) :
    x.run (history ++ more) = (x.run history).run more :=
  List.foldl_append

theorem sound_new (outbox : Outbox) (metrics : Metrics) : (new outbox metrics).Sound :=
  ⟨nofun, List.nodup_nil, rfl, List.nodup_nil⟩

theorem Sound.close_eq (sound : x.Sound) :
    x.close = { x.settle (·.isWaiting) .closed with isClosed := true } := by
  have refused : x.refuse.Sound := sound.of_same rfl rfl (Nat.le_refl _)
  rw [Exchange.close_eq, refused.abandon_eq]
  rfl

theorem Sound.step (sound : x.Sound) (op : Operation) : (x.step op).Sound := by
  cases op with
  | post request deadline => exact sound.attempt request deadline
  | complete response =>
    show (x.complete response).2.Sound
    rw [sound.complete_eq]
    split
    · exact sound.settle _ rfl
    · exact sound.of_same rfl rfl (Nat.le_refl _)
  | drop token => exact sound.forget token
  | close =>
    show x.close.Sound
    rw [sound.close_eq]
    exact (sound.settle _ rfl).of_same rfl rfl (Nat.le_refl _)
  | expire now =>
    show (x.expire now).Sound
    rw [sound.expire_eq]
    exact sound.settle _ rfl
  | send envelope => exact sound.of_same rfl rfl (Nat.le_refl _)
  | clear => exact sound.of_same rfl rfl (Nat.le_refl _)
  | closeOutbox => exact sound.of_same rfl rfl (Nat.le_refl _)

theorem Sound.run (sound : x.Sound) (history : List Operation) : (x.run history).Sound := by
  induction history generalizing x with
  | nil => exact sound
  | cons op history ih => exact ih (sound.step op)

/-- To settle those who wait and satisfy a condition is to let each waiter go on by itself. -/
theorem settle_waiters {fate : Fate} (concerns : Waiter → Bool)
    (keeps : ∀ token, op.drops token = false)
    (verdict : ∀ w : Waiter, op.verdict? w.correlation w.deadline =
      if concerns w then some fate else none) :
    (x.settle (fun w => w.isWaiting && concerns w) fate).waiters =
      x.waiters.filterMap (·.after op) := by
  have same : ∀ w ∈ x.waiters,
      w.after op = some (if w.isWaiting && concerns w then { w with fate } else w) := by
    intro w _
    unfold Waiter.after
    rw [keeps, verdict]
    cases w.isWaiting <;> cases concerns w <;> rfl
  rw [List.filterMap_congr same, List.filterMap_eq_map']
  rfl

theorem Sound.complete_waiters (sound : x.Sound) (response : Response) :
    (x.complete response).2.waiters =
      (x.settle (·.waitsFor response.correlation) (.answered response)).waiters := by
  rw [sound.complete_eq]
  by_cases some : x.waiters.any (·.waitsFor response.correlation) = true
  · rw [if_pos some]
  · rw [if_neg some]
    have none := List.any_eq_false.1 (Bool.eq_false_iff.2 some)
    have same : ∀ w ∈ x.waiters, (if w.waitsFor response.correlation then
        { w with fate := .answered response } else w) = w :=
      fun w hw => if_neg (none w hw)
    exact ((List.map_congr_left same).trans (List.map_id' _)).symm

/-- Every operation acts on each waiter by itself, and a post that succeeds brings a new one. -/
theorem Sound.step_waiters (sound : x.Sound) (op : Operation) :
    (x.step op).waiters = (x.newcomer? op).toList ++ x.waiters.filterMap (·.after op) := by
  cases op with
  | post request deadline =>
    rw [Waiter.filterMap_after_of_quiet (fun _ => rfl) (fun _ _ => rfl)]
    show (x.attempt request deadline).2.waiters = _
    have attempted := sound.attempted request deadline
    unfold newcomer?
    dsimp only
    rw [post_eq]
    generalize x.attempt request deadline = attempt at attempted ⊢
    cases attempted <;> rfl
  | complete response =>
    show (x.complete response).2.waiters = _
    rw [sound.complete_waiters]
    refine settle_waiters (·.correlation == response.correlation) (fun _ => rfl) ?_
    intro w
    simp only [Operation.verdict?, beq_iff_eq, @eq_comm _ w.correlation]
  | drop token =>
    show x.waiters.filter (·.token != token) = x.waiters.filterMap _
    rw [← List.filterMap_eq_filter]
    refine List.filterMap_congr ?_
    intro w _
    by_cases same : w.token = token
    · simp [Waiter.after, Operation.drops, Option.guard, same]
    · simp [Waiter.after, Operation.drops, Operation.verdict?, Option.guard, same, Ne.symm same]
  | close =>
    show x.close.waiters = _
    rw [sound.close_eq]
    refine Eq.trans ?_ (settle_waiters (fun _ => true) (fun _ => rfl) (fun _ => rfl))
    simp only [Bool.and_true]
  | expire now =>
    show (x.expire now).waiters = _
    rw [sound.expire_eq]
    exact settle_waiters (·.deadline.any (· ≤ now)) (fun _ => rfl) (fun _ => rfl)
  | send envelope => exact (Waiter.filterMap_after_of_quiet (fun _ => rfl) (fun _ _ => rfl) _).symm
  | clear => exact (Waiter.filterMap_after_of_quiet (fun _ => rfl) (fun _ _ => rfl) _).symm
  | closeOutbox => exact (Waiter.filterMap_after_of_quiet (fun _ => rfl) (fun _ _ => rfl) _).symm

end Exchange

end Hostlink
