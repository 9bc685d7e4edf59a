import Mathlib.Data.List.Nodup
import Hostlink.Proofs.Exchange.Steps
/-!
The map of the correlations that are waited for, held against the requests that somebody still cares
for: it has one entry for each of them that is still waiting, and no correlation occurs twice.
-/

namespace Hostlink

namespace Waiter

/-- Whether nothing has become of a request yet. -/
def isWaiting (w : Waiter) : Bool :=
  w.fate.result?.isNone

/-- Whether a response with this correlation is for this request. -/
def waitsFor (correlation : String) (w : Waiter) : Bool :=
  w.isWaiting && w.correlation == correlation

/-- The entry of a request among those that are waited for. -/
def entry (w : Waiter) : String × Nat :=
  (w.correlation, w.token)

end Waiter

namespace Exchange

variable {x : Exchange}

theorem settle_tokens (x : Exchange) (who : Waiter → Bool) (fate : Fate) :
    (x.settle who fate).waiters.map (·.token) = x.waiters.map (·.token) := by
  unfold settle
  rw [List.map_map]
  refine List.map_congr_left ?_
  intro w _
  simp only [Function.comp_def]
  split <;> rfl

/-- Once all who wait are settled, nobody waits. -/
theorem isWaiting_settle {fate : Fate} (resolved : fate.result?.isSome = true) :
    ∀ w ∈ (x.settle (·.isWaiting) fate).waiters, w.isWaiting = false := by
  intro w hw
  obtain ⟨v, -, rfl⟩ := List.mem_map.1 hw
  beta_reduce
  split
  · simpa [Waiter.isWaiting] using resolved
  · exact Bool.eq_false_iff.2 ‹_›

/-- Each request that waits has its entry, and tokens and correlations tell requests apart. -/
structure Sound (x : Exchange) : Prop where
  token_lt : ∀ w ∈ x.waiters, w.token < x.nextToken
  tokens_nodup : (x.waiters.map (·.token)).Nodup
  pending_eq : x.pending = (x.waiters.filter (·.isWaiting)).map (·.entry)
  correlations_nodup : (x.pending.map (·.1)).Nodup

namespace Sound

theorem eq_of_token (sound : x.Sound) {w v : Waiter} (hw : w ∈ x.waiters) (hv : v ∈ x.waiters)
    (same : w.token = v.token) : w = v :=
  List.inj_on_of_nodup_map sound.tokens_nodup hw hv same

theorem eq_of_waitsFor (sound : x.Sound) {w v : Waiter} {correlation : String}
    (hw : w ∈ x.waiters) (hv : v ∈ x.waiters) (forW : w.waitsFor correlation = true)
    (forV : v.waitsFor correlation = true) : w = v := by
  have nodup := sound.correlations_nodup
  rw [sound.pending_eq, List.map_map] at nodup
  simp only [Waiter.waitsFor, Bool.and_eq_true, beq_iff_eq] at forW forV
  refine List.inj_on_of_nodup_map nodup (List.mem_filter.2 ⟨hw, forW.1⟩)
    (List.mem_filter.2 ⟨hv, forV.1⟩) ?_
  exact forW.2.trans forV.2.symm

theorem mem_pending (sound : x.Sound) {entry : String × Nat} :
    entry ∈ x.pending ↔ ∃ w ∈ x.waiters, w.isWaiting = true ∧ w.entry = entry := by
  rw [sound.pending_eq, List.mem_map]
  simp only [List.mem_filter, and_assoc]

theorem token_lt_of_mem_pending (sound : x.Sound) {entry : String × Nat}
    (mem : entry ∈ x.pending) : entry.2 < x.nextToken := by
  obtain ⟨w, hw, -, rfl⟩ := sound.mem_pending.1 mem
  exact sound.token_lt w hw

theorem isPending_eq (sound : x.Sound) {w : Waiter} (hw : w ∈ x.waiters) :
    x.isPending w = w.isWaiting := by
  rw [Bool.eq_iff_iff]
  unfold isPending
  rw [List.contains_iff_mem, sound.mem_pending]
  constructor
  · rintro ⟨v, hv, waiting, same⟩
    rw [← sound.eq_of_token hv hw (congrArg Prod.snd same)]
    exact waiting
  · intro waiting
    exact ⟨w, hw, waiting, rfl⟩

theorem lookup_pending (sound : x.Sound) (correlation : String) :
    x.pending.lookup correlation =
      (x.waiters.find? (·.waitsFor correlation)).map (·.token) := by
  rw [sound.pending_eq]
  induction x.waiters with
  | nil => rfl
  | cons w rest ih =>
    unfold Waiter.waitsFor at ih ⊢
    cases waiting : w.isWaiting with
    | false => simpa [List.find?_cons, waiting] using ih
    | true =>
      rw [List.filter_cons_of_pos waiting, List.map_cons]
      by_cases same : w.correlation = correlation
      · simp [waiting, same, Waiter.entry]
      · have other : (correlation == w.correlation) = false := beq_false_of_ne (Ne.symm same)
        rw [List.find?_cons_of_neg (by simp [same]), ← ih]
        simp only [Waiter.entry, List.lookup_cons, other]

/-- The entries that are left when some of those who waited are settled, however that is told. -/
theorem pending_filter (sound : x.Sound) {who : Waiter → Bool} {fate : Fate}
    (resolved : fate.result?.isSome = true) {keep : String × Nat → Bool}
    (same : ∀ w ∈ x.waiters, w.isWaiting = true → keep w.entry = !who w) :
    x.pending.filter keep =
      ((x.waiters.map fun w => if who w then { w with fate } else w).filter (·.isWaiting)).map
        (·.entry) := by
  have step (w : Waiter) :
      (if who w then { w with fate } else w).isWaiting = (!who w && w.isWaiting) := by
    cases who w
    · simp
    · simpa [Waiter.isWaiting] using resolved
  have entry (w : Waiter) : (if who w then { w with fate } else w).entry = w.entry := by
    split <;> rfl
  rw [sound.pending_eq, List.filter_map, List.filter_map, List.map_map, List.filter_filter]
  simp only [Function.comp_def, step, entry]
  congr 1
  refine List.filter_congr ?_
  intro w hw
  cases waiting : w.isWaiting with
  | false => simp
  | true => simp [same w hw waiting]

/-- Only what the map and the requests are, and that tokens are not given out again, counts. -/
theorem of_same {y : Exchange} (sound : x.Sound) (waiters : y.waiters = x.waiters)
    (pending : y.pending = x.pending) (nextToken : x.nextToken ≤ y.nextToken) : y.Sound where
  token_lt := by
    intro w hw
    exact Nat.lt_of_lt_of_le (sound.token_lt w (waiters ▸ hw)) nextToken
  tokens_nodup := by rw [waiters]; exact sound.tokens_nodup
  pending_eq := by rw [waiters, pending]; exact sound.pending_eq
  correlations_nodup := by rw [pending]; exact sound.correlations_nodup

theorem settle (sound : x.Sound) (who : Waiter → Bool) {fate : Fate}
    (resolved : fate.result?.isSome = true) : (x.settle who fate).Sound where
  token_lt := by
    intro w hw
    obtain ⟨v, hv, rfl⟩ := List.mem_map.1 hw
    have token : (if who v then { v with fate } else v).token = v.token := by split <;> rfl
    rw [token]
    exact sound.token_lt v hv
  tokens_nodup := by
    rw [settle_tokens]
    exact sound.tokens_nodup
  pending_eq := by
    refine sound.pending_filter resolved ?_
    intro w hw _
    have told : ((x.waiters.filter who).map (·.token)).contains w.token = who w := by
      rw [Bool.eq_iff_iff, List.contains_iff_mem, List.mem_map]
      constructor
      · rintro ⟨v, hv, same⟩
        obtain ⟨hv, whoV⟩ := List.mem_filter.1 hv
        rw [← sound.eq_of_token hv hw same]
        exact whoV
      · intro whoW
        exact ⟨w, List.mem_filter.2 ⟨hw, whoW⟩, rfl⟩
    simp only [Waiter.entry, told]
  correlations_nodup := by
    exact sound.correlations_nodup.sublist (List.filter_sublist.map _)

theorem forget (sound : x.Sound) (token : Nat) : (x.forget token).Sound where
  token_lt := by
    intro w hw
    exact sound.token_lt w (List.mem_filter.1 hw).1
  tokens_nodup := sound.tokens_nodup.sublist (List.filter_sublist.map _)
  pending_eq := by
    unfold Exchange.forget
    rw [sound.pending_eq, List.filter_map, List.filter_filter, List.filter_filter]
    refine congrArg _ (List.filter_congr ?_)
    intro w _
    exact Bool.and_comm _ _
  correlations_nodup := sound.correlations_nodup.sublist (List.filter_sublist.map _)

end Sound

theorem settle_congr {who other : Waiter → Bool} (same : ∀ w ∈ x.waiters, who w = other w)
    (fate : Fate) : x.settle who fate = x.settle other fate := by
  have waiters : (x.waiters.map fun w => if who w then { w with fate } else w) =
      x.waiters.map fun w => if other w then { w with fate } else w := by
    refine List.map_congr_left ?_
    intro w hw
    rw [same w hw]
  unfold settle
  rw [List.filter_congr same, waiters]

namespace Sound

theorem abandon_eq (sound : x.Sound) : x.abandon = x.settle (·.isWaiting) .closed := by
  have same := settle_congr (fun w hw => sound.isPending_eq hw) .closed
  have none : (x.settle (·.isWaiting) .closed).pending = [] := by
    rw [(sound.settle (·.isWaiting) rfl).pending_eq]
    have finished : (x.settle (·.isWaiting) .closed).waiters.filter (·.isWaiting) = [] :=
      List.filter_eq_nil_iff.2 fun w hw => Bool.eq_false_iff.1 (isWaiting_settle rfl w hw)
    rw [finished]
    rfl
  unfold abandon
  rw [same, ← none]

theorem expire_eq (sound : x.Sound) (now : Nat) :
    x.expire now = x.settle (fun w => w.isWaiting && w.deadline.any (· ≤ now)) .expired := by
  refine settle_congr ?_ _
  intro w hw
  rw [sound.isPending_eq hw, Bool.and_comm]

/-- A response goes to the one request that waits for it; without one, it is an orphan. -/
theorem complete_eq (sound : x.Sound) (response : Response) :
    x.complete response =
      if x.waiters.any (·.waitsFor response.correlation) then
        (true, x.settle (·.waitsFor response.correlation) (.answered response))
      else
        (false, { x with metrics :=
          { x.metrics with orphanResponses := x.metrics.orphanResponses.increment [] } }) := by
  unfold complete
  rw [sound.lookup_pending]
  cases found : x.waiters.find? (·.waitsFor response.correlation) with
  | none =>
    have none : x.waiters.any (·.waitsFor response.correlation) = false := by
      rw [List.any_eq_false]
      exact fun w hw => List.find?_eq_none.1 found w hw
    rw [none]
    rfl
  | some v =>
    have hv := List.mem_of_find?_eq_some found
    have forV := List.find?_some found
    have some : x.waiters.any (·.waitsFor response.correlation) = true :=
      List.any_eq_true.2 ⟨v, hv, forV⟩
    have same : ∀ w ∈ x.waiters, (w.token == v.token) = w.waitsFor response.correlation := by
      intro w hw
      rw [Bool.eq_iff_iff, beq_iff_eq]
      constructor
      · intro token
        rw [sound.eq_of_token hw hv token]
        exact forV
      · intro forW
        rw [sound.eq_of_waitsFor hw hv forW forV]
    -- what is taken out of the map by the correlation is what would be taken out by the token
    have pending : x.pending.filter (·.1 != response.correlation) =
        (x.settle (·.waitsFor response.correlation) (.answered response)).pending := by
      rw [(sound.settle _ rfl).pending_eq]
      refine sound.pending_filter rfl ?_
      intro w _ waiting
      simp only [Waiter.waitsFor, Waiter.entry, waiting, Bool.true_and]
      rfl
    rw [some]
    simp only [Option.map_some, settle_congr same, pending]
    rfl

theorem register (sound : x.Sound) (request : Request) (deadline : Option Nat) :
    (x.register request deadline).2.Sound := by
  unfold Exchange.register
  dsimp only
  split
  · exact sound.of_same rfl rfl (Nat.le_succ _)
  · next free =>
    refine ⟨?_, ?_, ?_, ?_⟩
    · intro w hw
      rcases List.mem_cons.1 hw with rfl | hw
      · exact Nat.lt_succ_self _
      · exact Nat.lt_succ_of_lt (sound.token_lt w hw)
    · refine List.nodup_cons.2 ⟨?_, sound.tokens_nodup⟩
      intro mem
      obtain ⟨w, hw, same⟩ := List.mem_map.1 mem
      exact Nat.ne_of_lt (sound.token_lt w hw) same
    · rw [List.filter_cons_of_pos rfl, List.map_cons, sound.pending_eq]
      rfl
    · refine List.nodup_cons.2 ⟨?_, sound.correlations_nodup⟩
      intro mem
      obtain ⟨entry, hentry, same⟩ := List.mem_map.1 mem
      rw [Bool.not_eq_true, Option.isSome_eq_false_iff, Option.isNone_iff_eq_none,
        List.lookup_eq_none_iff] at free
      exact absurd same.symm (by simpa using free entry hentry)

theorem enqueue (sound : x.Sound) (request : Request) (token : Nat) :
    (x.enqueue request token).2.Sound := by
  unfold Exchange.enqueue
  split
  · exact sound.of_same rfl rfl (Nat.le_refl _)
  · exact sound.forget token

/-- A token that has not been given out yet belongs to nobody. -/
theorem forget_fresh (sound : x.Sound) {token : Nat} (fresh : x.nextToken ≤ token) :
    x.forget token = x := by
  have pending : x.pending.filter (·.2 != token) = x.pending := by
    rw [List.filter_eq_self]
    intro entry mem
    have lt := sound.token_lt_of_mem_pending mem
    exact bne_iff_ne.2 (by omega)
  have waiters : x.waiters.filter (·.token != token) = x.waiters := by
    rw [List.filter_eq_self]
    intro w hw
    have lt := sound.token_lt w hw
    exact bne_iff_ne.2 (by omega)
  unfold Exchange.forget
  rw [pending, waiters]

end Sound

/-- The waiter of a request that is registered now. -/
def newWaiter (x : Exchange) (request : Request) (deadline : Option Nat) : Waiter :=
  { token := x.nextToken, correlation := request.correlation, deadline }

/-- The exchange once a request is registered. -/
def withWaiter (x : Exchange) (request : Request) (deadline : Option Nat) : Exchange :=
  { x with
    pending := (request.correlation, x.nextToken) :: x.pending
    waiters := x.newWaiter request deadline :: x.waiters
    nextToken := x.nextToken + 1 }

/-- What a post comes to, and what it leaves behind. -/
inductive Attempted (x : Exchange) (request : Request) (deadline : Option Nat) :
    Except Fault Nat × Exchange → Prop where
  | refused (closed : x.isClosed = true) :
      Attempted x request deadline (.error .connectionClosed, x)
  | duplicate (goesOn : x.isClosed = false)
      (taken : (x.pending.lookup request.correlation).isSome = true) :
      Attempted x request deadline
        (.error (.internal ("correlation " ++ request.correlation ++ " already pending")),
          { x with nextToken := x.nextToken + 1 })
  | unsent (goesOn : x.isClosed = false) (closed : x.outbox.send? (.request request) = none) :
      Attempted x request deadline (.error outboxClosed, { x with nextToken := x.nextToken + 1 })
  | posted (goesOn : x.isClosed = false) {outbox : Outbox}
      (sent : x.outbox.send? (.request request) = some outbox) :
      Attempted x request deadline
        (.ok x.nextToken, { x.withWaiter request deadline with outbox })

theorem Sound.attempted (sound : x.Sound) (request : Request) (deadline : Option Nat) :
    Attempted x request deadline (x.attempt request deadline) := by
  unfold attempt
  cases closed : x.isClosed with
  | true => exact .refused closed
  | false =>
    unfold Exchange.register
    cases taken : (x.pending.lookup request.correlation).isSome with
    | true => exact .duplicate closed taken
    | false =>
      simp only [Bool.false_eq_true, if_false]
      unfold Exchange.enqueue
      cases sent : x.outbox.send? (.request request) with
      | some outbox => exact .posted closed sent
      | none =>
        -- what was registered is taken out again, since its token is like no other
        have before := sound.forget_fresh (Nat.le_refl x.nextToken)
        have pending := congrArg Exchange.pending before
        have waiters := congrArg Exchange.waiters before
        have undone : (x.withWaiter request deadline).forget x.nextToken =
            { x with nextToken := x.nextToken + 1 } := by
          unfold Exchange.forget at pending waiters ⊢
          simp only [withWaiter, newWaiter, List.filter_cons, bne_self_eq_false,
            Bool.false_eq_true, if_false] at pending waiters ⊢
          rw [pending, waiters]
        exact undone ▸ .unsent closed sent

theorem Sound.attempt (sound : x.Sound) (request : Request) (deadline : Option Nat) :
    (x.attempt request deadline).2.Sound := by
  have registered := sound.register request deadline
  unfold Exchange.attempt
  split
  · exact sound
  · split
    · next eq =>
      rw [eq] at registered
      exact registered
    · next eq =>
      rw [eq] at registered
      exact registered.enqueue request _

end Exchange
end Hostlink
