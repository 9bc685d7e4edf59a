import Mathlib.Data.Set.Card
import Hostlink.Proofs.Exchange.Delivery
/-!
The map of correlations over a whole history: its entries are those of the requests that wait, an
operation that fails leaves none behind, and an exchange that was closed has none.
-/

namespace Hostlink.Exchange

variable {x : Exchange} {history later : List Operation} {request : Request}
  {deadline : Option Nat} {correlation : String} {token : Nat}

theorem mem_pending_iff_waits {outbox : Outbox} {metrics : Metrics} :
    (correlation, token) ∈ ((new outbox metrics).run history).pending ↔
      (new outbox metrics).Waits history correlation token := by
  rw [((sound_new outbox metrics).run history).mem_pending, waits_iff]
  simp only [Waiter.waitsFor, Waiter.entry, Bool.and_eq_true, beq_iff_eq, Prod.mk.injEq, and_assoc]

/-- A closed exchange lets nobody wait. -/
def Emptied (x : Exchange) : Prop :=
  x.isClosed = true → x.pending = []

theorem Emptied.step (emptied : x.Emptied) (sound : x.Sound) (op : Operation) :
    (x.step op).Emptied := by
  cases op with
  | post request deadline =>
    show (x.attempt request deadline).2.Emptied
    have attempted := sound.attempted request deadline
    generalize x.attempt request deadline = attempt at attempted ⊢
    cases attempted with
    | refused => exact emptied
    | duplicate => exact emptied
    | unsent => exact emptied
    | posted goesOn sent => exact fun closed => nomatch goesOn.symm.trans closed
  | complete response =>
    show (x.complete response).2.Emptied
    rw [sound.complete_eq]
    split
    · intro closed
      show x.pending.filter _ = []
      rw [emptied closed]
      rfl
    · exact emptied
  | drop token =>
    intro closed
    show x.pending.filter _ = []
    rw [emptied closed]
    rfl
  | close => exact fun _ => rfl
  | expire now =>
    intro closed
    show x.pending.filter _ = []
    rw [emptied closed]
    rfl
  | send envelope => exact emptied
  | clear => exact emptied
  | closeOutbox => exact emptied

theorem Sound.isClosed_step (sound : x.Sound) (op : Operation) (closed : x.isClosed = true) :
    (x.step op).isClosed = true := by
  cases op with
  | post request deadline =>
    show (x.attempt request deadline).2.isClosed = true
    have attempted := sound.attempted request deadline
    generalize x.attempt request deadline = attempt at attempted ⊢
    cases attempted <;> exact closed
  | complete response =>
    show (x.complete response).2.isClosed = true
    rw [sound.complete_eq]
    split <;> exact closed
  | close => rfl
  | _ => exact closed

theorem Emptied.run (emptied : x.Emptied) (sound : x.Sound) (history : List Operation) :
    (x.run history).Emptied ∧ (x.isClosed = true → (x.run history).isClosed = true) := by
  induction history generalizing x with
  | nil => exact ⟨emptied, id⟩
  | cons op history ih =>
    obtain ⟨emptied', stays⟩ := ih (emptied.step sound op) (sound.step op)
    exact ⟨emptied', fun closed => stays (sound.isClosed_step op closed)⟩

/-- Once an exchange is closed, nobody waits, whatever is done to it. -/
theorem pending_of_closed {outbox : Outbox} {metrics : Metrics} (mem : .close ∈ history) :
    ((new outbox metrics).run history).pending = [] := by
  obtain ⟨before, later, rfl⟩ := List.mem_iff_append.1 mem
  have fresh := sound_new outbox metrics
  have between := fresh.run before
  have emptied := (Emptied.run (x := new outbox metrics) nofun fresh before).1
  obtain ⟨emptied', stays⟩ :=
    (emptied.step between .close).run (between.step .close) later
  rw [run_append, run_cons]
  exact emptied' (stays rfl)

theorem Sound.tokens_pending_nodup (sound : x.Sound) : (x.pending.map (·.2)).Nodup := by
  rw [sound.pending_eq, List.map_map]
  exact sound.tokens_nodup.sublist (List.filter_sublist.map _)

/-- To forget a request takes its own entry out of the map, if it still has one. -/
theorem Sound.forget_pending (sound : x.Sound)
    (own : ∀ w ∈ x.waiters, w.token = token → w.correlation = correlation) :
    (x.forget token).pending = x.pending.erase (correlation, token) := by
  have nodup : x.pending.Nodup := .of_map _ sound.tokens_pending_nodup
  rw [nodup.erase_eq_filter]
  refine List.filter_congr ?_
  intro entry mem
  obtain ⟨w, hw, -, rfl⟩ := sound.mem_pending.1 mem
  rw [Bool.eq_iff_iff, bne_iff_ne, bne_iff_ne, Ne, Ne, not_iff_not]
  constructor
  · intro same
    exact Prod.ext (own w hw same) same
  · intro same
    exact congrArg Prod.snd same

theorem Sound.own_of_posted (sound : x.Sound)
    (posted : x.Posted history request deadline token later) :
    ∀ w ∈ (x.run history).waiters, w.token = token → w.correlation = request.correlation := by
  rintro w hw rfl
  have goesOn := sound.waiter?_of_posted posted
  rw [(sound.run history).waiter?_of_mem hw, Waiter.afterAll_new] at goesOn
  split at goesOn
  · contradiction
  · rw [Option.some.inj goesOn]

/-- A post that fails leaves no trace among those who wait and in the queue. -/
theorem Sound.step_of_post_error (sound : x.Sound) {fault : Fault}
    (failed : x.post request deadline = .error fault) :
    (x.step (.post request deadline)).pending = x.pending ∧
      (x.step (.post request deadline)).outbox = x.outbox := by
  rw [post_eq] at failed
  show (x.attempt request deadline).2.pending = _ ∧ (x.attempt request deadline).2.outbox = _
  have attempted := sound.attempted request deadline
  generalize x.attempt request deadline = attempt at attempted failed ⊢
  cases attempted with
  | refused => exact ⟨rfl, rfl⟩
  | duplicate => exact ⟨rfl, rfl⟩
  | unsent => exact ⟨rfl, rfl⟩
  | posted => contradiction

/--
The map of correlations holds the requests that wait, whatever has been done to an exchange in
whatever order: its entries are theirs, one for each, so that it counts them, and no correlation
occurs twice. To drop a request takes out its own entry at most. A post that fails leaves the map
and the queue as they were, and once the exchange has been closed, the map stays empty.
-/
theorem pending_one_to_one (outbox : Outbox) (metrics : Metrics) (history : List Operation) :
    let start := new outbox metrics
    let x := start.run history
    (∀ correlation token,
      (correlation, token) ∈ x.pending ↔ start.Waits history correlation token) ∧
    (x.pending.map (·.1)).Nodup ∧ (x.pending.map (·.2)).Nodup ∧
    x.pendingCount = {token | ∃ correlation, start.Waits history correlation token}.ncard ∧
    (∀ request deadline token later, start.Posted history request deadline token later →
      (x.step (.drop token)).pending = x.pending.erase (request.correlation, token)) ∧
    (∀ request deadline fault, x.post request deadline = .error fault →
      (x.step (.post request deadline)).pending = x.pending ∧
      (x.step (.post request deadline)).outbox = x.outbox) ∧
    (.close ∈ history → x.pending = []) := by
  intro start x
  have fresh : start.Sound := sound_new outbox metrics
  have sound : x.Sound := fresh.run history
  have tokens : {token | ∃ correlation, start.Waits history correlation token} =
      ((x.pending.map (·.2)).toFinset : Set Nat) := by
    ext token
    simp only [Set.mem_ofPred_eq, List.coe_toFinset, List.mem_map, Prod.exists, exists_eq_right]
    exact exists_congr fun correlation => mem_pending_iff_waits.symm
  refine ⟨fun _ _ => mem_pending_iff_waits, sound.correlations_nodup, sound.tokens_pending_nodup,
    ?_, ?_, ?_, pending_of_closed⟩
  · rw [tokens, Set.ncard_coe_finset, List.toFinset_card_of_nodup sound.tokens_pending_nodup,
      List.length_map]
    rfl
  · intro request deadline token later posted
    exact sound.forget_pending (fresh.own_of_posted posted)
  · intro request deadline fault failed
    exact sound.step_of_post_error failed

end Hostlink.Exchange
