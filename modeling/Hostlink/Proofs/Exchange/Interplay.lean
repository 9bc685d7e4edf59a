import Hostlink.Proofs.Exchange.Delivery
/-!
Posts and the closing of an exchange, when each goes on by single steps and others come in between.
A post that has seen that requests are not refused may register its request only after closing let
nobody wait any longer: such a request is left behind. No other is.
-/

namespace Hostlink.Exchange

/-- How far a post has come. -/
inductive Stage where
  | begun
  /-- It has seen that requests are not refused. -/
  | admitted
  /-- Its request waits under a token. -/
  | registered (token : Nat)
  | finished (result : Except Fault Nat)

/-- A post on its way. -/
structure Posting where
  request : Request
  deadline : Option Nat := none
  stage : Stage := .begun

namespace Posting

/-- The next step of a post. -/
def advance (p : Posting) (x : Exchange) : Posting × Exchange :=
  match p.stage with
  | .begun =>
    if x.isClosed then ({ p with stage := .finished (.error .connectionClosed) }, x)
    else ({ p with stage := .admitted }, x)
  | .admitted =>
    match x.register p.request p.deadline with
    | (.ok token, x) => ({ p with stage := .registered token }, x)
    | (.error fault, x) => ({ p with stage := .finished (.error fault) }, x)
  | .registered token =>
    let (result, x) := x.enqueue p.request token
    ({ p with stage := .finished result }, x)
  | .finished _ => (p, x)

/-- The entry of a post whose request waits, or was sent. -/
def slot? (p : Posting) : Option (String × Nat) :=
  match p.stage with
  | .registered token | .finished (.ok token) => some (p.request.correlation, token)
  | _ => none

/-- What a step of a post does to those who wait. -/
inductive Advanced (p : Posting) (x : Exchange) : Posting × Exchange → Prop where
  | quiet {q : Posting} {y : Exchange} (entry : q.slot? = p.slot?)
      (waiters : y.waiters = x.waiters) (nextToken : x.nextToken ≤ y.nextToken)
      (isClosed : y.isClosed = x.isClosed) :
      Advanced p x (q, y)
  | registered {q : Posting} (admitted : p.stage = .admitted) (before : p.slot? = none)
      (after : q.slot? = some (x.newWaiter p.request p.deadline).entry) :
      Advanced p x (q, x.withWaiter p.request p.deadline)
  | forgotten {q : Posting} {entry : String × Nat} (before : p.slot? = some entry)
      (after : q.slot? = none) : Advanced p x (q, x.forget entry.2)

theorem advanced (p : Posting) (x : Exchange) : Advanced p x (p.advance x) := by
  obtain ⟨request, deadline, stage⟩ := p
  cases stage with
  | begun =>
    simp only [advance]
    split <;> exact .quiet rfl rfl (Nat.le_refl _) rfl
  | admitted =>
    simp only [advance, Exchange.register]
    by_cases taken : (x.pending.lookup request.correlation).isSome = true
    · simp only [taken, if_true]
      exact .quiet rfl rfl (Nat.le_succ _) rfl
    · simp only [taken]
      exact .registered rfl rfl rfl
  | registered token =>
    simp only [advance, Exchange.enqueue]
    cases x.outbox.send? (.request request) with
    | some outbox => exact .quiet rfl rfl (Nat.le_refl _) rfl
    | none => exact @Advanced.forgotten _ _ _ (request.correlation, token) rfl rfl
  | finished result => exact .quiet rfl rfl (Nat.le_refl _) rfl

theorem Advanced.isClosed {p q : Posting} {x y : Exchange} (advanced : Advanced p x (q, y)) :
    y.isClosed = x.isClosed := by
  cases advanced with
  | quiet _ _ _ isClosed => exact isClosed
  | registered => rfl
  | forgotten => rfl

theorem sound_advance {x : Exchange} (sound : x.Sound) (p : Posting) : (p.advance x).2.Sound := by
  unfold advance
  split
  · split <;> exact sound
  · have registered := sound.register p.request p.deadline
    split <;> next eq => rwa [eq] at registered
  · exact sound.enqueue p.request _
  · exact sound

/-- When requests are refused, no post gets past its look. -/
theorem advance_ne_admitted {x : Exchange} (closed : x.isClosed = true) (p : Posting) :
    (p.advance x).1.stage ≠ .admitted := by
  unfold advance
  rw [closed]
  split
  · exact nofun
  · split <;> exact nofun
  · exact nofun
  · next finished => rw [finished]; exact nofun

/-- Without others in between, the steps of a post make up the post. -/
theorem advance_thrice (request : Request) (deadline : Option Nat) (x : Exchange) :
    let (p, y) := advance { request, deadline } x
    let (p, y) := p.advance y
    p.advance y =
      ({ request, deadline, stage := .finished (x.attempt request deadline).1 },
        (x.attempt request deadline).2) := by
  cases closed : x.isClosed with
  | true => simp only [advance, attempt, closed, if_true]
  | false =>
    simp only [advance, attempt, closed, Bool.false_eq_true, if_false]
    obtain ⟨result, y⟩ := x.register request deadline
    cases result <;> rfl

end Posting

/-- How far closing has come. -/
inductive Closing where
  | begun
  /-- Requests are refused. -/
  | refusing
  /-- Nobody waits any longer of those who waited then; `next` was the next token. -/
  | finished (next : Nat)

namespace Closing

/-- The next step of closing. -/
def advance (closing : Closing) (x : Exchange) : Closing × Exchange :=
  match closing with
  | begun => (refusing, x.refuse)
  | refusing => (finished x.nextToken, x.abandon)
  | finished next => (finished next, x)

/-- The fate of a request with a token, as far as closing has come. -/
def fate : Closing → Nat → Fate
  | finished next, token => if token < next then .closed else .waiting
  | _, _ => .waiting

/-- Without others in between, the steps of closing make up closing. -/
theorem advance_twice (x : Exchange) :
    let (closing, y) := begun.advance x
    closing.advance y = (finished x.nextToken, x.close) :=
  rfl

end Closing

/-- An exchange, with posts on their way and its closing. -/
structure Interplay where
  exchange : Exchange
  postings : List Posting
  closing : Closing := .begun

namespace Interplay

/-- A new exchange to which these requests are to be posted. -/
def start (outbox : Outbox) (metrics : Metrics) (postings : List (Request × Option Nat)) :
    Interplay where
  exchange := new outbox metrics
  postings := postings.map fun (request, deadline) => { request, deadline }

/-- Who takes the next step. -/
inductive Turn where
  | post (index : Nat)
  | close

/-- One of the posts takes its next step, or closing does. -/
def turn (s : Interplay) : Turn → Interplay
  | .post index =>
    match s.postings[index]? with
    | some p =>
      let (p, exchange) := p.advance s.exchange
      { s with exchange, postings := s.postings.set index p }
    | none => s
  | .close =>
    let (closing, exchange) := s.closing.advance s.exchange
    { s with exchange, closing }

/-- Posts and closing take their steps in the order of a schedule. -/
def run (s : Interplay) (schedule : List Turn) : Interplay :=
  schedule.foldl turn s

theorem run_append (s : Interplay) (sooner later : List Turn) :
    s.run (sooner ++ later) = (s.run sooner).run later :=
  List.foldl_append

/-- What a turn can be. -/
inductive Turned : Interplay → Interplay → Prop where
  | post (x : Exchange) (before : List Posting) (p : Posting) (after : List Posting)
      (closing : Closing) :
      Turned ⟨x, before ++ p :: after, closing⟩
        ⟨(p.advance x).2, before ++ (p.advance x).1 :: after, closing⟩
  | close (x : Exchange) (postings : List Posting) (closing : Closing) :
      Turned ⟨x, postings, closing⟩ ⟨(closing.advance x).2, postings, (closing.advance x).1⟩
  | idle (s : Interplay) : Turned s s

theorem turned (s : Interplay) (turn : Turn) : Turned s (s.turn turn) := by
  obtain ⟨x, postings, closing⟩ := s
  cases turn with
  | post index =>
    simp only [Interplay.turn]
    split
    · next p found =>
      obtain ⟨lt, rfl⟩ := List.getElem?_eq_some_iff.1 found
      obtain ⟨before, after, eq, -, set⟩ :=
        @List.exists_of_set _ index (postings[index].advance x).1 postings lt
      rw [set]
      have post := Turned.post x before postings[index] after closing
      rwa [← eq] at post
    · exact .idle _
  | close => exact .close x postings closing

/-- All posts and closing have come to their end. -/
def IsFinished (s : Interplay) : Prop :=
  (∀ p ∈ s.postings, ∃ result, p.stage = .finished result) ∧ ∃ next, s.closing = .finished next

/-- Every post that returned a token has been told that the exchange is closed, and nobody waits. -/
def AllTold (s : Interplay) : Prop :=
  s.exchange.pending = [] ∧
    ∀ p ∈ s.postings, ∀ token, p.stage = .finished (.ok token) →
      s.exchange.fate? token = some .closed

/-- Those who wait are those of the posts, and their fates are told by how far closing has come. -/
structure Coherent (s : Interplay) : Prop where
  sound : s.exchange.Sound
  entries : (s.exchange.waiters.map (·.entry)).Perm (s.postings.filterMap (·.slot?))
  fate_eq : ∀ w ∈ s.exchange.waiters, w.fate = s.closing.fate w.token
  fresh : ∀ token, s.exchange.nextToken ≤ token → s.closing.fate token = .waiting
  refuses : s.closing = .refusing → s.exchange.isClosed = true

variable {s : Interplay} {x : Exchange} {before after : List Posting} {p : Posting}
  {closing : Closing}

theorem coherent_start (outbox : Outbox) (metrics : Metrics)
    (postings : List (Request × Option Nat)) : (start outbox metrics postings).Coherent where
  sound := sound_new outbox metrics
  entries := by
    have none : (start outbox metrics postings).postings.filterMap (·.slot?) = [] := by
      rw [List.filterMap_eq_nil_iff]
      intro p hp
      obtain ⟨_, -, rfl⟩ := List.mem_map.1 hp
      rfl
    rw [none]
    exact .nil
  fate_eq := nofun
  fresh := fun _ _ => rfl
  refuses := nofun

namespace Coherent

theorem post (coherent : Coherent ⟨x, before ++ p :: after, closing⟩) :
    Coherent ⟨(p.advance x).2, before ++ (p.advance x).1 :: after, closing⟩ := by
  have sound := p.sound_advance coherent.sound
  have entries := coherent.entries
  have advanced := p.advanced x
  generalize p.advance x = next at sound advanced ⊢
  refine ⟨sound, ?_, ?_, ?_, fun refusing => advanced.isClosed.trans (coherent.refuses refusing)⟩
  · rw [List.filterMap_append] at entries ⊢
    cases advanced with
    | quiet entry waiters _ _ =>
      rw [waiters, List.filterMap_cons, entry, ← List.filterMap_cons]
      exact entries
    | registered _ unregistered registered =>
      rw [List.filterMap_cons_none unregistered] at entries
      rw [List.filterMap_cons_some registered]
      exact (entries.cons _).trans List.perm_middle.symm
    | @forgotten _ entry own gone =>
      rw [List.filterMap_cons_some own] at entries
      rw [List.filterMap_cons_none gone]
      have split := entries.trans List.perm_middle
      -- no other entry has the token of the one that goes
      have others := (List.nodup_cons.1 ((split.map (·.2)).nodup
        (by rw [List.map_map]; exact coherent.sound.tokens_nodup))).1
      have kept : (before.filterMap (·.slot?) ++ after.filterMap (·.slot?)).filter
          (·.2 != entry.2) = before.filterMap (·.slot?) ++ after.filterMap (·.slot?) := by
        rw [List.filter_eq_self]
        intro other mem
        exact bne_iff_ne.2 fun same => others (List.mem_map.2 ⟨other, mem, same⟩)
      have left := split.filter (·.2 != entry.2)
      rw [List.filter_cons_of_neg (by simp), kept, List.filter_map] at left
      exact left
  · intro w hw
    cases advanced with
    | quiet _ waiters _ _ => exact coherent.fate_eq w (waiters ▸ hw)
    | registered =>
      rcases List.mem_cons.1 hw with rfl | hw
      · exact (coherent.fresh _ (Nat.le_refl _)).symm
      · exact coherent.fate_eq w hw
    | forgotten => exact coherent.fate_eq w (List.mem_filter.1 hw).1
  · intro token le
    cases advanced with
    | quiet _ _ nextToken _ => exact coherent.fresh token (Nat.le_trans nextToken le)
    | registered => exact coherent.fresh token (Nat.le_of_succ_le le)
    | forgotten => exact coherent.fresh token le

theorem close {postings : List Posting} (coherent : Coherent ⟨x, postings, closing⟩) :
    Coherent ⟨(closing.advance x).2, postings, (closing.advance x).1⟩ := by
  cases closing with
  | begun =>
    exact ⟨coherent.sound.of_same rfl rfl (Nat.le_refl _), coherent.entries, coherent.fate_eq,
      fun _ _ => rfl, fun _ => rfl⟩
  | refusing =>
    have sound := coherent.sound
    show Coherent ⟨x.abandon, postings, .finished x.nextToken⟩
    rw [sound.abandon_eq]
    refine ⟨sound.settle _ rfl, ?_, ?_, ?_, nofun⟩
    · have same : (x.settle (·.isWaiting) .closed).waiters.map (·.entry) =
          x.waiters.map (·.entry) := by
        unfold settle
        rw [List.map_map]
        refine List.map_congr_left ?_
        intro w _
        simp only [Function.comp_def]
        split <;> rfl
      rw [same]
      exact coherent.entries
    · intro w hw
      obtain ⟨v, hv, rfl⟩ := List.mem_map.1 hw
      have waits : v.isWaiting = true := by
        unfold Waiter.isWaiting
        rw [coherent.fate_eq v hv]
        rfl
      rw [if_pos waits]
      exact (if_pos (sound.token_lt v hv)).symm
    · intro token le
      exact if_neg (Nat.not_lt.2 le)
  | finished next => exact coherent

theorem turn (coherent : s.Coherent) (turn : Turn) : (s.turn turn).Coherent := by
  have turned := s.turned turn
  generalize s.turn turn = t at turned ⊢
  cases turned with
  | post => exact coherent.post
  | close => exact coherent.close
  | idle => exact coherent

theorem run (coherent : s.Coherent) (schedule : List Turn) : (s.run schedule).Coherent := by
  induction schedule generalizing s with
  | nil => exact coherent
  | cons turn schedule ih => exact ih (coherent.turn turn)

theorem isWaiting_eq (coherent : s.Coherent) {next : Nat} (finished : s.closing = .finished next)
    {w : Waiter} (hw : w ∈ s.exchange.waiters) : w.isWaiting = decide (next ≤ w.token) := by
  unfold Waiter.isWaiting
  rw [coherent.fate_eq w hw, finished]
  show (if w.token < next then Fate.closed else .waiting).result?.isNone = _
  by_cases early : w.token < next
  · rw [if_pos early, decide_eq_false (Nat.not_le.2 early)]
    rfl
  · rw [if_neg early, decide_eq_true (Nat.not_lt.1 early)]
    rfl

/-- The fate of a request that was sent is told by how far closing has come. -/
theorem fate?_eq (coherent : s.Coherent) (hp : p ∈ s.postings) {token : Nat}
    (sent : p.stage = .finished (.ok token)) :
    ∃ w ∈ s.exchange.waiters, w.token = token ∧
      s.exchange.fate? token = some (s.closing.fate token) := by
  have own : p.slot? = some (p.request.correlation, token) := by
    unfold Posting.slot?; rw [sent]
  have mem := coherent.entries.mem_iff.2 (List.mem_filterMap.2 ⟨p, hp, own⟩)
  obtain ⟨w, hw, eq⟩ := List.mem_map.1 mem
  obtain rfl : w.token = token := congrArg Prod.snd eq
  refine ⟨w, hw, rfl, ?_⟩
  show (s.exchange.waiter? w.token).map (·.fate) = _
  rw [coherent.sound.waiter?_of_mem hw, Option.map_some, coherent.fate_eq w hw]

/-- Once closing is over, those wait who came later. -/
theorem pending_perm (coherent : s.Coherent) {next : Nat} (finished : s.closing = .finished next) :
    s.exchange.pending.Perm ((s.postings.filterMap (·.slot?)).filter (next ≤ ·.2)) := by
  have late : s.exchange.waiters.filter (·.isWaiting) =
      s.exchange.waiters.filter fun w => decide (next ≤ w.token) :=
    List.filter_congr fun w hw => coherent.isWaiting_eq finished hw
  have entries := coherent.entries.filter (fun entry => decide (next ≤ entry.2))
  rw [List.filter_map] at entries
  rw [coherent.sound.pending_eq, late]
  exact entries

end Coherent

/-- Requests are refused, and none that was not refused is still to be registered. -/
structure Shut (s : Interplay) : Prop where
  closed : s.exchange.isClosed = true
  admits : ∀ p ∈ s.postings, p.stage ≠ .admitted
  in_time : ∀ next, s.closing = .finished next → ∀ w ∈ s.exchange.waiters, w.token < next

namespace Shut

theorem turn (shut : s.Shut) (coherent : s.Coherent) (turn : Turn) : (s.turn turn).Shut := by
  have turned := s.turned turn
  generalize s.turn turn = t at turned ⊢
  cases turned with
  | post x before p after closing =>
    have admits := p.advance_ne_admitted shut.closed
    have advanced := p.advanced x
    generalize p.advance x = next at admits advanced ⊢
    refine ⟨advanced.isClosed.trans shut.closed, ?_, ?_⟩
    · intro q hq
      rcases List.mem_append.1 hq with hq | hq
      · exact shut.admits q (List.mem_append_left _ hq)
      · rcases List.mem_cons.1 hq with rfl | hq
        · exact admits
        · exact shut.admits q (List.mem_append_right _ (List.mem_cons_of_mem _ hq))
    · intro next finished w hw
      cases advanced with
      | quiet _ waiters _ _ => exact shut.in_time next finished w (waiters ▸ hw)
      | registered admitted _ _ =>
        exact absurd admitted (shut.admits p (List.mem_append_right _ List.mem_cons_self))
      | forgotten => exact shut.in_time next finished w (List.mem_filter.1 hw).1
  | close x postings closing =>
    cases closing with
    | begun => exact ⟨rfl, shut.admits, nofun⟩
    | refusing =>
      refine ⟨shut.closed, shut.admits, ?_⟩
      intro next finished w hw
      cases finished
      have sound := coherent.close.sound
      exact sound.token_lt w hw
    | finished next => exact shut
  | idle => exact shut

theorem run (shut : s.Shut) (coherent : s.Coherent) (schedule : List Turn) :
    (s.run schedule).Shut := by
  induction schedule generalizing s with
  | nil => exact shut
  | cons turn schedule ih => exact ih (shut.turn coherent turn) (coherent.turn turn)

theorem allTold (shut : s.Shut) (coherent : s.Coherent) {next : Nat}
    (finished : s.closing = .finished next) : s.AllTold := by
  constructor
  · rw [coherent.sound.pending_eq, List.map_eq_nil_iff, List.filter_eq_nil_iff]
    intro w hw
    have lt := shut.in_time next finished w hw
    rw [coherent.isWaiting_eq finished hw, decide_eq_false (Nat.not_le.2 lt)]
    exact Bool.false_ne_true
  · intro p hp token sent
    obtain ⟨w, hw, rfl, fate⟩ := coherent.fate?_eq hp sent
    rw [fate, finished]
    exact congrArg some (if_pos (shut.in_time next finished w hw))

end Shut

/--
Whom closing leaves behind, for all orders in which posts and closing take their steps: exactly
those who registered after it let nobody wait any longer. They wait on, and every other request that
was sent is told that the exchange is closed. If at any time while requests are refused, and before
those who wait are let go, no post is between its look and its registering, then nobody is left
behind.
-/
theorem close_leaves_late_posts (outbox : Outbox) (metrics : Metrics)
    (postings : List (Request × Option Nat)) (schedule : List Turn) (next : Nat)
    (finished : ((start outbox metrics postings).run schedule).closing = .finished next) :
    let s := (start outbox metrics postings).run schedule
    s.exchange.pending.Perm ((s.postings.filterMap (·.slot?)).filter (next ≤ ·.2)) ∧
    (∀ p ∈ s.postings, ∀ token, p.stage = .finished (.ok token) →
      s.exchange.fate? token = some (if token < next then .closed else .waiting)) ∧
    ∀ sooner later, schedule = sooner ++ later →
      ((start outbox metrics postings).run sooner).closing = .refusing →
      (∀ p ∈ ((start outbox metrics postings).run sooner).postings, p.stage ≠ .admitted) →
      s.AllTold := by
  intro s
  have coherent : s.Coherent := (coherent_start outbox metrics postings).run schedule
  refine ⟨coherent.pending_perm finished, ?_, ?_⟩
  · intro p hp token sent
    obtain ⟨_, _, _, fate⟩ := coherent.fate?_eq hp sent
    rw [fate, finished]
    rfl
  · rintro sooner later rfl refusing none
    have between := (coherent_start outbox metrics postings).run sooner
    have shut : ((start outbox metrics postings).run sooner).Shut :=
      ⟨between.refuses refusing, none, fun next finished => nomatch refusing.symm.trans finished⟩
    rw [run_append] at finished
    show ((start outbox metrics postings).run (sooner ++ later)).AllTold
    rw [run_append]
    exact (shut.run between later).allTold (between.run later) finished

/-- A request that is registered too late waits on, and one that was sent before is told. -/
theorem close_leaves_late_posts_of_one :
    let a : Request := { path := "/a", correlation := "a", path_ne := by decide }
    let s := start {} {} [(a, none)]
    let late := s.run [.post 0, .close, .close, .post 0, .post 0]
    let inTime := s.run [.post 0, .post 0, .post 0, .close, .close]
    late.closing = .finished 0 ∧ late.exchange.pending.Perm [("a", 0)] ∧
      late.exchange.fate? 0 = some .waiting ∧ inTime.closing = .finished 1 ∧ inTime.AllTold := by
  intro a s late inTime
  obtain ⟨pending, fates, -⟩ := close_leaves_late_posts {} {} [(a, none)]
    [.post 0, .close, .close, .post 0, .post 0] 0 rfl
  obtain ⟨-, -, unlessBetween⟩ := close_leaves_late_posts {} {} [(a, none)]
    [.post 0, .post 0, .post 0, .close, .close] 1 rfl
  refine ⟨rfl, pending, fates _ List.mem_cons_self 0 rfl, rfl, ?_⟩
  refine unlessBetween [.post 0, .post 0, .post 0, .close] [.close] rfl rfl ?_
  intro p hp
  rw [List.mem_singleton.1 hp]
  exact nofun

/-- It is not so that nobody is left behind, whatever the order of the steps. -/
theorem not_always_allTold :
    ¬∀ outbox metrics postings schedule, ((start outbox metrics postings).run schedule).IsFinished →
      ((start outbox metrics postings).run schedule).AllTold := by
  intro always
  let a : Request := { path := "/a", correlation := "a", path_ne := by decide }
  let late : List Turn := [.post 0, .close, .close, .post 0, .post 0]
  have finished : ((start {} {} [(a, none)]).run late).IsFinished := by
    refine ⟨?_, 0, rfl⟩
    intro p hp
    rw [List.mem_singleton.1 hp]
    exact ⟨.ok 0, rfl⟩
  have waits : ((start {} {} [(a, none)]).run late).exchange.pending = [("a", 0)] := rfl
  rw [(always {} {} [(a, none)] late finished).1] at waits
  contradiction

end Interplay

end Hostlink.Exchange
