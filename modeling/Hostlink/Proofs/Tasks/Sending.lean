import Hostlink.Proofs.Tasks.Turned
/-!
What becomes of outgoing envelopes, whatever the order in which the tasks take their turns. They are
sent in the order in which they were put into the queue, and the sink is as sending just these, and
closing it afterwards, leaves it.
-/

namespace Hostlink

variable {σ : Type}

namespace Session

variable {s : Session σ} {outlet : Outlet} {m : Metrics} {state : σ}

theorem outgoing_eq_iff :
    s.outgoing = (outlet, m.outgoing, state) ↔
      s.outlet = outlet ∧ s.metrics.outgoing = m.outgoing ∧ s.sink = state := by
  unfold outgoing
  rw [Prod.mk.injEq, Prod.mk.injEq]

theorem outgoing_send (h : s.outgoing = (outlet, m.outgoing, state)) (sink : Sink σ)
    (envelope : Envelope) :
    let (_, counted, after) := outlet.send sink envelope m state
    (s.send sink envelope).2.outgoing = (outlet, counted.outgoing, after) := by
  obtain ⟨rfl, same, rfl⟩ := outgoing_eq_iff.1 h
  obtain ⟨counted, after⟩ := Outlet.send_outgoing same s.outlet sink envelope s.sink
  exact outgoing_eq_iff.2 ⟨rfl, counted, after⟩

theorem outgoing_shut (h : s.outgoing = (outlet, m.outgoing, state)) (sink : Sink σ) :
    let (_, counted, after) := Outlet.close sink m state
    (s.shut sink).outgoing = (outlet, counted.outgoing, after) := by
  obtain ⟨rfl, same, rfl⟩ := outgoing_eq_iff.1 h
  obtain ⟨counted, after⟩ := Outlet.close_outgoing same sink s.sink
  exact outgoing_eq_iff.2 ⟨rfl, counted, after⟩

end Session

namespace Tasks

variable {s : Session σ} {t after : Tasks σ} {sink : Sink σ} {past events more : List Event}

namespace Event

def enqueued? : Event → Option Envelope
  | enqueued envelope => some envelope
  | _ => none

def handed? : Event → Option Envelope
  | handed envelope => some envelope
  | _ => none

def isShut : Event → Bool
  | shut => true
  | _ => false

theorem isShut_iff {event : Event} : event.isShut = true ↔ event = shut := by
  cases event <;> simp [isShut]

instance {events : List Event} : Decidable (shut ∈ events) :=
  decidable_of_iff (events.any isShut = true) (by simp [isShut_iff])

end Event

/-- The envelopes that were put into the queue. -/
def enqueued (events : List Event) : List Envelope :=
  events.filterMap Event.enqueued?

/-- The envelopes that were handed over to be sent. -/
def handed (events : List Event) : List Envelope :=
  events.filterMap Event.handed?

@[simp]
theorem enqueued_append : enqueued (events ++ more) = enqueued events ++ enqueued more :=
  List.filterMap_append

@[simp]
theorem handed_append : handed (events ++ more) = handed events ++ handed more :=
  List.filterMap_append

@[simp]
theorem enqueued_map (envelopes : List Envelope) :
    enqueued (envelopes.map .enqueued) = envelopes := by
  unfold enqueued
  rw [List.filterMap_map]
  exact List.filterMap_some

@[simp]
theorem handed_map (envelopes : List Envelope) : handed (envelopes.map .enqueued) = [] := by
  unfold handed
  rw [List.filterMap_map]
  exact List.filterMap_none _

/-- The envelopes that are still to be sent: one may be in hand, and the others are in the queue. -/
def left (t : Tasks σ) : List Envelope :=
  t.writer.inHand?.toList ++ t.outbox.queue

theorem left_of_inHand? (free : t.writer.inHand? = none) : t.left = t.outbox.queue := by
  unfold left
  rw [free]
  rfl

/--
The queue is open until the writer has come to its end, and what was put into it has been handed over
or is left.
-/
structure Flowing (s : Session σ) (past : List Event) (t : Tasks σ) : Prop where
  isOpen : t.writer ≠ .ended → t.outbox.isOpen = true
  handed : ∃ rest, s.exchange.outbox.queue ++ enqueued past = handed past ++ rest ∧
    (t.writer ≠ .ended → rest = t.left)

/-- A turn in which no envelope is put into the queue, and none is sent. -/
structure Rests (t : Tasks σ) (events : List Event) (after : Tasks σ) : Prop where
  isOpen : after.outbox.isOpen = t.outbox.isOpen
  left : after.left = t.left
  ended : t.writer = .ended → after.writer = .ended
  enqueued : enqueued events = []
  handed : handed events = []

namespace Flowing

theorem of_rests (flowing : Flowing s past t) (rests : Rests t events after) :
    Flowing s (past ++ events) after where
  isOpen := by
    intro goesOn
    rw [rests.isOpen]
    exact flowing.isOpen (mt rests.ended goesOn)
  handed := by
    obtain ⟨rest, all, left⟩ := flowing.handed
    refine ⟨rest, by simpa [rests.enqueued, rests.handed] using all, ?_⟩
    intro goesOn
    rw [rests.left]
    exact left (mt rests.ended goesOn)

/-- What is put into the queue is added to what is left. -/
theorem of_adds (flowing : Flowing s past t)
    (adds : ∃ envelopes, t.outbox.Adds envelopes after.outbox) (writer : after.writer = t.writer)
    (enqueues : enqueued events = t.outbox.added after.outbox) (hands : Tasks.handed events = []) :
    Flowing s (past ++ events) after := by
  obtain ⟨_, adds⟩ := adds
  have adds := adds.added
  exact {
    isOpen := by
      rw [writer]
      exact fun goesOn => (adds (flowing.isOpen goesOn)).1
    handed := by
      obtain ⟨rest, all, left⟩ := flowing.handed
      refine ⟨rest ++ t.outbox.added after.outbox, ?_, ?_⟩
      · rw [enqueued_append, enqueues, handed_append, hands, List.append_nil, ← List.append_assoc,
          all, List.append_assoc]
      · unfold Tasks.left
        rw [writer]
        intro goesOn
        rw [left goesOn, (adds (flowing.isOpen goesOn)).2, ← List.append_assoc]
        rfl }

theorem turned (flowing : Flowing s past t) (turned : Turned sink t events after) :
    Flowing s (past ++ events) after := by
  cases turned with
  | goesOn goesOn => exact flowing.of_adds goesOn.adds rfl (enqueued_map _) (handed_map _)
  | settles settled settles =>
    refine flowing.of_adds ⟨_, settles.adds⟩ rfl ?_ ?_
    · rw [enqueued_append, enqueued_map]
      exact List.append_nil _
    · rw [handed_append, handed_map]
      rfl
  | @takes drains envelope outbox seeking taken =>
    have free : t.writer.inHand? = none := by rw [seeking, Writer.inHand?_seeking]
    obtain ⟨queue, isOpen⟩ := Outbox.of_take?_eq_some taken
    exact flowing.of_rests {
      isOpen := isOpen
      left := ((left_of_inHand? free).trans queue).symm
      ended := by simp [seeking, Writer.seeking_ne_ended]
      enqueued := rfl
      handed := rfl }
  | @sends envelope drains writing =>
    have goesOn : t.writer ≠ .ended := by
      rw [writing]
      exact nofun
    have left_eq : t.left = envelope :: t.outbox.queue := by
      unfold Tasks.left
      rw [writing]
      rfl
    obtain ⟨rest, all, left⟩ := flowing.handed
    rw [left goesOn, left_eq] at all
    exact {
      isOpen := fun _ => flowing.isOpen goesOn
      handed := by
        refine ⟨t.outbox.queue, ?_, fun _ => ?_⟩
        · rw [enqueued_append, handed_append, List.append_assoc]
          exact (congrArg _ (List.append_nil _)).trans all
        · symm
          exact left_of_inHand? (Writer.inHand?_seeking drains) }
  | abandons leaving =>
    obtain ⟨rest, all, -⟩ := flowing.handed
    exact {
      isOpen := fun goesOn => absurd rfl goesOn
      handed := by
        refine ⟨rest, ?_, fun goesOn => absurd rfl goesOn⟩
        rw [List.append_nil]
        exact all }
  | reads _ _ gains | stops _ gains =>
    exact flowing.of_rests {
      isOpen := congrArg Outbox.isOpen gains.outbox
      left := congrArg (fun outbox => t.writer.inHand?.toList ++ outbox.queue) gains.outbox
      ended := id
      enqueued := rfl
      handed := rfl }
  | looks before | polls before | sees before =>
    have free : t.writer.inHand? = none := by rw [before]; rfl
    exact flowing.of_rests {
      isOpen := rfl
      left := (left_of_inHand? free).symm
      ended := by simp [before]
      enqueued := rfl
      handed := rfl }
  | @leaves drains seeking =>
    have free : t.writer.inHand? = none := by rw [seeking, Writer.inHand?_seeking]
    exact flowing.of_rests {
      isOpen := rfl
      left := (left_of_inHand? free).symm
      ended := by simp [seeking, Writer.seeking_ne_ended]
      enqueued := rfl
      handed := rfl }
  | _ =>
    exact flowing.of_rests { isOpen := rfl, left := rfl, ended := id, enqueued := rfl, handed := rfl }

theorem prefix_enqueued (flowing : Flowing s past t) :
    Tasks.handed past <+: s.exchange.outbox.queue ++ enqueued past := by
  obtain ⟨rest, all, -⟩ := flowing.handed
  exact ⟨rest, all.symm⟩

end Flowing

/-- What is counted when the envelopes that were handed over have been sent, and the sink then. -/
def sendHanded (sink : Sink σ) (s : Session σ) (events : List Event) : Metrics × σ :=
  s.outlet.sendAll sink (handed events) s.metrics s.sink

theorem sendHanded_of_eq_nil (hands : handed events = []) :
    sendHanded sink s (past ++ events) = sendHanded sink s past := by
  unfold sendHanded
  rw [handed_append, hands, List.append_nil]

theorem sendHanded_concat (envelope : Envelope) :
    sendHanded sink s (past ++ [.handed envelope]) =
      let (m, state) := sendHanded sink s past
      (s.outlet.send sink envelope m state).2 := by
  unfold sendHanded
  rw [handed_append]
  exact Outlet.sendAll_concat _ _ _ _ _ _

/--
The sink, with what is counted of it, is as sending the envelopes leaves it that were handed over, and
as closing it leaves it once the reader has come to its end. The writer has done so before.
-/
structure Sending (sink : Sink σ) (s : Session σ) (past : List Event) (t : Tasks σ) : Prop where
  finished : t.reader.isFinished = true → t.writer = .ended
  shut_iff : .shut ∈ past ↔ t.reader.isFinished = true
  sent : .shut ∉ past →
    let (m, state) := sendHanded sink s past
    t.session.outgoing = (s.outlet, m.outgoing, state)
  closed : .shut ∈ past →
    let (m, state) := sendHanded sink s past
    let (_, m, state) := Outlet.close sink m state
    t.session.outgoing = (s.outlet, m.outgoing, state)

/-- A turn in which nothing is sent, and the sink is not closed. -/
structure Silent (t : Tasks σ) (events : List Event) (after : Tasks σ) : Prop where
  outgoing : after.session.outgoing = t.session.outgoing
  reader : after.reader.isFinished = t.reader.isFinished
  ended : t.writer = .ended → after.writer = .ended
  handed : handed events = []
  shut : .shut ∉ events

namespace Sending

/-- Before the writer has come to its end, the sink is not closed. -/
theorem not_shut (sending : Sending sink s past t) (goesOn : t.writer ≠ .ended) :
    t.reader.isFinished = false ∧ .shut ∉ past := by
  have untold := mt sending.finished goesOn
  exact ⟨Bool.eq_false_iff.2 untold, mt sending.shut_iff.1 untold⟩

theorem of_silent (sending : Sending sink s past t) (silent : Silent t events after) :
    Sending sink s (past ++ events) after where
  finished := fun finished => silent.ended (sending.finished (silent.reader ▸ finished))
  shut_iff := by
    rw [List.mem_append, or_iff_left silent.shut, silent.reader]
    exact sending.shut_iff
  sent := by
    rw [List.mem_append, or_iff_left silent.shut, sendHanded_of_eq_nil silent.handed,
      silent.outgoing]
    exact sending.sent
  closed := by
    rw [List.mem_append, or_iff_left silent.shut, sendHanded_of_eq_nil silent.handed,
      silent.outgoing]
    exact sending.closed

theorem turned (sending : Sending sink s past t) (turned : Turned sink t events after) :
    Sending sink s (past ++ events) after := by
  cases turned with
  | @sends envelope drains writing =>
    have goesOn : t.writer ≠ .ended := by
      rw [writing]
      exact nofun
    obtain ⟨reading, isOpen⟩ := sending.not_shut goesOn
    have stillOpen : .shut ∉ past ++ [.handed envelope] := by simp [isOpen]
    exact {
      finished := fun finished => nomatch reading.symm.trans finished
      shut_iff := iff_of_false stillOpen (Bool.eq_false_iff.1 reading)
      sent := by
        rw [sendHanded_concat]
        exact fun _ => Session.outgoing_send (sending.sent isOpen) sink envelope
      closed := fun shut => absurd shut stillOpen }
  | shuts notified written =>
    have isOpen : .shut ∉ past := by
      rw [sending.shut_iff, notified]
      exact nofun
    have shut : Event.shut ∈ past ++ [.shut] := List.mem_append_right _ List.mem_cons_self
    exact {
      finished := fun _ => written
      shut_iff := iff_of_true shut rfl
      sent := fun stillOpen => absurd shut stillOpen
      closed := by
        rw [sendHanded_of_eq_nil rfl]
        exact fun _ => Session.outgoing_shut (sending.sent isOpen) sink }
  | goesOn goesOn =>
    exact sending.of_silent {
      outgoing := goesOn.outgoing
      reader := rfl
      ended := id
      handed := handed_map _
      shut := by simp }
  | settles settled settles =>
    exact sending.of_silent {
      outgoing := settles.outgoing
      reader := rfl
      ended := id
      handed := by rw [handed_append, handed_map]; rfl
      shut := by simp }
  | reads _ _ gains =>
    exact sending.of_silent {
      outgoing := gains.outgoing
      reader := rfl
      ended := id
      handed := rfl
      shut := by simp }
  | stops reading gains =>
    exact sending.of_silent {
      outgoing := gains.outgoing
      reader := by rw [reading]; rfl
      ended := id
      handed := rfl
      shut := by simp }
  | closes before | notifies before =>
    exact sending.of_silent {
      outgoing := rfl
      reader := by rw [before]; rfl
      ended := id
      handed := rfl
      shut := by simp }
  | worked =>
    exact sending.of_silent {
      outgoing := rfl
      reader := rfl
      ended := id
      handed := rfl
      shut := by simp }
  | takes before | looks before | polls before | sees before | leaves before | abandons before =>
    exact sending.of_silent {
      outgoing := rfl
      reader := rfl
      ended := by simp [before, Writer.seeking_ne_ended]
      handed := rfl
      shut := by simp }

theorem of_not_shut (sending : Sending sink s past t) (isOpen : .shut ∉ past) :
    t.session.sink = (sendHanded sink s past).2 ∧
      t.session.metrics.outgoing = (sendHanded sink s past).1.outgoing := by
  obtain ⟨-, counted, state⟩ := Session.outgoing_eq_iff.1 (sending.sent isOpen)
  exact ⟨state, counted⟩

theorem of_shut (sending : Sending sink s past t) (shut : .shut ∈ past) :
    let (m, state) := sendHanded sink s past
    let (_, m, state) := Outlet.close sink m state
    t.session.sink = state ∧ t.session.metrics.outgoing = m.outgoing := by
  obtain ⟨-, counted, state⟩ := Session.outgoing_eq_iff.1 (sending.closed shut)
  exact ⟨state, counted⟩

/-- A sink that takes everything holds the frames of the envelopes that were handed over. -/
theorem written (sending : Sending sink s past t) {written : σ → Bytes}
    (accepts : sink.Accepts written) :
    written t.session.sink =
      written s.sink ++ (handed past).flatMap (Frame.trace s.outlet.limit) := by
  have sent := Outlet.sendAll_written accepts s.outlet (handed past) s.metrics s.sink
  by_cases shut : .shut ∈ past
  · rw [(sending.of_shut shut).1]
    exact (Session.close_written accepts _ _).trans sent
  · rw [(sending.of_not_shut shut).1]
    exact sent

end Sending

end Tasks

end Hostlink
