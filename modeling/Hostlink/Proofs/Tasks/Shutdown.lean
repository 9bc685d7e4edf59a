import Hostlink.Proofs.Tasks.Sending
import Hostlink.Proofs.Tasks.Serving
/-!
The outgoing queue from its first envelope to its end, for all orders in which the tasks take their
turns: all envelopes that were in the queue when the writer was told to come to its end are sent
before it does, among them the responses of all requests that were read, and the sink is closed only
after that.
-/

namespace Hostlink.Tasks

variable {σ : Type} {sink : Sink σ} {s : Session σ} {t after : Tasks σ}
  {past events more : List Event}

namespace Event

def read? : Event → Option Request
  | read request => some request
  | _ => none

def settled? : Event → Option Settled
  | settled done => some done
  | _ => none

end Event

/-- The requests that were read. -/
def reads (events : List Event) : List Request :=
  events.filterMap Event.read?

/-- The requests that were settled. -/
def settledIn (events : List Event) : List Settled :=
  events.filterMap Event.settled?

/-- The responses of the requests that were settled. -/
def answers (replyUnroutable : Bool) (events : List Event) : List Envelope :=
  ((settledIn events).filterMap (·.response? replyUnroutable)).map .response

@[simp]
theorem reads_append : reads (events ++ more) = reads events ++ reads more :=
  List.filterMap_append

@[simp]
theorem settledIn_append : settledIn (events ++ more) = settledIn events ++ settledIn more :=
  List.filterMap_append

@[simp]
theorem answers_append (reply : Bool) :
    answers reply (events ++ more) = answers reply events ++ answers reply more := by
  unfold answers
  rw [settledIn_append, List.filterMap_append, List.map_append]

section Enqueued

variable (envelopes : List Envelope)

@[simp]
theorem reads_map : reads (envelopes.map .enqueued) = [] := by
  unfold reads
  rw [List.filterMap_map]
  exact List.filterMap_none _

@[simp]
theorem settledIn_map : settledIn (envelopes.map .enqueued) = [] := by
  unfold settledIn
  rw [List.filterMap_map]
  exact List.filterMap_none _

@[simp]
theorem answers_map (reply : Bool) : answers reply (envelopes.map .enqueued) = [] := by
  unfold answers
  rw [settledIn_map]
  rfl

end Enqueued

theorem answers_settled (reply : Bool) (settled : Settled) :
    answers reply [.settled settled] = (settled.response? reply).toList.map .response := by
  show ([settled].filterMap _).map _ = _
  rw [List.filterMap_cons]
  cases settled.response? reply <;> rfl

/--
Requests are read as they come in and settled in the order in which they are read, and each puts its
response into the queue.
-/
structure Working (s : Session σ) (past : List Event) (t : Tasks σ) : Prop where
  brings : s.intake.Brings (reads past) t.session.intake
  undone : s.undone ++ reads past = (settledIn past).map (·.request) ++ t.undone
  answered : (answers s.replyUnroutable past).Sublist (enqueued past)
  replyUnroutable : t.session.replyUnroutable = s.replyUnroutable
  worked : t.worker = .ended → t.undone = [] ∧ t.reader.isReading = false

/-- A turn that has to do with no request. -/
structure Idles (t : Tasks σ) (events : List Event) (after : Tasks σ) : Prop where
  brings : t.session.intake.Brings [] after.session.intake
  undone : after.undone = t.undone
  replyUnroutable : after.session.replyUnroutable = t.session.replyUnroutable
  worked : after.worker = .ended → t.worker = .ended
  reader : t.reader.isReading = false → after.reader.isReading = false
  reads : reads events = []
  settledIn : settledIn events = []

namespace Working

theorem of_idles (working : Working s past t) (idles : Idles t events after) :
    Working s (past ++ events) after where
  brings := by
    rw [reads_append, idles.reads]
    exact working.brings.trans idles.brings
  undone := by simpa [idles.undone, idles.reads, idles.settledIn] using working.undone
  answered := by
    have none : answers s.replyUnroutable events = [] := by
      unfold answers
      rw [idles.settledIn]
      rfl
    rw [answers_append, none, List.append_nil, enqueued_append]
    exact working.answered.trans (List.sublist_append_left _ _)
  replyUnroutable := idles.replyUnroutable.trans working.replyUnroutable
  worked := by
    intro ended
    obtain ⟨none, finished⟩ := working.worked (idles.worked ended)
    exact ⟨idles.undone.trans none, idles.reader finished⟩

theorem turned (working : Working s past t) (isOpen : t.worker ≠ .ended → t.outbox.isOpen = true)
    (turned : Turned sink t events after) : Working s (past ++ events) after := by
  cases turned with
  | goesOn goesOn =>
    exact working.of_idles {
      brings := goesOn.brings
      undone := goesOn.undone
      replyUnroutable := goesOn.replyUnroutable
      worked := goesOn.ended.1
      reader := id
      reads := reads_map _
      settledIn := settledIn_map _ }
  | @reads session request reading gains =>
    exact {
      brings := by
        rw [reads_append]
        exact working.brings.trans gains.brings
      undone := by
        have undone : t.worker.request?.toList ++ session.queue = t.undone ++ [request] := by
          rw [gains.queue, ← List.append_assoc]
          rfl
        show _ = _ ++ (t.worker.request?.toList ++ session.queue)
        rw [undone, reads_append, ← List.append_assoc, working.undone, settledIn_append]
        show _ ++ _ ++ [request] = (_ ++ []).map _ ++ _
        rw [List.append_nil, List.append_assoc]
      answered := by
        rw [answers_append, enqueued_append]
        exact working.answered.append (List.Sublist.refl [])
      replyUnroutable := gains.replyUnroutable.trans working.replyUnroutable
      worked := by
        intro ended
        have finished := (working.worked ended).2
        rw [reading] at finished
        contradiction }
  | @settles session settled settles =>
    have added := settles.adds.added_eq (isOpen settles.working)
    rw [working.replyUnroutable] at added
    exact {
      brings := by
        rw [settles.intake]
        simp only [reads_append, reads_map]
        show s.intake.Brings (_ ++ ([] ++ [])) _
        simpa using working.brings
      undone := by
        have all := working.undone
        rw [settles.undone] at all
        simp only [reads_append, settledIn_append, reads_map, settledIn_map]
        show _ ++ (_ ++ ([] ++ [])) = (_ ++ ([] ++ [settled])).map _ ++ session.queue
        simpa using all
      answered := by
        simp only [answers_append, enqueued_append, enqueued_map, answers_map, answers_settled,
          added, List.nil_append]
        exact working.answered.append (List.sublist_append_left _ _)
      replyUnroutable := settles.replyUnroutable.trans working.replyUnroutable
      worked := nofun }
  | worked none finished =>
    have left : t.session.queue = [] := (List.append_eq_nil_iff.1 none).2
    exact {
      brings := by
        rw [List.append_nil]
        exact working.brings
      undone := by
        have all := working.undone
        rw [none] at all
        show s.undone ++ reads _ = _ ++ t.session.queue
        rw [List.append_nil, left]
        exact all
      answered := by
        rw [List.append_nil]
        exact working.answered
      replyUnroutable := working.replyUnroutable
      worked := fun _ => ⟨left, finished⟩ }
  | @stops session result reading gains =>
    exact working.of_idles {
      brings := gains.brings
      undone := by
        show t.worker.request?.toList ++ session.queue = t.undone
        rw [gains.queue, List.append_nil]
        rfl
      replyUnroutable := gains.replyUnroutable
      worked := id
      reader := fun _ => rfl
      reads := rfl
      settledIn := rfl }
  | closes | notifies | shuts =>
    exact working.of_idles {
      brings := .refl _
      undone := rfl
      replyUnroutable := rfl
      worked := id
      reader := fun _ => rfl
      reads := rfl
      settledIn := rfl }
  | _ =>
    exact working.of_idles {
      brings := .refl _
      undone := rfl
      replyUnroutable := rfl
      worked := id
      reader := id
      reads := rfl
      settledIn := rfl }

end Working

/--
The writer was told to come to its end between `before` and `later`. Everything that was read had
been settled by then, and once the writer takes no more envelopes, it has handed over all that had
been put into the queue by then.
-/
structure Noticed (s : Session σ) (past : List Event) (t : Tasks σ) (before later : List Event) :
    Prop where
  split : past = before ++ .notified :: later
  once : .notified ∉ before ++ later
  reads : reads later = []
  settledIn : settledIn later = []
  answered : (answers s.replyUnroutable before).Sublist (enqueued before)
  flushed : t.writer.isDone = true → s.exchange.outbox.queue ++ enqueued before <+: handed past

/-- The tasks come to their ends one after another: who works, who writes, and who reads. -/
structure Ending (s : Session σ) (past : List Event) (t : Tasks σ) : Prop where
  told : t.notice = true ∨ t.writer.drains = true → t.reader.hasNotified = true
  worked : t.reader.hasNotified = true → t.worker = .ended
  untold : t.reader.hasNotified = false → .notified ∉ past
  noticed : t.reader.hasNotified = true → ∃ before later, Noticed s past t before later

/-- A turn that the writer is not told in to come to its end. -/
structure Proceeds (s : Session σ) (past : List Event) (t : Tasks σ) (events : List Event)
    (after : Tasks σ) : Prop where
  reader : after.reader.hasNotified = t.reader.hasNotified
  worker : t.worker = .ended → after.worker = .ended
  told : after.notice = true ∨ after.writer.drains = true →
    t.notice = true ∨ t.writer.drains = true
  notified : .notified ∉ events
  quiet : t.reader.hasNotified = true → reads events = [] ∧ settledIn events = []
  flushed : after.writer.isDone = true →
    t.writer.isDone = true ∨ handed past = s.exchange.outbox.queue ++ enqueued past

theorem Noticed.extend {before later : List Event} (noticed : Noticed s past t before later)
    (proceeds : Proceeds s past t events after) (told : t.reader.hasNotified = true) :
    Noticed s (past ++ events) after before (later ++ events) where
  split := by
    rw [noticed.split, List.append_assoc]
    rfl
  once := by
    rw [← List.append_assoc, List.mem_append, not_or]
    exact ⟨noticed.once, proceeds.notified⟩
  reads := by
    rw [reads_append, noticed.reads, (proceeds.quiet told).1]
    rfl
  settledIn := by
    rw [settledIn_append, noticed.settledIn, (proceeds.quiet told).2]
    rfl
  answered := noticed.answered
  flushed := by
    intro done
    rw [handed_append]
    refine List.IsPrefix.trans ?_ (List.prefix_append _ _)
    rcases proceeds.flushed done with before | all
    · exact noticed.flushed before
    · rw [all, noticed.split, enqueued_append, ← List.append_assoc]
      exact List.prefix_append _ _

namespace Ending

/-- While requests are worked on, the writer does not come to its end. -/
theorem goesOn (ending : Ending s past t) (working : t.worker ≠ .ended) : t.writer ≠ .ended := by
  intro ended
  have told := ending.told (.inr (by rw [ended]; rfl))
  exact working (ending.worked told)

theorem of_proceeds (ending : Ending s past t) (proceeds : Proceeds s past t events after) :
    Ending s (past ++ events) after where
  told := fun told => by rw [proceeds.reader]; exact ending.told (proceeds.told told)
  worked := fun told => proceeds.worker (ending.worked (proceeds.reader ▸ told))
  untold := by
    rw [proceeds.reader, List.mem_append, not_or]
    exact fun untold => ⟨ending.untold untold, proceeds.notified⟩
  noticed := by
    rw [proceeds.reader]
    intro told
    obtain ⟨before, later, noticed⟩ := ending.noticed told
    exact ⟨before, later ++ events, noticed.extend proceeds told⟩

theorem turned (ending : Ending s past t) (flowing : Flowing s past t) (working : Working s past t)
    (sending : Sending sink s past t) (turned : Turned sink t events after) :
    Ending s (past ++ events) after := by
  cases turned with
  | goesOn goesOn =>
    exact ending.of_proceeds {
      reader := rfl
      worker := goesOn.ended.2
      told := id
      notified := by simp
      quiet := fun _ => ⟨reads_map _, settledIn_map _⟩
      flushed := .inl }
  | reads request reading =>
    exact ending.of_proceeds {
      reader := rfl
      worker := id
      told := id
      notified := by simp
      quiet := fun told => by rw [reading] at told; contradiction
      flushed := .inl }
  | settles settled settles =>
    exact ending.of_proceeds {
      reader := rfl
      worker := fun ended => absurd ended settles.working
      told := id
      notified := by simp
      quiet := fun told => absurd (ending.worked told) settles.working
      flushed := .inl }
  | worked =>
    exact ending.of_proceeds {
      reader := rfl
      worker := fun _ => rfl
      told := id
      notified := nofun
      quiet := fun _ => ⟨rfl, rfl⟩
      flushed := .inl }
  | stops before | closes before =>
    exact ending.of_proceeds {
      reader := by rw [before]; rfl
      worker := id
      told := id
      notified := nofun
      quiet := fun _ => ⟨rfl, rfl⟩
      flushed := .inl }
  | notifies closed worked =>
    have untold : t.reader.hasNotified = false := by
      rw [closed]
      rfl
    exact {
      told := fun _ => rfl
      worked := fun _ => worked
      untold := nofun
      noticed := fun _ => ⟨past, [], {
        split := rfl
        once := by
          rw [List.append_nil]
          exact ending.untold untold
        reads := rfl
        settledIn := rfl
        answered := working.answered
        flushed := by
          intro done
          have told := ending.told (.inr (Writer.drains_of_isDone done))
          exact nomatch untold.symm.trans told }⟩ }
  | shuts notified =>
    exact ending.of_proceeds {
      reader := by rw [notified]; rfl
      worker := id
      told := id
      notified := by simp
      quiet := fun _ => ⟨rfl, rfl⟩
      flushed := .inl }
  | @takes drains envelope outbox seeking =>
    exact ending.of_proceeds {
      reader := rfl
      worker := id
      told := by rw [seeking, Writer.drains_seeking]; exact id
      notified := nofun
      quiet := fun _ => ⟨rfl, rfl⟩
      flushed := nofun }
  | @sends envelope drains writing =>
    exact ending.of_proceeds {
      reader := rfl
      worker := id
      told := by rw [writing, Writer.drains_seeking]; exact id
      notified := by simp
      quiet := fun _ => ⟨rfl, rfl⟩
      flushed := by rw [Writer.isDone_seeking]; exact nofun }
  | looks before | polls before =>
    exact ending.of_proceeds {
      reader := rfl
      worker := id
      told := by rw [before]; exact id
      notified := nofun
      quiet := fun _ => ⟨rfl, rfl⟩
      flushed := nofun }
  | sees looking notice =>
    exact ending.of_proceeds {
      reader := rfl
      worker := id
      told := fun _ => .inl notice
      notified := nofun
      quiet := fun _ => ⟨rfl, rfl⟩
      flushed := nofun }
  | @leaves drains seeking reason empty =>
    have goesOn : t.writer ≠ .ended := seeking ▸ Writer.seeking_ne_ended drains
    -- the reader is not over before the writer is, so that the queue still had somebody to send
    have drained : drains = true := reason.resolve_right (mt sending.finished goesOn)
    exact ending.of_proceeds {
      reader := rfl
      worker := id
      told := fun _ => .inr (by rw [seeking, Writer.drains_seeking, drained])
      notified := nofun
      quiet := fun _ => ⟨rfl, rfl⟩
      flushed := by
        have free : t.writer.inHand? = none := by rw [seeking, Writer.inHand?_seeking]
        obtain ⟨rest, all, left⟩ := flowing.handed
        rw [left goesOn, left_of_inHand? free, empty, List.append_nil] at all
        exact fun _ => .inr all.symm }
  | abandons leaving =>
    exact ending.of_proceeds {
      reader := rfl
      worker := id
      told := fun _ => .inr (by rw [leaving]; rfl)
      notified := nofun
      quiet := fun _ => ⟨rfl, rfl⟩
      flushed := fun _ => .inl (by rw [leaving]; rfl) }

end Ending

/-- All that is so at any time. -/
structure Orderly (sink : Sink σ) (s : Session σ) (past : List Event) (t : Tasks σ) : Prop where
  flowing : Flowing s past t
  sending : Sending sink s past t
  working : Working s past t
  ending : Ending s past t

namespace Orderly

theorem start (sink : Sink σ) (isOpen : s.exchange.outbox.isOpen = true) :
    Orderly sink s [] (start s) where
  flowing := {
    isOpen := fun _ => isOpen
    handed := ⟨s.exchange.outbox.queue, List.append_nil _, fun _ => rfl⟩ }
  sending := {
    finished := nofun
    shut_iff := iff_of_false nofun nofun
    sent := fun _ => rfl
    closed := nofun }
  working := {
    brings := .refl _
    undone := by
      show s.undone ++ [] = (Tasks.start s).undone
      rw [List.append_nil]
      unfold Session.undone Tasks.undone Tasks.start
      cases s.busy <;> rfl
    answered := List.Sublist.refl _
    replyUnroutable := rfl
    worked := by
      unfold Tasks.start
      cases s.busy <;> exact nofun }
  ending := {
    told := by simp [Tasks.start, Writer.drains]
    worked := nofun
    untold := nofun
    noticed := nofun }

theorem turn (orderly : Orderly sink s past t) (turn : Turn) :
    Orderly sink s (past ++ (t.turn sink turn).1) (t.turn sink turn).2 := by
  have turned := t.turned sink turn
  have isOpen : t.worker ≠ .ended → t.outbox.isOpen = true :=
    fun working => orderly.flowing.isOpen (orderly.ending.goesOn working)
  exact {
    flowing := orderly.flowing.turned turned
    sending := orderly.sending.turned turned
    working := orderly.working.turned isOpen turned
    ending := orderly.ending.turned orderly.flowing orderly.working orderly.sending turned }

theorem run (orderly : Orderly sink s past t) (schedule : List Turn) :
    Orderly sink s (past ++ (t.run sink schedule).1) (t.run sink schedule).2 := by
  induction schedule generalizing past t with
  | nil =>
    rw [Tasks.run, List.append_nil]
    exact orderly
  | cons turn schedule ih =>
    rw [Tasks.run, ← List.append_assoc]
    exact ih (orderly.turn turn)

end Orderly

/-- A writer that has come to its end hands nothing over any more. -/
theorem Turned.of_ended (turned : Turned sink t events after) (ended : t.writer = .ended) :
    handed events = [] ∧ after.writer = .ended := by
  cases turned with
  | goesOn => exact ⟨handed_map _, ended⟩
  | settles =>
    rw [handed_append, handed_map]
    exact ⟨rfl, ended⟩
  | sends writing => exact nomatch writing.symm.trans ended
  | takes seeking => exact absurd (seeking.symm.trans ended) (Writer.seeking_ne_ended _)
  | leaves seeking => exact absurd (seeking.symm.trans ended) (Writer.seeking_ne_ended _)
  | looks before | polls before | sees before => exact nomatch before.symm.trans ended
  | abandons => exact ⟨rfl, rfl⟩
  | _ => exact ⟨rfl, ended⟩

theorem handed_run_of_ended (sink : Sink σ) (ended : t.writer = .ended) (schedule : List Turn) :
    handed (t.run sink schedule).1 = [] := by
  induction schedule generalizing t with
  | nil => rfl
  | cons turn schedule ih =>
    obtain ⟨none, ended⟩ := (t.turned sink turn).of_ended ended
    rw [run, handed_append, none, ih ended]
    rfl

/-- When the writer has come to its end, all that was in the queue by the notice was handed over. -/
theorem Orderly.flushed (orderly : Orderly sink s past t) (ended : t.writer = .ended) :
    ∃ before later, past = before ++ .notified :: later ∧ .notified ∉ before ++ later ∧
      s.undone ++ reads past = (settledIn before).map (·.request) ∧
      (answers s.replyUnroutable before).Sublist (enqueued before) ∧
      s.exchange.outbox.queue ++ enqueued before <+: handed past := by
  have told := orderly.ending.told (.inr (by rw [ended]; rfl))
  obtain ⟨before, later, noticed⟩ := orderly.ending.noticed told
  obtain ⟨none, -⟩ := orderly.working.worked (orderly.ending.worked told)
  have settled : settledIn past = settledIn before := by
    rw [noticed.split, settledIn_append]
    show _ ++ settledIn later = _
    rw [noticed.settledIn, List.append_nil]
  refine ⟨before, later, noticed.split, noticed.once, ?_, noticed.answered,
    noticed.flushed (by rw [ended]; rfl)⟩
  rw [orderly.working.undone, none, List.append_nil, settled]

/--
The outgoing queue is brought to its end in order, whatever the schedule of the tasks and whatever
others do. The requests that were read are those that came in. At any time the envelopes handed over
are the first ones that were put into the queue, in their order and each once, and the sink, with
what is counted of it, is as sending just these leaves it: one that takes everything holds their
frames. When the writer has come to its end, it had been told to, once; all requests that were read
were settled before that, with their responses put into the queue; all that was in the queue by then
has been handed over; and nothing will be any more. The sink is closed only then. Serving all at
once is one of the schedules.
-/
theorem queue_flushed_before_shutdown (sink : Sink σ) (s : Session σ)
    (isOpen : s.exchange.outbox.isOpen = true) :
    (∀ schedule : List Turn,
      let (events, t) := (start s).run sink schedule
      let (counted, state) := s.outlet.sendAll sink (handed events) s.metrics s.sink
      let (_, countedAtEnd, stateAtEnd) := Outlet.close sink counted state
      s.intake.Brings (reads events) t.session.intake ∧
      handed events <+: s.exchange.outbox.queue ++ enqueued events ∧
      (.shut ∉ events →
        t.session.sink = state ∧ t.session.metrics.outgoing = counted.outgoing) ∧
      (.shut ∈ events → t.writer = .ended ∧
        t.session.sink = stateAtEnd ∧ t.session.metrics.outgoing = countedAtEnd.outgoing) ∧
      (∀ written : σ → Bytes, sink.Accepts written →
        written t.session.sink =
          written s.sink ++ (handed events).flatMap (Frame.trace s.outlet.limit)) ∧
      (t.writer = .ended →
        (∃ before later, events = before ++ .notified :: later ∧ .notified ∉ before ++ later ∧
          s.undone ++ reads events = (settledIn before).map (·.request) ∧
          (answers s.replyUnroutable before).Sublist (enqueued before) ∧
          s.exchange.outbox.queue ++ enqueued before <+: handed events) ∧
        ∀ more, handed (t.run sink more).1 = [])) ∧
    ((s.serve sink).1 = none → Leads sink (start s) (start (s.serve sink).2.2)) ∧
    (∀ result, (s.serve sink).1 = some result → s.Cares →
      Leads sink (start s) (finished (s.serve sink).2.2 result)) := by
  refine ⟨fun schedule => ?_, leads_serve, fun result => leads_serve_over⟩
  have orderly := (Orderly.start sink isOpen).run schedule
  rw [List.nil_append] at orderly
  have sending := orderly.sending
  refine ⟨orderly.working.brings, orderly.flowing.prefix_enqueued, sending.of_not_shut,
    fun shut => ⟨?_, ?_⟩, fun written => sending.written,
    fun ended => ⟨orderly.flushed ended, ?_⟩⟩
  · exact sending.finished (sending.shut_iff.1 shut)
  · exact sending.of_shut shut
  · exact handed_run_of_ended sink ended

/--
A request is read and answered and a note is sent, in the middle of the writer's search for
envelopes. Both are on the sink before it is closed.
-/
theorem queue_flushed_before_shutdown_of_note :
    let request : Request := { path := "/a", correlation := "1", path_ne := by decide }
    let source : Source := {
      arrivals := [.data (Frame.ofEnvelope (.request request))], isEnded := true }
    let s : Session Bytes.Queue := {
      intake := { source }, outlet := {}, sink := .empty
      surroundings := {}, replyUnroutable := true }
    let note : Exchange.Operation := .send (.response { correlation := "2" })
    let schedule : List Turn := [.reader, .worker, .reader, .reader, .worker, .reader, .writer,
      .writer, .writer, .client note, .writer, .writer, .writer, .writer, .writer, .reader]
    let (events, t) := (start s).run Sink.memory schedule
    let (counted, state) := s.outlet.sendAll Sink.memory (handed events) s.metrics s.sink
    (reads events).map (·.correlation) = ["1"] ∧ s.intake.Brings (reads events) t.session.intake ∧
      t.writer = .ended ∧ (handed events).map (·.correlation) = ["1", "2"] ∧
      (∃ before later, events = before ++ .notified :: later ∧
        reads events = (settledIn before).map (·.request) ∧
        enqueued before <+: handed events) ∧
      .shut ∈ events ∧ t.session.sink = (Sink.memory.close state).2 ∧
      t.session.metrics.outgoing = counted.outgoing ∧
      t.session.sink.toList = (handed events).flatMap (Frame.trace none) ∧
      Leads Sink.memory (start s) (finished (s.serve Sink.memory).2.2 (.ok ())) := by
  intro request source s note schedule
  have read : (reads ((start s).run Sink.memory schedule).1).map (·.correlation) = ["1"] := by
    decide +kernel
  have ended : ((start s).run Sink.memory schedule).2.writer = .ended :=
    Writer.eq_ended (by decide +kernel)
  have both : (handed ((start s).run Sink.memory schedule).1).map (·.correlation) = ["1", "2"] := by
    decide +kernel
  have shut : .shut ∈ ((start s).run Sink.memory schedule).1 := by decide +kernel
  have serves : (s.serve Sink.memory).1 = some (.ok ()) := by decide +kernel
  have cares : s.Cares := {
    sound := Exchange.sound_new {} {}
    token_mem := nofun }
  obtain ⟨all, -, leads⟩ := queue_flushed_before_shutdown Sink.memory s rfl
  have flushed := all schedule
  -- what follows is about any events and tasks, so that the schedule is not followed once more
  generalize (start s).run Sink.memory schedule = result at read ended both shut flushed ⊢
  obtain ⟨events, t⟩ := result
  obtain ⟨brings, -, -, whenShut, written, whenEnded⟩ := flushed
  obtain ⟨⟨before, later, split, -, settled, -, flushed⟩, -⟩ := whenEnded ended
  obtain ⟨-, state, counted⟩ := whenShut shut
  exact ⟨read, brings, ended, both, ⟨before, later, split, settled, flushed⟩, shut, state, counted,
    written _ Sink.memory_accepts, leads _ serves cares⟩

end Hostlink.Tasks
