import Hostlink.Plugin
import Hostlink.Proofs.Handshake
import Hostlink.Proofs.Settings.Demands
/-!
A plugin at work, whatever happens in whatever order: an account is kept of the requests that it has
dealt with, and what it has written are the frames of their responses.
-/

namespace Hostlink

/-- A request that a plugin has dealt with. -/
inductive Deed where
  /-- It was the one that shook hands. -/
  | greeted (request : Request)
  | settled (done : Settled)

namespace Deed

def request : Deed → Request
  | greeted request => request
  | settled done => done.request

def settled? : Deed → Option Settled
  | greeted _ => none
  | settled done => some done

/-- The response that a deed leads to. -/
def response? (γ : Type) [Json.Decode γ] (replyUnroutable : Bool) : Deed → Option Response
  | greeted request => some (.ofGreeting γ request)
  | settled done => done.response? replyUnroutable

/-- Whether a response is due. Without a route there is one only if told. -/
def isAnswered (replyUnroutable : Bool) : Deed → Bool
  | greeted _ => true
  | settled ⟨_, none⟩ => replyUnroutable
  | settled ⟨_, some .silence⟩ => false
  | settled ⟨_, some (.reply _)⟩ => true
  | settled ⟨_, some (.failure _)⟩ => true
  | settled ⟨_, some (.panic _)⟩ => true

variable {γ : Type} [Json.Decode γ] {replyUnroutable : Bool}

theorem isSome_response? (deed : Deed) :
    (deed.response? γ replyUnroutable).isSome = deed.isAnswered replyUnroutable := by
  match deed with
  | greeted _ => rfl
  | settled ⟨_, none⟩ => cases replyUnroutable <;> rfl
  | settled ⟨_, some (.reply _)⟩ => rfl
  | settled ⟨_, some .silence⟩ => rfl
  | settled ⟨_, some (.failure _)⟩ => rfl
  | settled ⟨_, some (.panic _)⟩ => rfl

theorem of_response? {deed : Deed} {response : Response}
    (h : deed.response? γ replyUnroutable = some response) :
    response.correlation = deed.request.correlation ∧
      response.channel = deed.request.channel := by
  cases deed with
  | greeted request =>
    cases h
    exact Response.of_ofGreeting γ request
  | settled done => exact Settled.of_response? h

theorem filterMap_settled? (settled : List Settled) :
    (settled.map Deed.settled).filterMap Deed.settled? = settled := by
  rw [List.filterMap_map]
  exact List.filterMap_some

theorem filterMap_response? (settled : List Settled) :
    (settled.map Deed.settled).filterMap (Deed.response? γ replyUnroutable) =
      settled.filterMap (Settled.response? replyUnroutable) := by
  rw [List.filterMap_map]
  rfl

end Deed

namespace Plugin

open Session (requests)

/-- What can happen to a plugin. -/
inductive Event where
  | arrival (arrival : Arrival)
  | endOfInput
  | time (now : Nat)
  | work

variable {σ γ : Type} [Json.Decode γ] (sink : Sink σ) (prepare : Preparation γ)

/-- Go on by an event; tells the envelopes that were read while serving. -/
def step (plugin : Plugin σ γ) : Event → List Envelope × Plugin σ γ
  | .arrival arrival => ([], plugin.mapSession (·.arrive arrival))
  | .endOfInput => ([], plugin.mapSession Session.endInput)
  | .time now => ([], plugin.mapSession (·.setTime now))
  | .work => plugin.work sink prepare

/-- Go on by events in order. -/
def run : List Event → Plugin σ γ → List Envelope × Plugin σ γ
  | [], plugin => ([], plugin)
  | event :: rest, plugin =>
    let (envelopes, plugin) := plugin.step sink prepare event
    let (more, plugin) := run rest plugin
    (envelopes ++ more, plugin)

/-- Time that passes is made of events as well. -/
theorem elapseUntil_eq_run (time stop : Nat) (plugin : Plugin σ γ) :
    ∃ events, elapseUntil (fun plugin => (plugin.work sink prepare).2) time stop plugin =
      (plugin.run sink prepare events).2 := by
  fun_induction elapseUntil (fun plugin => (plugin.work sink prepare).2) time stop plugin with
  | case1 time plugin deadline next order ih =>
    obtain ⟨events, eq⟩ := ih
    exact ⟨.time deadline :: .work :: events, eq⟩
  | case2 time plugin none => exact ⟨[.time stop], rfl⟩

/-- The first part of the work: shake hands and prepare the routes, unless that is over. -/
def shakeHands (plugin : Plugin σ γ) : Plugin σ γ :=
  if plugin.handshake.isSome then plugin
  else
    match plugin.session.shakeHands γ sink with
    | (.waiting, session) => { plugin with session }
    | (.refused fault, session) =>
      { plugin with session := session.abandon, handshake := some (.error fault) }
    | (.accepted config, session) =>
      let plugin := { plugin with session, handshake := some (.ok config) }
      match prepare config session.routes with
      | .ok routes => { plugin with session := { session with routes } }
      | .error fault => { plugin with ending := some (.error fault) }

/-- Work shakes hands first, and then it serves, if that is over. -/
theorem work_eq (plugin : Plugin σ γ) :
    plugin.work sink prepare =
      match (plugin.shakeHands sink prepare).handshake with
      | some _ => (plugin.shakeHands sink prepare).serve sink
      | none => ([], plugin.shakeHands sink prepare) := by
  unfold work shakeHands
  cases shaken : plugin.handshake with
  | some result => simp only [Option.isSome_some, if_true, shaken]
  | none =>
    simp only [Option.isSome_none, Bool.false_eq_true, if_false]
    cases plugin.session.shakeHands γ sink with
    | mk handshake session =>
      cases handshake with
      | waiting => rfl
      | refused fault => simp only [serve, isOver, isRefused, Bool.true_or, if_true]
      | accepted config =>
        dsimp only
        cases prepare config session.routes with
        | ok routes => rfl
        | error fault => simp only [serve, isOver, Option.isSome_some, Bool.or_true, if_true]

/-- The requests that shaking hands deals with. -/
def deedsOfShakeHands (plugin : Plugin σ γ) : List Deed :=
  let greeting? := if plugin.handshake.isSome then none else plugin.session.greeting?
  greeting?.toList.map .greeted

/-- The requests that serving deals with. -/
def deedsOfServe (plugin : Plugin σ γ) : List Deed :=
  if plugin.isOver then [] else (Session.settledByServing sink plugin.session).map .settled

/-- The requests that work deals with. -/
def deedsOfWork (plugin : Plugin σ γ) : List Deed :=
  let shaken := plugin.shakeHands sink prepare
  plugin.deedsOfShakeHands ++ match shaken.handshake with
    | some _ => shaken.deedsOfServe sink
    | none => []

def deedsOfStep (plugin : Plugin σ γ) : Event → List Deed
  | .work => plugin.deedsOfWork sink prepare
  | _ => []

/-- The requests that are dealt with by events, in order. -/
def deeds : List Event → Plugin σ γ → List Deed
  | [], _ => []
  | event :: rest, plugin =>
    plugin.deedsOfStep sink prepare event ++ deeds rest (plugin.step sink prepare event).2

/-- The queue of outgoing envelopes takes what serving puts there, and no response is left in it. -/
structure Steady (plugin : Plugin σ γ) : Prop where
  isOpen : plugin.isOver = false → plugin.session.exchange.outbox.isOpen = true
  quiet : responses plugin.session.exchange.outbox.queue = []

/--
What has been read is dealt with or still undone, and the responses that deeds lead to have been
written.
-/
structure Accounted (written : σ → Bytes) (before : Plugin σ γ) (envelopes : List Envelope)
    (deeds : List Deed) (after : Plugin σ γ) : Prop where
  undone : before.session.undone ++ requests envelopes =
    (deeds.filterMap Deed.settled?).map Settled.request ++ after.session.undone
  sent : ∃ sent, written after.session.sink =
      written before.session.sink ++ sent.flatMap (Frame.trace before.session.outlet.limit) ∧
    responses sent = deeds.filterMap (Deed.response? γ before.session.replyUnroutable)
  outlet : after.session.outlet = before.session.outlet
  replyUnroutable : after.session.replyUnroutable = before.session.replyUnroutable
  steady : after.Steady

variable {sink} {written : σ → Bytes} {before between after plugin : Plugin σ γ}
  {envelopes more : List Envelope} {deeds others : List Deed}

theorem Accounted.of_unchanged (sink : after.session.sink = before.session.sink)
    (undone : after.session.undone = before.session.undone)
    (outlet : after.session.outlet = before.session.outlet)
    (replyUnroutable : after.session.replyUnroutable = before.session.replyUnroutable)
    (steady : after.Steady) : Accounted written before [] [] after := by
  refine ⟨?_, ⟨[], ?_, rfl⟩, outlet, replyUnroutable, steady⟩
  · rw [undone]
    exact List.append_nil _
  · rw [sink]
    exact (List.append_nil _).symm

theorem Accounted.trans (first : Accounted written before envelopes deeds between)
    (second : Accounted written between more others after) :
    Accounted written before (envelopes ++ more) (deeds ++ others) after where
  undone := by
    rw [Session.requests_append, ← List.append_assoc, first.undone, List.append_assoc,
      second.undone, List.filterMap_append, List.map_append, List.append_assoc]
  sent := by
    obtain ⟨sent, wrote, leads⟩ := first.sent
    obtain ⟨sent', wrote', leads'⟩ := second.sent
    refine ⟨sent ++ sent', ?_, ?_⟩
    · rw [wrote', wrote, first.outlet, List.flatMap_append, List.append_assoc]
    · rw [responses_append, leads, leads', first.replyUnroutable, List.filterMap_append]
  outlet := second.outlet.trans first.outlet
  replyUnroutable := second.replyUnroutable.trans first.replyUnroutable
  steady := second.steady

/-- What shaking hands has written is accounted for, whatever became of the plugin. -/
theorem Accounted.of_greeted {greeting : Option Request} {session : Session σ}
    (greeted : Session.Greeted γ written before.session greeting session)
    (sink : after.session.sink = session.sink) (undone : after.session.undone = session.undone)
    (outlet : after.session.outlet = session.outlet)
    (replyUnroutable : after.session.replyUnroutable = session.replyUnroutable)
    (steady : after.Steady) :
    Accounted written before [] (greeting.toList.map .greeted) after := by
  refine ⟨?_, ⟨greeting.toList.map fun request => .response (.ofGreeting γ request), ?_, ?_⟩,
    outlet.trans greeted.outlet, replyUnroutable.trans greeted.replyUnroutable, steady⟩
  · rw [undone, greeted.undone]
    cases greeting <;> exact List.append_nil _
  · rw [sink, greeted.written, List.flatMap_map]
  · cases greeting <;> rfl

theorem shakeHands_accounted (accepts : sink.Accepts written) (steady : plugin.Steady) :
    Accounted written plugin [] plugin.deedsOfShakeHands (plugin.shakeHands sink prepare) := by
  have greeted := Session.shakeHands_greeted (γ := γ) accepts plugin.session
  unfold shakeHands deedsOfShakeHands
  cases shaken : plugin.handshake with
  | some result => exact .of_unchanged rfl rfl rfl rfl steady
  | none =>
    simp only [Option.isSome_none, Bool.false_eq_true, if_false]
    cases eq : plugin.session.shakeHands γ sink with
    | mk handshake session =>
      rw [eq] at greeted
      -- shaking hands does not touch the queue, so that what it needs of it is as before
      have quiet : responses session.exchange.outbox.queue = [] := by
        rw [greeted.outbox]
        exact steady.quiet
      have isOpen : plugin.ending = none → session.exchange.outbox.isOpen = true := by
        intro none
        rw [greeted.outbox]
        exact steady.isOpen (by simp [isOver, isRefused, shaken, none])
      cases handshake with
      | waiting =>
        refine .of_greeted greeted rfl rfl rfl rfl ⟨?_, quiet⟩
        intro goesOn
        exact isOpen (by simpa [isOver, isRefused, shaken] using goesOn)
      | refused fault =>
        exact .of_greeted greeted rfl rfl rfl rfl ⟨by simp [isOver, isRefused], rfl⟩
      | accepted config =>
        dsimp only
        split
        · refine .of_greeted greeted rfl rfl rfl rfl ⟨?_, quiet⟩
          intro goesOn
          exact isOpen (by simpa [isOver, isRefused] using goesOn)
        · exact .of_greeted greeted rfl rfl rfl rfl ⟨by simp [isOver], quiet⟩

theorem serve_accounted (accepts : sink.Accepts written) (steady : plugin.Steady) :
    Accounted written plugin (plugin.serve sink).1 (plugin.deedsOfServe sink)
      (plugin.serve sink).2 := by
  unfold serve deedsOfServe
  cases ended : plugin.isOver with
  | true => exact .of_unchanged rfl rfl rfl rfl steady
  | false =>
    obtain ⟨served, goesOn⟩ := Session.serve_served accepts (steady.isOpen ended)
    obtain ⟨sent, wrote, leads⟩ := served.sent
    rw [steady.quiet, List.nil_append] at leads
    simp only [Bool.false_eq_true, if_false]
    refine ⟨?_, ⟨sent, wrote, ?_⟩, served.outlet, served.replyUnroutable, ⟨?_, ?_⟩⟩
    · rw [Deed.filterMap_settled?]
      exact served.undone
    · rw [Deed.filterMap_response?]
      exact leads
    · intro isOver
      refine goesOn ?_
      simpa [Plugin.isOver] using (Bool.or_eq_false_iff.1 isOver).2
    · rw [served.outbox]
      rfl

theorem work_accounted (accepts : sink.Accepts written) (steady : plugin.Steady) :
    Accounted written plugin (plugin.work sink prepare).1 (plugin.deedsOfWork sink prepare)
      (plugin.work sink prepare).2 := by
  have shaken := shakeHands_accounted prepare accepts steady
  rw [work_eq]
  unfold deedsOfWork
  dsimp only
  split
  · exact shaken.trans (serve_accounted accepts shaken.steady)
  · rw [List.append_nil]
    exact shaken

theorem step_accounted (accepts : sink.Accepts written) (steady : plugin.Steady) (event : Event) :
    Accounted written plugin (plugin.step sink prepare event).1
      (plugin.deedsOfStep sink prepare event) (plugin.step sink prepare event).2 := by
  cases event with
  | work => exact work_accounted prepare accepts steady
  | arrival arrival => exact .of_unchanged rfl rfl rfl rfl ⟨steady.isOpen, steady.quiet⟩
  | endOfInput => exact .of_unchanged rfl rfl rfl rfl ⟨steady.isOpen, steady.quiet⟩
  | time now => exact .of_unchanged rfl rfl rfl rfl ⟨steady.isOpen, steady.quiet⟩

/-- Whatever happens to a plugin, what it has read and written is accounted for. -/
theorem run_accounted (accepts : sink.Accepts written) (steady : plugin.Steady)
    (events : List Event) :
    Accounted written plugin (plugin.run sink prepare events).1
      (plugin.deeds sink prepare events) (plugin.run sink prepare events).2 := by
  induction events generalizing plugin with
  | nil => exact .of_unchanged rfl rfl rfl rfl steady
  | cons event events ih =>
    have stepped := step_accounted prepare accepts steady event
    exact stepped.trans (ih stepped.steady)

/-- A plugin with these settings before anything has happened to it; the rest is its author's. -/
def new (settings : Settings) (routes : Routes) (forwarder : Option (Log.Forwarder Unit))
    (correlations : Correlation.Source) (state : σ) : Plugin σ γ :=
  let session := Session.ofSettings settings state
  { session := { session with
      routes, surroundings := { session.surroundings with forwarder, correlations } } }

/--
Whatever happens to a plugin whose settings were accepted, as long as its sink takes everything:
each request that it has read while serving is dealt with or still undone, and what it has written
are frames. Among them each request that is to be answered has one, with its correlation and its
channel, if the body of the response is within the limit, and none otherwise; there is no other
response.
-/
theorem run_writes_responses {text : String} {settings : Settings}
    (accepted : Settings.ofText text = .ok settings) (accepts : sink.Accepts written)
    (routes : Routes) (forwarder : Option (Log.Forwarder Unit))
    (correlations : Correlation.Source) (state : σ) (events : List Event) :
    let plugin : Plugin σ γ := new settings routes forwarder correlations state
    let (envelopes, last) := plugin.run sink prepare events
    let deeds := plugin.deeds sink prepare events
    let replyUnroutable := settings.handling.replyUnroutable
    let isWithin := Frame.isWithin settings.transport.maxFrame
    requests envelopes =
      (deeds.filterMap Deed.settled?).map Settled.request ++ last.session.undone ∧
    (∀ deed ∈ deeds,
      (deed.response? γ replyUnroutable).isSome = deed.isAnswered replyUnroutable ∧
      ∀ response, deed.response? γ replyUnroutable = some response →
        response.correlation = deed.request.correlation ∧
          response.channel = deed.request.channel) ∧
    ∃ sent, written last.session.sink = written state ++ sent.flatMap Frame.ofEnvelope ∧
      (∀ envelope ∈ sent, isWithin envelope) ∧
      responses sent = (deeds.filterMap (Deed.response? γ replyUnroutable)).filter
        fun response => isWithin (.response response) := by
  intro plugin
  have steady : plugin.Steady := ⟨fun _ => rfl, rfl⟩
  have accounted := run_accounted prepare accepts steady events
  obtain ⟨sent, wrote, leads⟩ := accounted.sent
  have le : settings.transport.maxFrame ≤ Frame.maxLength :=
    (Settings.sound_of_ofText accepted).maxFrame.2
  have limit : plugin.session.outlet.limit = some settings.transport.maxFrame := rfl
  rw [limit, Frame.flatMap_trace le] at wrote
  refine ⟨accounted.undone, fun deed _ => ⟨deed.isSome_response?, fun _ => Deed.of_response?⟩,
    sent.filter (Frame.isWithin settings.transport.maxFrame), wrote, ?_, ?_⟩
  · intro envelope mem
    exact (List.mem_filter.1 mem).2
  · rw [responses_filter, leads]
    rfl

theorem run_writes_responses_greeting :
    let settings : Settings := { transport := { maxFrame := 1024 } }
    let plugin : Plugin Bytes.Queue Json.Value := new settings {} none {} .empty
    let prepare : Preparation Json.Value := fun _ routes => .ok routes
    let greeting : Envelope := .request {
      path := "/initialize", correlation := "1", path_ne := by decide
      payload := some (.object [("config", .null)]) }
    let events := [.arrival (.data (Frame.ofEnvelope greeting)), .work]
    Settings.ofText "version: 1\ntransport:\n  max_frame_bytes: 1024\n" = .ok settings ∧
    ∃ sent, (plugin.run Sink.memory prepare events).2.session.sink.toList =
        sent.flatMap Frame.ofEnvelope ∧
      (responses sent).map (·.correlation) = ["1"] := by
  intro settings plugin prepare greeting events
  have accepted : Settings.ofText "version: 1\ntransport:\n  max_frame_bytes: 1024\n" =
      .ok settings := by
    decide +kernel
  have due : (((plugin.deeds Sink.memory prepare events).filterMap
      (Deed.response? Json.Value false)).filter
        fun response => Frame.isWithin 1024 (.response response)).map (·.correlation) = ["1"] := by
    decide +kernel
  obtain ⟨-, -, sent, wrote, -, leads⟩ :=
    run_writes_responses prepare accepted Sink.memory_accepts {} none {} .empty events
  refine ⟨accepted, sent, wrote, ?_⟩
  rw [leads]
  exact due

/--
A response whose body is over the limit is not written, so that not all requests that are answered
have their frames.
-/
theorem response_over_limit_unwritten :
    let settings : Settings := { transport := { maxFrame := 1024 } }
    let plugin : Plugin Bytes.Queue Json.Value := new settings {} none {} .empty
    let long : Handler := fun _ _ => .settle (.reply (.array (List.replicate 256 .null)))
    let prepare : Preparation Json.Value := fun _ routes =>
      (routes.register "/long" long).map fun (_, routes) => routes
    let greeting : Envelope := .request {
      path := "/initialize", correlation := "1", path_ne := by decide
      payload := some (.object [("config", .null)]) }
    let request : Envelope := .request { path := "/long", correlation := "2", path_ne := by decide }
    let events :=
      [.arrival (.data (Frame.ofEnvelope greeting ++ Frame.ofEnvelope request)), .work]
    let written := (plugin.run Sink.memory prepare events).2.session.sink.toList
    let due := (plugin.deeds Sink.memory prepare events).filterMap (Deed.response? Json.Value false)
    Settings.ofText "version: 1\ntransport:\n  max_frame_bytes: 1024\n" = .ok settings ∧
    due.map (·.correlation) = ["1", "2"] ∧
    written = Frame.ofEnvelope (.response { correlation := "1" }) ∧
    ¬ ∃ sent, written = sent.flatMap Frame.ofEnvelope ∧ responses sent = due := by
  intro settings plugin long prepare greeting request events written due
  have only : written = Frame.ofEnvelope (.response { correlation := "1" }) := by
    decide +kernel
  have ended : due.any (fun response => !Frame.isWithin 1024 (.response response)) = true := by
    decide +kernel
  refine ⟨by decide +kernel, by decide +kernel, only, ?_⟩
  -- the frame of the long response alone would be longer than all that was written
  rintro ⟨sent, wrote, leads⟩
  obtain ⟨response, mem, long⟩ := List.any_eq_true.1 ended
  rw [← leads] at mem
  have le := Frame.length_le_of_mem (mem_of_mem_responses mem)
  have short : written.length ≤ 1024 := by
    rw [only]
    decide +kernel
  rw [← wrote] at le
  simp only [Frame.isWithin, Bool.not_eq_true', decide_eq_false_iff_not] at long
  omega

end Plugin
end Hostlink
