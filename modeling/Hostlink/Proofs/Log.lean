import Mathlib.Data.List.Basic
import Hostlink.Dispatch
import Hostlink.Proofs.Severity
/-!
What is forwarded of log events. The place that was offered first receives one request for each
later event that is severe enough, in the order of the events, unless the target of the event begins
with the name of a part of the link. The text of an event is its message and its other fields with
single spaces between them.
-/

namespace Hostlink

namespace Log

namespace Event

variable {event : Event}

/-- What the text of an event is made of: its message, unless it is empty, and its other fields. -/
def parts (event : Event) : List String :=
  (if event.message = "" then [] else [event.message]) ++
    (event.fields.filter (·.1 != messageField)).map fun field => field.1 ++ "=" ++ field.2.words

theorem intercalate_ne_empty {separator first : String} (ne : first ≠ "") (rest : List String) :
    separator.intercalate (first :: rest) ≠ "" := by
  cases rest with
  | nil => rwa [String.intercalate_singleton]
  | cons next rest =>
    rw [String.intercalate_cons_cons, String.append_assoc]
    exact fun empty => ne (String.append_eq_empty_iff.1 empty).1

theorem text_eq (event : Event) : event.text = " ".intercalate event.parts := by
  unfold text parts details
  generalize event.fields.filter (·.1 != messageField) = fields
  cases fields with
  | nil =>
    by_cases empty : event.message = ""
    · simp [empty]
    · simp [empty]
  | cons field rest =>
    have shown : field.1 ++ "=" ++ field.2.words ≠ "" := by simp
    rw [List.map_cons, String.isEmpty_eq_false_iff.2 (intercalate_ne_empty shown _)]
    by_cases empty : event.message = ""
    · simp [empty]
    · rw [String.isEmpty_eq_false_iff.2 empty, if_neg empty, List.singleton_append,
        String.intercalate_cons_cons]
      rfl

/-- The message is the value of the last field that is one. -/
theorem message_of_last {before behind : List (String × FieldValue)} {value : FieldValue}
    (fields : event.fields = before ++ (messageField, value) :: behind)
    (last : ∀ field ∈ behind, field.1 ≠ messageField) : event.message = value.words := by
  unfold message
  rw [List.lookup_eq_some_iff.2]
  · rfl
  · refine ⟨behind.reverse, before.reverse, by simp [fields], ?_⟩
    intro field mem
    exact bne_iff_ne.2 (Ne.symm (last field (List.mem_reverse.1 mem)))

theorem message_of_none (none : ∀ field ∈ event.fields, field.1 ≠ messageField) :
    event.message = "" := by
  unfold message
  rw [List.lookup_eq_none_iff.2]
  · rfl
  · intro field mem
    exact bne_iff_ne.2 (Ne.symm (none field (List.mem_reverse.1 mem)))

/-- Whether a target is a part of the link, or lies within one. -/
def FromLink (target : String) : Prop :=
  ∃ own ∈ ownTargets, target = own ∨ ∃ inner, target = own ++ "::" ++ inner

theorem isOwn_iff :
    event.isOwn = true ↔ ∃ own ∈ ownTargets, ∃ rest, event.target = own ++ rest := by
  unfold isOwn
  simp only [List.any_eq_true, List.isPrefixOf_iff_prefix]
  constructor
  · rintro ⟨own, mem, rest, eq⟩
    refine ⟨own, mem, String.ofList rest, ?_⟩
    rw [← String.toList_inj, String.toList_append, String.toList_ofList, eq]
  · rintro ⟨own, mem, rest, eq⟩
    exact ⟨own, mem, rest.toList, by rw [eq, String.toList_append]⟩

/-- More is left out than comes from the link: also what only begins with the name of a part. -/
theorem isOwn_iff_fromLink :
    event.isOwn = true ↔ FromLink event.target ∨
      ∃ own ∈ ownTargets, ∃ rest, event.target = own ++ rest ∧ rest ≠ "" ∧
        ∀ inner, rest ≠ "::" ++ inner := by
  rw [isOwn_iff]
  constructor
  · rintro ⟨own, mem, rest, eq⟩
    by_cases empty : rest = ""
    · exact .inl ⟨own, mem, .inl (by rw [eq, empty, String.append_empty])⟩
    · by_cases within : ∃ inner, rest = "::" ++ inner
      · obtain ⟨inner, rfl⟩ := within
        exact .inl ⟨own, mem, .inr ⟨inner, by rw [eq, String.append_assoc]⟩⟩
      · exact .inr ⟨own, mem, rest, eq, empty, fun inner same => within ⟨inner, same⟩⟩
  · rintro (⟨own, mem, eq | ⟨inner, eq⟩⟩ | ⟨own, mem, rest, eq, -⟩)
    · exact ⟨own, mem, "", by rw [eq, String.append_empty]⟩
    · exact ⟨own, mem, "::" ++ inner, by rw [eq, String.append_assoc]⟩
    · exact ⟨own, mem, rest, eq⟩

/-- Whether an event is forwarded, at a severity. -/
def isForwarded (severity : Severity) (event : Event) : Bool :=
  event.severity.rank ≤ severity.rank && !event.isOwn

/-- The requests that carry events, with correlations that are drawn one after the other. -/
def requests : Correlation.Source → List Event → List Request
  | _, [] => []
  | source, event :: rest => event.request source.draw.1 :: requests source.draw.2 rest

end Event

variable {ω : Type}

/-- A call on a forwarder: a place is offered, or an event is logged. -/
inductive Call (ω : Type) where
  | attach (place : ω)
  | log (event : Event)

/-- The events among calls. -/
def Call.events : List (Call ω) → List Event :=
  List.filterMap fun
    | .attach _ => none
    | .log event => some event

/-- The places among calls. -/
def Call.places : List (Call ω) → List ω :=
  List.filterMap fun
    | .attach place => some place
    | .log _ => none

/-- A forwarder at work: how offers were answered, and which requests went to which place. -/
structure Forwarding (ω : Type) where
  forwarder : Forwarder ω
  correlations : Correlation.Source := {}
  answers : List Bool := []
  received : List (ω × Request) := []

namespace Forwarding

/-- What a call leads to. -/
def call (s : Forwarding ω) : Call ω → Forwarding ω
  | .attach place =>
    let (answer, forwarder) := s.forwarder.attach place
    { s with forwarder, answers := s.answers ++ [answer] }
  | .log event =>
    match s.forwarder.accepts event with
    | none => s
    | some place =>
      let (correlation, correlations) := s.correlations.draw
      { s with correlations, received := s.received ++ [(place, event.request correlation)] }

/-- What calls lead to. -/
def run (s : Forwarding ω) (calls : List (Call ω)) : Forwarding ω :=
  calls.foldl call s

variable {s : Forwarding ω} {place : ω}

theorem accepts_eq (f : Forwarder ω) (event : Event) :
    f.accepts event = if event.isForwarded f.severity then f.place else none :=
  rfl

theorem run_append (s : Forwarding ω) (calls more : List (Call ω)) :
    s.run (calls ++ more) = (s.run calls).run more :=
  List.foldl_append

/-- As long as no place was offered, events are lost. -/
theorem run_events (none : s.forwarder.place = none) (events : List Event) :
    s.run (events.map .log) = s := by
  induction events with
  | nil => rfl
  | cons event events ih =>
    have lost : s.call (.log event) = s := by
      simp only [call, accepts_eq, none, ite_self]
    rw [List.map_cons]
    show (s.call (.log event)).run _ = s
    rw [lost, ih]

/-- Once there is a place, it receives what is forwarded, and further offers are refused. -/
theorem run_attached (attached : s.forwarder.place = some place) (calls : List (Call ω)) :
    (s.run calls).answers = s.answers ++ (Call.places calls).map (fun _ => false) ∧
      (s.run calls).received = s.received ++
        (Event.requests s.correlations
          ((Call.events calls).filter (·.isForwarded s.forwarder.severity))).map (place, ·) := by
  induction calls generalizing s with
  | nil => exact ⟨(List.append_nil _).symm, (List.append_nil _).symm⟩
  | cons call calls ih =>
    show ((s.call call).run calls).answers = _ ∧ ((s.call call).run calls).received = _
    cases call with
    | attach other =>
      have refused : s.call (.attach other) = { s with answers := s.answers ++ [false] } := by
        simp only [Forwarding.call, Forwarder.attach, attached]
      rw [refused]
      obtain ⟨answers, received⟩ := ih (s := { s with answers := s.answers ++ [false] }) attached
      exact ⟨by rw [answers]; simp [Call.places], received⟩
    | log event =>
      by_cases forwarded : event.isForwarded s.forwarder.severity = true
      · -- drawing a correlation and sending go together, so that `requests` draws the same ones
        have sent : s.call (.log event) = { s with
            correlations := s.correlations.draw.2
            received := s.received ++ [(place, event.request s.correlations.draw.1)] } := by
          simp only [Forwarding.call, accepts_eq, forwarded, if_true, attached]
        rw [sent]
        obtain ⟨answers, received⟩ := ih (s := { s with
          correlations := s.correlations.draw.2
          received := s.received ++ [(place, event.request s.correlations.draw.1)] }) attached
        exact ⟨answers, by rw [received]; simp [Call.events, forwarded, Event.requests]⟩
      · have kept : s.call (.log event) = s := by
          simp only [Forwarding.call, accepts_eq, forwarded, if_false, Bool.false_eq_true]
        rw [kept]
        obtain ⟨answers, received⟩ := ih attached
        exact ⟨answers, by rw [received]; simp [Call.events, forwarded]⟩

end Forwarding

theorem name_lower (severity : Severity) :
    severity.name.toList.map Char.toLower = severity.name.toList := by
  cases severity <;> decide

/--
Of any calls, those before the first offer of a place lead to nothing. The first offer is accepted
and all others are refused. Its place receives one request, in order, for each later event that is
severe enough and whose target does not begin with the name of a part of the link. Such a target is
the part, or lies within it, or only goes on in another way behind its name. The request carries the
severity in lower case, the text and the target. The text is the last message, unless it is empty,
and the other fields, with single spaces between them.
-/
theorem forwards_to_first_place (severity : Severity) (correlations : Correlation.Source) :
    let start : Forwarding ω := { forwarder := { severity }, correlations }
    (∀ early : List Event, start.run (early.map .log) = start) ∧
    (∀ (early : List Event) (place : ω) (calls : List (Call ω)),
      let ended := start.run (early.map .log ++ .attach place :: calls)
      ended.answers = true :: (Call.places calls).map (fun _ => false) ∧
      ended.received = (Event.requests correlations
        ((Call.events calls).filter (·.isForwarded severity))).map (place, ·)) ∧
    ∀ event : Event,
      (event.isForwarded severity = true ↔ event.severity.rank ≤ severity.rank ∧
        ¬ ∃ own ∈ ownTargets, ∃ rest, event.target = own ++ rest) ∧
      (event.isOwn = true ↔ Event.FromLink event.target ∨
        ∃ own ∈ ownTargets, ∃ rest, event.target = own ++ rest ∧ rest ≠ "" ∧
          ∀ inner, rest ≠ "::" ++ inner) ∧
      (∀ correlation, (event.request correlation).path = "/log.create" ∧
        (event.request correlation).payload = some (.object [
          ("level", .string event.severity.name), ("message", .string event.text),
          ("target", .string event.target)])) ∧
      event.severity.name.toList.map Char.toLower = event.severity.name.toList ∧
      Severity.ofText? event.severity.name = some event.severity ∧
      event.text = " ".intercalate event.parts ∧
      (∀ before value behind, event.fields = before ++ (messageField, value) :: behind →
        (∀ field ∈ behind, field.1 ≠ messageField) → event.message = value.words) ∧
      ((∀ field ∈ event.fields, field.1 ≠ messageField) → event.message = "") := by
  intro start
  refine ⟨Forwarding.run_events rfl, ?_, ?_⟩
  · intro early place calls ended
    have first : ended = ({ start with
        forwarder := { severity, place := some place }, answers := [true] } :
        Forwarding ω).run calls := by
      show start.run _ = _
      rw [Forwarding.run_append, Forwarding.run_events rfl]
      rfl
    obtain ⟨answers, received⟩ := Forwarding.run_attached (s := { start with
      forwarder := { severity, place := some place }, answers := [true] }) rfl calls
    rw [first]
    exact ⟨answers, received⟩
  · intro event
    refine ⟨?_, Event.isOwn_iff_fromLink, fun _ => ⟨rfl, rfl⟩, name_lower _,
      Severity.ofText?_eq_some_iff.2 (.name rfl), Event.text_eq event,
      fun _ _ _ => Event.message_of_last, Event.message_of_none⟩
    unfold Event.isForwarded
    rw [← Event.isOwn_iff, Bool.and_eq_true, decide_eq_true_eq, Bool.not_eq_true',
      Bool.not_eq_true]

/-- An event of another program is lost since its target begins with the name of a part. -/
theorem namesake_not_forwarded :
    let event : Event :=
      { severity := .error, target := "plugwire_core_ext", fields := [("message", .text "m")] }
    ¬ Event.FromLink event.target ∧ event.severity.rank ≤ Severity.info.rank ∧
      (Forwarding.run { forwarder := { severity := .info } }
        [.attach 0, .log event]).received = ([] : List (Nat × Request)) := by
  intro event
  refine ⟨?_, by decide, by decide⟩
  rintro ⟨own, mem, same⟩
  have named : own = "plugwire_core" ∨ own = "plugwire_plugin" := by
    simpa only [ownTargets, List.mem_cons, List.not_mem_nil, or_false] using mem
  obtain same | ⟨inner, same⟩ := same
  · obtain rfl | rfl := named <;> exact absurd same (by decide)
  · have same := congrArg String.toList same
    obtain rfl | rfl := named <;> simp [event] at same

end Log

/-- What a plugin logs goes to its own outbox, as a forwarder at work tells. -/
theorem Surroundings.log_eq_call {f : Log.Forwarder Unit} {s : Surroundings}
    (uses : s.forwarder = some f) (event : Log.Event) :
    let after := Log.Forwarding.call { forwarder := f, correlations := s.correlations } (.log event)
    (s.log event).correlations = after.correlations ∧
      (s.log event).exchange.outbox = after.received.foldl
        (fun outbox sent => outbox.offer (.request sent.2)) s.exchange.outbox := by
  unfold log
  simp only [uses, Option.bind_some, Log.Forwarding.call]
  cases f.accepts event <;> exact ⟨rfl, rfl⟩

end Hostlink
