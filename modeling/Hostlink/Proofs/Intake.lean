import Hostlink.Intake
import Hostlink.Proofs.Frame.RoundTrip
/-!
The envelopes that the incoming side gives are those of the stream, as long as bytes arrive and
nothing fails: it does not matter how the bytes are cut into arrivals and how many are read at once.
-/

namespace Hostlink

open Hostlink.Frame (parse isTooLarge)

namespace Source

/-- All bytes that have arrived. -/
def bytes (source : Source) : Bytes :=
  source.arrivals.flatMap fun
    | .data bytes => bytes
    | .failure _ => []

/-- Only bytes have arrived, some at a time. -/
def Flows (source : Source) : Prop :=
  ∀ arrival ∈ source.arrivals, ∃ b bytes, arrival = .data (b :: bytes)

/-- What reading gives where bytes flow. -/
inductive Gives (source : Source) : Option (Except String Bytes) → Source → Prop where
  | nothing (empty : source.arrivals = []) (goesOn : source.isEnded = false) :
      Gives source none source
  | ended (empty : source.arrivals = []) (ends : source.isEnded = true) :
      Gives source (some (.ok [])) source
  | bytes {b : UInt8} {bytes : Bytes} {after : Source}
      (split : source.bytes = b :: bytes ++ after.bytes) (flows : after.Flows)
      (isEnded : after.isEnded = source.isEnded) : Gives source (some (.ok (b :: bytes))) after

theorem read_gives {source : Source} (flows : source.Flows) (limit : Nat) :
    Gives source (source.read limit).1 (source.read limit).2 := by
  obtain ⟨arrivals, isEnded⟩ := source
  cases arrivals with
  | nil =>
    cases isEnded with
    | false => exact .nothing rfl rfl
    | true => exact .ended rfl rfl
  | cons arrival rest =>
    obtain ⟨b, bytes, rfl⟩ := flows arrival (by simp)
    have flows' : ∀ arrival ∈ rest, ∃ b bytes, arrival = .data (b :: bytes) :=
      fun arrival mem => flows arrival (by simp [mem])
    cases later : (b :: bytes).drop (max limit 1) with
    | nil =>
      simp only [read, later]
      exact .bytes rfl flows' rfl
    | cons c tail =>
      -- at least one byte is taken, so that the first one is among them
      obtain ⟨n, one⟩ : ∃ n, max limit 1 = n + 1 := ⟨max limit 1 - 1, by omega⟩
      rw [one] at later
      simp only [read, one, later, List.take_succ_cons]
      refine .bytes ?_ ?_ rfl
      · have whole := List.take_append_drop (n + 1) (b :: bytes)
        rw [later] at whole
        simp only [Source.bytes, List.flatMap_cons]
        rw [← whole, List.take_succ_cons, List.append_assoc]
      · intro arrival mem
        cases mem with
        | head => exact ⟨c, tail, rfl⟩
        | tail _ mem => exact flows' arrival mem

end Source

namespace Metrics

/-- Count what became of a frame. A header over the limit is no frame. -/
def countItem (m : Metrics) : Except Fault Envelope → Metrics
  | .ok envelope => m.countIn envelope
  | .error fault => if fault.recoverable then m.countMalformed else m

/-- Count what became of the frames of a stream. -/
def tally (items : List (Except Fault Envelope)) (m : Metrics) : Metrics :=
  items.foldl countItem m

theorem tally_append (items more : List (Except Fault Envelope)) (m : Metrics) :
    tally (items ++ more) m = tally more (tally items m) :=
  List.foldl_append

theorem tally_malformed {fault : Fault} (recoverable : fault.recoverable = true)
    (items : List (Except Fault Envelope)) (m : Metrics) :
    tally (.error fault :: items) m = tally items m.countMalformed := by
  unfold tally
  rw [List.foldl_cons, countItem, if_pos recoverable]

end Metrics

namespace Intake

open Metrics (tally tally_append tally_malformed)

variable {intake after last : Intake} {items more : List (Except Fault Envelope)}

/-- What becomes of the rest of the stream, if these bytes follow those that have arrived. -/
def left (intake : Intake) (later : Bytes) : List (Except Fault Envelope) :=
  parse decode intake.reader.limit (intake.reader.pending ++ (intake.source.bytes ++ later))

/-- Bytes flow into a reader that keeps its headers within its limit. -/
structure Ready (intake : Intake) : Prop where
  sound : intake.reader.Sound
  flows : intake.source.Flows

/-- These items of the stream have been passed. -/
structure Passed (intake : Intake) (items : List (Except Fault Envelope)) (after : Intake) :
    Prop where
  left : ∀ later, intake.left later = items ++ after.left later
  ready : after.Ready
  limit : after.reader.limit = intake.reader.limit
  isEnded : after.source.isEnded = intake.source.isEnded

theorem Passed.refl (ready : intake.Ready) : Passed intake [] intake :=
  ⟨fun _ => rfl, ready, rfl, rfl⟩

theorem Passed.trans (first : Passed intake items after) (second : Passed after more last) :
    Passed intake (items ++ more) last where
  left later := by rw [first.left, second.left, List.append_assoc]
  ready := second.ready
  limit := second.limit.trans first.limit
  isEnded := second.isEnded.trans first.isEnded

/-- Why there are no more envelopes behind these items. -/
inductive Stops (intake : Intake) (items : List (Except Fault Envelope)) :
    Reading → Intake → Prop where
  | blocked {after : Intake} (passed : Passed intake items after) (none : after.left [] = [])
      (empty : after.source.arrivals = []) (goesOn : intake.source.isEnded = false) :
      Stops intake items .blocked after
  | ended {after : Intake} (passed : Passed intake items after) (none : after.left [] = [])
      (ends : intake.source.isEnded = true) : Stops intake items .ended after
  | failed {after : Intake} {fault : Fault}
      (final : isTooLarge (.error fault : Except Fault Envelope))
      (all : ∀ later, intake.left later = items ++ [.error fault]) :
      Stops intake items (.failed fault) after

theorem Passed.stops {reading : Reading} (passed : Passed intake items after)
    (stops : Stops after more reading last) : Stops intake (items ++ more) reading last := by
  cases stops with
  | blocked passed' none empty goesOn =>
    exact .blocked (passed.trans passed') none empty (passed.isEnded ▸ goesOn)
  | ended passed' none ends => exact .ended (passed.trans passed') none (passed.isEnded ▸ ends)
  | failed final all =>
    refine .failed final ?_
    intro later
    rw [passed.left, all, List.append_assoc]

theorem passed_frame (ready : intake.Ready) {outcome : Except Fault Envelope}
    {reader : Frame.Reader} (h : intake.reader.next decode = (some outcome, reader))
    (goesOn : Frame.Reader.goesOn (some outcome) = true) :
    Passed intake [outcome] { intake with reader } := by
  have step := Frame.Reader.next_step decode ready.sound
  have sound := Frame.Reader.next_sound decode ready.sound
  have limit := Frame.Reader.next_limit decode intake.reader
  rw [h] at step sound limit
  refine ⟨?_, ⟨sound, ready.flows⟩, limit, rfl⟩
  intro later
  unfold left
  cases step with
  | ended => contradiction
  | tooLarge => contradiction
  | frame _ _ fits split =>
    rw [split, List.append_assoc, Frame.parse_frame _ fits, limit]
    rfl

theorem left_of_final (ready : intake.Ready) {fault : Fault} {reader : Frame.Reader}
    (h : intake.reader.next decode = (some (.error fault), reader))
    (final : Frame.Reader.goesOn (some (.error fault : Except Fault Envelope)) = false) :
    isTooLarge (.error fault : Except Fault Envelope) ∧
      ∀ later, intake.left later = [.error fault] := by
  have step := Frame.Reader.next_step decode ready.sound
  rw [h] at step
  generalize outcome_eq : some (Except.error fault : Except Fault Envelope) = outcome at step
  unfold left
  cases step with
  | stalled => contradiction
  | ended ends =>
    cases outcome_eq
    refine ⟨rfl, ?_⟩
    intro later
    obtain ⟨exceeds, le⟩ := ready.sound.of_oversized ends
    rw [Frame.Reader.pending_of_oversized ends, Frame.parse_tooLarge _ exceeds le]
  | tooLarge live ends split exceeds le =>
    cases outcome_eq
    refine ⟨rfl, ?_⟩
    intro later
    rw [split, List.append_assoc, Frame.parse_tooLarge _ exceeds le]
  | @frame _ body _ _ _ _ =>
    have recovers := Wire.recovers_decode (α := Envelope) body
    have eq : Wire.decode body = .error fault := (Option.some.inj outcome_eq).symm
    rw [eq, final] at recovers
    contradiction

theorem passed_stalled (ready : intake.Ready) {reader : Frame.Reader}
    (h : intake.reader.next decode = (none, reader)) :
    Passed intake [] { intake with reader } ∧ reader.oversized = none ∧
      parse decode reader.limit reader.pending = [] := by
  have step := Frame.Reader.next_step decode ready.sound
  have sound := Frame.Reader.next_sound decode ready.sound
  have limit := Frame.Reader.next_limit decode intake.reader
  rw [h] at step sound limit
  cases step with
  | stalled live live' same short =>
    refine ⟨⟨?_, ⟨sound, ready.flows⟩, limit, rfl⟩, live',
      Frame.Reader.parse_pending_of_short sound live' short⟩
    intro later
    unfold left
    rw [← limit]
    exact congrArg (fun pending => parse decode reader.limit (pending ++ _)) same.symm

theorem passed_read (ready : intake.Ready) (live : intake.reader.oversized = none) {chunk : Bytes}
    {source : Source} (split : intake.source.bytes = chunk ++ source.bytes) (flows : source.Flows)
    (isEnded : source.isEnded = intake.source.isEnded) :
    Passed intake [] { intake with reader := intake.reader.push chunk, source } := by
  refine ⟨?_, ⟨ready.sound.push chunk, flows⟩, rfl, isEnded⟩
  intro later
  unfold left
  rw [split, Frame.Reader.pending_push live]
  simp only [List.append_assoc]
  rfl

theorem left_nil_of_empty {reader : Frame.Reader} (empty : intake.source.arrivals = [])
    (none : parse decode reader.limit reader.pending = []) :
    left { intake with reader } [] = [] := by
  have bytes : intake.source.bytes = [] := by
    unfold Source.bytes
    rw [empty]
    rfl
  unfold left
  rw [bytes, List.append_nil, List.append_nil]
  exact none

/-- Items without an envelope, none of which ends the stream. -/
def Silent (items : List (Except Fault Envelope)) : Prop :=
  ∀ item ∈ items, item.toOption = none ∧ isTooLarge item = false

theorem silent_nil : Silent [] :=
  List.forall_mem_nil _

theorem next_spec (ready : intake.Ready) (m : Metrics) :
    ∃ skipped, Silent skipped ∧
      ((∃ envelope after, Passed intake (skipped ++ [.ok envelope]) after ∧
          intake.next m = (.envelope envelope, after, tally (skipped ++ [.ok envelope]) m)) ∨
        (Stops intake skipped (intake.next m).1 (intake.next m).2.1 ∧
          (intake.next m).2.2 = tally skipped m)) := by
  fun_induction Intake.next m intake with
  | case1 m intake envelope reader h =>
    exact ⟨[], silent_nil, .inl ⟨envelope, _, passed_frame ready h rfl, rfl⟩⟩
  | case2 m intake fault reader h recoverable ih =>
    -- a frame that is no envelope is passed over in silence
    have passed := passed_frame ready h recoverable
    obtain ⟨skipped, silent, next⟩ := ih passed.ready
    refine ⟨.error fault :: skipped, ?_, ?_⟩
    · intro item mem
      cases mem with
      | head => exact ⟨rfl, Frame.isTooLarge_of_goesOn recoverable⟩
      | tail _ mem => exact silent item mem
    · cases next with
      | inl next =>
        obtain ⟨envelope, after, more, eq⟩ := next
        rw [← tally_malformed recoverable] at eq
        exact .inl ⟨envelope, after, passed.trans more, eq⟩
      | inr stops =>
        rw [← tally_malformed recoverable] at stops
        exact .inr ⟨passed.stops stops.1, stops.2⟩
  | case3 m intake fault reader h final =>
    obtain ⟨tooLarge, all⟩ := left_of_final ready h (by simpa [Frame.Reader.goesOn] using final)
    exact ⟨[], silent_nil, .inr ⟨.failed tooLarge all, rfl⟩⟩
  | case4 m intake reader h source eq =>
    obtain ⟨passed, live, none⟩ := passed_stalled ready h
    have gives := Source.read_gives ready.flows intake.chunk
    rw [eq] at gives
    cases gives with
    | nothing empty goesOn =>
      have none' := left_nil_of_empty empty none
      exact ⟨[], silent_nil, .inr ⟨.blocked passed none' empty goesOn, rfl⟩⟩
  | case5 m intake reader h reason source eq =>
    have gives := Source.read_gives ready.flows intake.chunk
    rw [eq] at gives
    cases gives
  | case6 m intake reader h source eq =>
    obtain ⟨passed, live, none⟩ := passed_stalled ready h
    have gives := Source.read_gives ready.flows intake.chunk
    rw [eq] at gives
    cases gives with
    | ended empty ends =>
      have none' := left_nil_of_empty empty none
      exact ⟨[], silent_nil, .inr ⟨.ended passed none' ends, rfl⟩⟩
  | case7 m intake reader h b bytes source eq ih =>
    obtain ⟨passed, live, none⟩ := passed_stalled ready h
    have gives := Source.read_gives ready.flows intake.chunk
    rw [eq] at gives
    cases gives with
    | bytes split flows isEnded =>
      -- nothing of the stream is lost on the way from the source to the reader
      have passed' := passed.trans (passed_read passed.ready live split flows isEnded)
      obtain ⟨skipped, silent, next⟩ := ih passed'.ready
      refine ⟨skipped, silent, ?_⟩
      cases next with
      | inl next =>
        obtain ⟨envelope, after, more, eq⟩ := next
        exact .inl ⟨envelope, after, passed'.trans more, eq⟩
      | inr stops => exact .inr ⟨passed'.stops stops.1, stops.2⟩

theorem passed_next (ready : intake.Ready) {m counted : Metrics} {envelope : Envelope}
    (read : intake.next m = (.envelope envelope, after, counted)) :
    ∃ skipped, Silent skipped ∧ Passed intake (skipped ++ [.ok envelope]) after ∧
      counted = tally (skipped ++ [.ok envelope]) m := by
  obtain ⟨skipped, silent, ⟨envelope', rest, passed, eq⟩ | ⟨stops, -⟩⟩ := next_spec ready m
  · rw [read] at eq
    cases eq
    exact ⟨skipped, silent, passed, rfl⟩
  · rw [read] at stops
    cases stops

theorem stops_next (ready : intake.Ready) {m counted : Metrics} {reading : Reading}
    (read : intake.next m = (reading, after, counted))
    (others : ∀ envelope, reading ≠ .envelope envelope) :
    ∃ skipped, Silent skipped ∧ Stops intake skipped reading after ∧
      counted = tally skipped m := by
  obtain ⟨skipped, silent, ⟨envelope, rest, -, eq⟩ | stops⟩ := next_spec ready m
  · rw [read] at eq
    exact absurd (congrArg Prod.fst eq) (others envelope)
  · rw [read] at stops
    exact ⟨skipped, silent, stops⟩

/-- The envelopes among what becomes of a stream. -/
def envelopes (items : List (Except Fault Envelope)) : List Envelope :=
  items.filterMap Except.toOption

theorem envelopes_append (items more : List (Except Fault Envelope)) :
    envelopes (items ++ more) = envelopes items ++ envelopes more :=
  List.filterMap_append

theorem envelopes_silent (silent : Silent items) : envelopes items = [] := by
  unfold envelopes
  rw [List.filterMap_eq_nil_iff]
  intro item mem
  exact (silent item mem).1

/-- All envelopes that can be read are those of the stream up to where reading stops. -/
theorem drain_spec (ready : intake.Ready) (m : Metrics) :
    ∃ items, (∀ item ∈ items, isTooLarge item = false) ∧ envelopes items = (intake.drain m).1 ∧
      Stops intake items (intake.drain m).2.1 (intake.drain m).2.2.1 ∧
      (intake.drain m).2.2.2 = tally items m := by
  fun_induction Intake.drain m intake with
  | case1 m intake envelope rest after h more last eq ih =>
    obtain ⟨skipped, silent, passed, counted⟩ := passed_next ready h
    obtain ⟨items, goOn, same, stops, counted'⟩ := ih passed.ready
    rw [eq] at same stops counted'
    refine ⟨skipped ++ [.ok envelope] ++ items, ?_, ?_, passed.stops stops, ?_⟩
    · intro item mem
      rw [List.append_assoc, List.mem_append, List.mem_append, List.mem_singleton] at mem
      obtain mem | rfl | mem := mem
      · exact (silent item mem).2
      · rfl
      · exact goOn item mem
    · rw [envelopes_append, envelopes_append, envelopes_silent silent, same]
      rfl
    · rw [tally_append, ← counted]
      exact counted'
  | case2 m intake h =>
    obtain ⟨skipped, silent, stops⟩ :=
      stops_next ready rfl fun envelope eq => h envelope _ _ (Prod.ext eq rfl)
    exact ⟨skipped, fun item mem => (silent item mem).2, envelopes_silent silent, stops⟩

theorem next_of_frame {outcome : Except Fault Envelope} {reader : Frame.Reader}
    (h : intake.reader.next decode = (some outcome, reader)) (m : Metrics) :
    intake.next m = match outcome with
      | .ok envelope => (.envelope envelope, { intake with reader }, m.countIn envelope)
      | .error fault =>
        if fault.recoverable then next m.countMalformed { intake with reader }
        else (.failed fault, { intake with reader }, m) := by
  rw [next]
  split
  · next h' => cases h.symm.trans h'; rfl
  · next h' => cases h.symm.trans h'; rfl
  · next h' => cases h.symm.trans h'

theorem next_of_none {reader : Frame.Reader} (h : intake.reader.next decode = (none, reader))
    (m : Metrics) :
    intake.next m = match intake.source.read intake.chunk with
      | (none, _) => (.blocked, { intake with reader }, m)
      | (some (.error reason), source) =>
        (.failed (.internal ("read failed: " ++ reason)), { intake with reader, source }, m)
      | (some (.ok []), source) => (.ended, { intake with reader, source }, m)
      | (some (.ok (b :: bytes)), source) =>
        next m { intake with reader := reader.push (b :: bytes), source } := by
  rw [next]
  split
  · next h' => cases h.symm.trans h'
  · next h' => cases h.symm.trans h'
  · next h' =>
    cases h.symm.trans h'
    split <;> next eq => rw [eq]

/-- What is read next has nothing to do with what was counted. -/
theorem next_metrics (m m' : Metrics) (intake : Intake) :
    ∃ after, intake.next m' = ((intake.next m).1, (intake.next m).2.1, after) := by
  fun_induction Intake.next m intake generalizing m' with
  | case1 m intake envelope reader h =>
    rw [next_of_frame h]
    exact ⟨_, rfl⟩
  | case2 m intake fault reader h recoverable ih =>
    rw [next_of_frame h]
    simp only [if_pos recoverable]
    exact ih _
  | case3 m intake fault reader h final =>
    rw [next_of_frame h]
    simp only [if_neg final]
    exact ⟨_, rfl⟩
  | case4 m intake reader h source eq =>
    rw [next_of_none h, eq]
    exact ⟨_, rfl⟩
  | case5 m intake reader h reason source eq =>
    rw [next_of_none h, eq]
    exact ⟨_, rfl⟩
  | case6 m intake reader h source eq =>
    rw [next_of_none h, eq]
    exact ⟨_, rfl⟩
  | case7 m intake reader h b bytes source eq ih =>
    rw [next_of_none h, eq]
    exact ih m'

theorem drain_of_envelope {m after : Metrics} {rest : Intake} {envelope : Envelope}
    (h : intake.next m = (.envelope envelope, rest, after)) :
    intake.drain m = (envelope :: (rest.drain after).1, (rest.drain after).2) := by
  rw [drain, h]

theorem drain_of_ne_envelope {m : Metrics}
    (h : ∀ envelope, (intake.next m).1 ≠ .envelope envelope) :
    intake.drain m = ([], intake.next m) := by
  rw [drain]
  split
  · next eq => exact absurd (congrArg Prod.fst eq) (h _)
  · rfl

theorem drain_metrics (m m' : Metrics) (intake : Intake) :
    (intake.drain m').1 = (intake.drain m).1 := by
  fun_induction Intake.drain m intake generalizing m' with
  | case1 m intake envelope rest after h more last eq ih =>
    obtain ⟨after', same⟩ := next_metrics m m' intake
    rw [h] at same
    rw [drain_of_envelope same, ih, eq]
  | case2 m intake h =>
    obtain ⟨after', same⟩ := next_metrics m m' intake
    have stops : ∀ envelope, (intake.next m').1 ≠ .envelope envelope := by
      intro envelope eq
      rw [same] at eq
      exact h envelope _ _ (Prod.ext eq rfl)
    rw [drain_of_ne_envelope stops]

end Intake
end Hostlink
