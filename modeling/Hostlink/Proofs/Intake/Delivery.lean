import Hostlink.Proofs.Metrics.Family
import Hostlink.Proofs.Run
/-!
Who gets the envelopes of a stream: first whoever asks for them one by one, then the subscribers. It
makes no difference where the one ends and the other begins, and every frame is counted once.
-/

namespace Hostlink

open Hostlink.Frame (parse isTooLarge)
open Hostlink.Session (ending? requests)

namespace Source

/-- A source that fails where it would have to wait for more. -/
def thenFails (source : Source) (reason : String) : Source :=
  ⟨source.arrivals ++ [.failure reason], true⟩

theorem read_thenFails {source : Source} (goesOn : source.isEnded = false) (reason : String)
    (limit : Nat) :
    (source.thenFails reason).read limit =
      match source.read limit with
      | (none, _) => (some (.error reason), ⟨[], true⟩)
      | (result, after) => (result, after.thenFails reason) := by
  obtain ⟨arrivals, isEnded⟩ := source
  subst goesOn
  cases arrivals with
  | nil => rfl
  | cons arrival rest =>
    cases arrival with
    | failure reason => rfl
    | data bytes =>
      simp only [thenFails, List.cons_append, read]
      split <;> simp only [List.cons_append]

theorem isEnded_read (source : Source) (limit : Nat) :
    (source.read limit).2.isEnded = source.isEnded := by
  unfold read
  split
  · rfl
  · rfl
  · dsimp only
    split <;> rfl

end Source

/-- What is read of a source that fails where it would have to wait for more. -/
def Reading.thenFails (reason : String) : Reading → Reading
  | .blocked => .failed (.internal ("read failed: " ++ reason))
  | reading => reading

theorem Reading.thenFails_of_ne {reading : Reading} (goes : reading ≠ .blocked) (reason : String) :
    reading.thenFails reason = reading := by
  cases reading <;> first | rfl | contradiction

namespace Intake

open Metrics (tally tally_append)

variable {intake : Intake}

/-- The incoming side of a source that fails where it would have to wait for more. -/
def thenFails (intake : Intake) (reason : String) : Intake :=
  { intake with source := intake.source.thenFails reason }

theorem next_thenFails (goesOn : intake.source.isEnded = false) (reason : String) (m : Metrics) :
    ((intake.next m).1 = .blocked ∧ ∃ last,
      (intake.thenFails reason).next m =
        (.failed (.internal ("read failed: " ++ reason)), last, (intake.next m).2.2)) ∨
    ((intake.next m).1 ≠ .blocked ∧ (intake.next m).2.1.source.isEnded = false ∧
      (intake.thenFails reason).next m =
        ((intake.next m).1, (intake.next m).2.1.thenFails reason, (intake.next m).2.2)) := by
  fun_induction Intake.next m intake with
  | case1 m intake envelope reader h =>
    have h' : (intake.thenFails reason).reader.next decode = (some (.ok envelope), reader) := h
    exact .inr ⟨by simp, goesOn, next_of_frame h' m⟩
  | case2 m intake fault reader h recoverable ih =>
    have h' : (intake.thenFails reason).reader.next decode = (some (.error fault), reader) := h
    rw [next_of_frame h']
    simp only [if_pos recoverable]
    exact ih goesOn
  | case3 m intake fault reader h final =>
    have h' : (intake.thenFails reason).reader.next decode = (some (.error fault), reader) := h
    rw [next_of_frame h']
    simp only [if_neg final]
    exact .inr ⟨by simp, goesOn, rfl⟩
  | case4 m intake reader h source eq =>
    have h' : (intake.thenFails reason).reader.next decode = (none, reader) := h
    have failing := Source.read_thenFails goesOn reason intake.chunk
    rw [eq] at failing
    rw [next_of_none h']
    simp only [thenFails, failing]
    exact .inl ⟨trivial, _, rfl⟩
  | case5 m intake reader h why source eq =>
    have h' : (intake.thenFails reason).reader.next decode = (none, reader) := h
    have failing := Source.read_thenFails goesOn reason intake.chunk
    have same := Source.isEnded_read intake.source intake.chunk
    rw [eq] at failing same
    rw [next_of_none h']
    refine .inr ⟨by simp, same.trans goesOn, ?_⟩
    simp only [thenFails, failing]
  | case6 m intake reader h source eq =>
    have h' : (intake.thenFails reason).reader.next decode = (none, reader) := h
    have failing := Source.read_thenFails goesOn reason intake.chunk
    have same := Source.isEnded_read intake.source intake.chunk
    rw [eq] at failing same
    rw [next_of_none h']
    refine .inr ⟨by simp, same.trans goesOn, ?_⟩
    simp only [thenFails, failing]
  | case7 m intake reader h b bytes source eq ih =>
    have h' : (intake.thenFails reason).reader.next decode = (none, reader) := h
    have failing := Source.read_thenFails goesOn reason intake.chunk
    have same := Source.isEnded_read intake.source intake.chunk
    rw [eq] at failing same
    rw [next_of_none h']
    simp only [thenFails, failing]
    exact ih (same.trans goesOn)

theorem drain_thenFails (goesOn : intake.source.isEnded = false) (reason : String) (m : Metrics) :
    ∃ last, (intake.thenFails reason).drain m =
      ((intake.drain m).1, (intake.drain m).2.1.thenFails reason, last,
        (intake.drain m).2.2.2) := by
  fun_induction Intake.drain m intake with
  | case1 m intake envelope rest after h more last eq ih =>
    have failing := next_thenFails goesOn reason m
    rw [h] at failing
    obtain ⟨blocked, -⟩ | ⟨-, goesOn', failing⟩ := failing
    · cases blocked
    · obtain ⟨last', same⟩ := ih goesOn'
      rw [eq] at same
      rw [drain_of_envelope failing, same]
      exact ⟨last', rfl⟩
  | case2 m intake stops =>
    obtain ⟨blocked, last, failing⟩ | ⟨goes, -, failing⟩ := next_thenFails goesOn reason m
    · rw [drain_of_ne_envelope (by simp [failing]), failing, blocked]
      exact ⟨last, rfl⟩
    · have none : ∀ envelope, (intake.next m).1 ≠ .envelope envelope :=
        fun envelope eq => stops envelope _ _ (Prod.ext eq rfl)
      rw [drain_of_ne_envelope (by rw [failing]; exact none), failing,
        Reading.thenFails_of_ne goes]
      exact ⟨_, rfl⟩

/-- A frame that is complete but holds no envelope. -/
def isMalformed : Except Fault Envelope → Bool
  | .ok _ => false
  | .error fault => fault.recoverable

theorem not_isMalformed_of_tooLarge {item : Except Fault Envelope} (final : isTooLarge item) :
    isMalformed item = false := by
  cases item with
  | ok envelope => rfl
  | error fault => cases fault <;> first | rfl | contradiction

theorem tally_final {fault : Fault} (final : isTooLarge (.error fault : Except Fault Envelope))
    (items : List (Except Fault Envelope)) (m : Metrics) :
    tally (items ++ [.error fault]) m = tally items m := by
  have recoverable : fault.recoverable = false := not_isMalformed_of_tooLarge final
  rw [tally_append]
  unfold tally
  rw [List.foldl_cons, List.foldl_nil, Metrics.countItem, recoverable]
  rfl

/-- All that can be read is what has arrived of the stream. -/
theorem drain_left (ready : intake.Ready) (m : Metrics) :
    (intake.drain m).1 = envelopes (intake.left []) ∧
      (intake.drain m).2.1 = (match Session.endingOf (intake.left []) with
        | .error fault => .failed fault
        | .ok () => if intake.source.isEnded then .ended else .blocked) ∧
      (intake.drain m).2.2.2 = tally (intake.left []) m := by
  obtain ⟨items, goOn, read, stops, counted⟩ := drain_spec ready m
  generalize (intake.drain m).2.1 = reading, (intake.drain m).2.2.1 = last at stops ⊢
  cases stops with
  | blocked passed none empty goesOn =>
    rw [passed.left, none, List.append_nil, Session.endingOf_goesOn goOn, goesOn]
    exact ⟨read.symm, rfl, counted⟩
  | ended passed none ends =>
    rw [passed.left, none, List.append_nil, Session.endingOf_goesOn goOn, ends]
    exact ⟨read.symm, rfl, counted⟩
  | failed final all =>
    rw [all, Session.endingOf_final goOn final, tally_final final, envelopes_append]
    exact ⟨by rw [← read]; exact (List.append_nil _).symm, rfl, counted⟩

/-- Ask for the next envelope so many times. -/
def pull : Nat → Metrics → Intake → List Reading × Intake × Metrics
  | 0, m, intake => ([], intake, m)
  | count + 1, m, intake =>
    let (reading, rest, m) := intake.next m
    let (more, last) := pull count m rest
    (reading :: more, last)

/-- What was asked for one by one is not read again. -/
theorem pull_drain {count : Nat} {m : Metrics} (enough : count ≤ (intake.drain m).1.length) :
    ∃ rest after,
      pull count m intake = (((intake.drain m).1.take count).map .envelope, rest, after) ∧
      rest.drain after = ((intake.drain m).1.drop count, (intake.drain m).2) := by
  induction count generalizing m intake with
  | zero => exact ⟨intake, m, rfl, rfl⟩
  | succ count ih =>
    obtain ⟨⟨reading, rest, after⟩, read⟩ : ∃ result, intake.next m = result := ⟨_, rfl⟩
    cases reading with
    | envelope envelope =>
      rw [drain_of_envelope read] at enough ⊢
      obtain ⟨last, final, pulled, drained⟩ := ih (Nat.le_of_succ_le_succ enough)
      refine ⟨last, final, ?_, drained⟩
      unfold pull
      rw [read]
      simp only [pulled]
      rfl
    | blocked | ended | failed =>
      rw [drain_of_ne_envelope (by simp [read])] at enough
      contradiction

section run

variable {τ : Type} {subscribers : List (Envelope → τ → τ)}

theorem run_of_envelope {m after : Metrics} {rest : Intake} {envelope : Envelope}
    (h : intake.next m = (.envelope envelope, rest, after)) (t : τ) :
    intake.run subscribers m t =
      rest.run subscribers after (subscribers.foldl (fun t tell => tell envelope t) t) := by
  rw [Intake.run, h]

theorem run_of_ne_envelope {m : Metrics} (h : ∀ envelope, (intake.next m).1 ≠ .envelope envelope)
    (t : τ) : intake.run subscribers m t = (ending? (intake.next m).1, t, (intake.next m).2) := by
  rw [Intake.run]
  split
  · next eq => exact absurd (congrArg Prod.fst eq) (h _)
  · next eq => rw [eq]; rfl
  · next eq => rw [eq]; rfl
  · next eq => rw [eq]; rfl

/-- Running tells the subscribers what draining reads. -/
theorem run_drain (subscribers : List (Envelope → τ → τ)) (m : Metrics) (intake : Intake) (t : τ) :
    intake.run subscribers m t =
      (ending? (intake.drain m).2.1,
        (intake.drain m).1.foldl
          (fun t envelope => subscribers.foldl (fun t tell => tell envelope t) t) t,
        (intake.drain m).2.2) := by
  fun_induction Intake.drain m intake generalizing t with
  | case1 m intake envelope rest after h more last eq ih =>
    rw [run_of_envelope h, ih, eq]
    rfl
  | case2 m intake stops =>
    rw [run_of_ne_envelope fun envelope eq => stops envelope _ _ (Prod.ext eq rfl)]
    rfl

end run

theorem malformedFrames_countItem (m : Metrics) (item : Except Fault Envelope) :
    (m.countItem item).malformedFrames.get [] =
      m.malformedFrames.get [] + if isMalformed item then 1 else 0 := by
  cases item with
  | ok envelope => exact (UInt64.add_zero _).symm
  | error fault =>
    show (if fault.recoverable then m.countMalformed else m).malformedFrames.get [] =
      _ + if fault.recoverable then 1 else 0
    split
    · exact Metrics.Counter.get_increment _ _
    · exact (UInt64.add_zero _).symm

theorem malformedFrames_tally (items : List (Except Fault Envelope)) (m : Metrics) :
    (tally items m).malformedFrames.get [] =
      m.malformedFrames.get [] + UInt64.ofNat (items.countP isMalformed) :=
  Metrics.foldl_eq_countP (·.malformedFrames.get []) isMalformed malformedFrames_countItem m items

/-- An envelope of this kind. -/
def isOfKind (kind : String) : Except Fault Envelope → Bool
  | .ok envelope => envelope.kind == kind
  | .error _ => false

theorem countP_isOfKind (kind : String) (items : List (Except Fault Envelope)) :
    items.countP (isOfKind kind) = (envelopes items).countP (·.kind == kind) := by
  unfold envelopes
  rw [List.countP_filterMap]
  congr 1
  funext item
  cases item <;> rfl

theorem framesIn_countItem (kind : String) (m : Metrics) (item : Except Fault Envelope) :
    (m.countItem item).framesIn.get [("kind", kind)] =
      m.framesIn.get [("kind", kind)] + if isOfKind kind item then 1 else 0 := by
  cases item with
  | error fault =>
    show (if fault.recoverable then m.countMalformed else m).framesIn.get _ = _ + 0
    split <;> exact (UInt64.add_zero _).symm
  | ok envelope => exact Metrics.Counter.get_increment_label m.framesIn "kind" envelope.kind kind

theorem framesIn_tally (kind : String) (items : List (Except Fault Envelope)) (m : Metrics) :
    (tally items m).framesIn.get [("kind", kind)] =
      m.framesIn.get [("kind", kind)] +
        UInt64.ofNat ((envelopes items).countP (·.kind == kind)) := by
  rw [← countP_isOfKind]
  exact Metrics.foldl_eq_countP (·.framesIn.get [("kind", kind)]) (isOfKind kind)
    (framesIn_countItem kind) m items

/-- Each frame that is complete is counted as one of these. -/
theorem countP_complete {items : List (Except Fault Envelope)}
    (known : ∀ item ∈ items, Frame.Reader.goesOn (some item) = true ∨ isTooLarge item) :
    items.countP isMalformed + items.countP (isOfKind "request") +
      items.countP (isOfKind "response") = items.countP (!isTooLarge ·) := by
  have one : ∀ item ∈ items,
      [isMalformed, isOfKind "request", isOfKind "response"].countP (· item) =
        if !isTooLarge item then 1 else 0 := by
    intro item mem
    cases item with
    | ok envelope => cases envelope <;> rfl
    | error fault =>
      obtain goesOn | final := known _ mem
      · have malformed : isMalformed (.error fault) = true := goesOn
        rw [List.countP_cons, malformed, Frame.isTooLarge_of_goesOn goesOn]
        rfl
      · rw [List.countP_cons, not_isMalformed_of_tooLarge final, final]
        rfl
  rw [← Metrics.foldr_countP one, Nat.add_assoc]
  rfl

/-- The incoming side when these chunks arrive, and then a failure, if there is a reason for one. -/
def arriving (limit : Option Nat) (chunk : Nat) (chunks : List Bytes) (failure : Option String) :
    Intake where
  reader := { limit }
  source := { arrivals := chunks.map .data ++ (failure.map .failure).toList, isEnded := true }
  chunk := chunk

/-- How reading is over: with the stream, or else with the failure of the source. -/
def endingOf (items : List (Except Fault Envelope)) (failure : Option String) :
    Except Fault Unit :=
  match Session.endingOf items, failure with
  | .ok (), some reason => .error (.internal ("read failed: " ++ reason))
  | ending, _ => ending

theorem drain_arriving (limit : Option Nat) (chunk : Nat) {chunks : List Bytes}
    (nonempty : ∀ chunk ∈ chunks, chunk ≠ []) (failure : Option String) (m : Metrics) :
    let items := parse decode limit chunks.flatten
    let result := (arriving limit chunk chunks failure).drain m
    result.1 = envelopes items ∧ ending? result.2.1 = some (endingOf items failure) ∧
      result.2.2.2 = tally items m := by
  -- without the failure, bytes flow
  have ready (isEnded : Bool) :
      Ready { reader := { limit }, source := ⟨chunks.map .data, isEnded⟩, chunk } := by
    refine ⟨Frame.Reader.sound_new limit, ?_⟩
    intro arrival mem
    obtain ⟨bytes, isChunk, rfl⟩ := List.mem_map.1 mem
    cases bytes with
    | nil => exact absurd rfl (nonempty [] isChunk)
    | cons b bytes => exact ⟨b, bytes, rfl⟩
  have stream (isEnded : Bool) :
      left { reader := { limit }, source := ⟨chunks.map .data, isEnded⟩, chunk } [] =
        parse decode limit chunks.flatten := by
    have bytes : Source.bytes ⟨chunks.map .data, isEnded⟩ = chunks.flatten := by
      unfold Source.bytes
      rw [List.flatMap_map]
      exact List.flatMap_id'
    unfold left
    rw [bytes, List.append_nil]
    rfl
  intro items result
  cases failure with
  | none =>
    have same : arriving limit chunk chunks none =
        { reader := { limit }, source := ⟨chunks.map .data, true⟩, chunk } := by
      unfold arriving
      rw [Option.map_none, Option.toList_none, List.append_nil]
    obtain ⟨read, last, counted⟩ := drain_left (ready true) m
    rw [stream, ← same] at read last counted
    refine ⟨read, ?_, counted⟩
    rw [last]
    unfold endingOf
    cases Session.endingOf items <;> rfl
  | some reason =>
    obtain ⟨read, last, counted⟩ := drain_left (ready false) m
    rw [stream] at read last counted
    let flowing : Intake := { reader := { limit }, source := ⟨chunks.map .data, false⟩, chunk }
    have goesOn : flowing.source.isEnded = false := rfl
    obtain ⟨after, failing⟩ := drain_thenFails goesOn reason m
    have same : result = _ := failing
    rw [same, read, last, counted]
    refine ⟨rfl, ?_, rfl⟩
    unfold endingOf
    cases Session.endingOf items <;> rfl

/--
Whoever asks for envelopes gets the first ones of the stream, and the subscribers, who are told each
one in turn, all others, until the stream is over. Frames that hold no envelope go to nobody. Every
frame that is complete is counted once, whether it was asked for or not. All this depends on the
bytes of the stream only: not on the chunks in which they arrive, nor on how many are read at once.
-/
theorem pull_run_delivers {τ : Type} (limit : Option Nat) (chunk : Nat) {chunks : List Bytes}
    (nonempty : ∀ chunk ∈ chunks, chunk ≠ []) (failure : Option String)
    (subscribers : List (Envelope → τ → τ)) (m : Metrics) (t : τ) (count : Nat) :
    let items := parse decode limit chunks.flatten
    let malformed := items.countP isMalformed
    let ofKind (kind : String) := (envelopes items).countP (·.kind == kind)
    count ≤ (envelopes items).length →
    ∃ rest between last after,
      pull count m (arriving limit chunk chunks failure) =
        (((envelopes items).take count).map .envelope, rest, between) ∧
      rest.run subscribers between t =
        (some (endingOf items failure),
          ((envelopes items).drop count).foldl
            (fun t envelope => subscribers.foldl (fun t tell => tell envelope t) t) t,
          last, after) ∧
      after.malformedFrames.get [] = m.malformedFrames.get [] + UInt64.ofNat malformed ∧
      (∀ kind, after.framesIn.get [("kind", kind)] =
        m.framesIn.get [("kind", kind)] + UInt64.ofNat (ofKind kind)) ∧
      malformed + ofKind "request" + ofKind "response" = items.countP (!isTooLarge ·) := by
  intro items malformed ofKind enough
  obtain ⟨read, ends, counted⟩ := drain_arriving limit chunk nonempty failure m
  rw [← read] at enough
  obtain ⟨rest, between, pulled, drained⟩ := pull_drain enough
  generalize (arriving limit chunk chunks failure).drain m = result
    at read ends counted pulled drained
  obtain ⟨read', reading, last, after⟩ := result
  subst read counted
  refine ⟨rest, between, last, _, pulled, ?_, malformedFrames_tally items m,
    fun kind => framesIn_tally kind items m, ?_⟩
  · rw [run_drain, drained, ends]
  · have complete := countP_complete
      (Frame.goesOn_or_tooLarge_of_mem_parse Wire.recovers_decode limit chunks.flatten)
    rw [countP_isOfKind, countP_isOfKind] at complete
    exact complete

theorem pull_run_delivers_burst :
    let request : Request := { path := "/a", correlation := "1", path_ne := by decide }
    let response : Response := { correlation := "2" }
    let noise : Bytes := [0x78]
    let bytes := Frame.ofEnvelope (.request request) ++ (Bytes.ofWord noise.length ++ noise ++
      (Frame.ofEnvelope (.response response) ++ [0]))
    let intake := arriving none 16 [bytes.take 5, bytes.drop 5] (some "gone")
    let log (envelope : Envelope) (seen : List Envelope) := seen ++ [envelope]
    ∃ rest between last after,
      pull 1 {} intake = ([.envelope (.request request)], rest, between) ∧
      rest.run [log, log] between [] =
        (some (.error (.internal "read failed: gone")),
          [.response response, .response response], last, after) ∧
      after.malformedFrames.get [] = 1 ∧ after.framesIn.get [("kind", "request")] = 1 ∧
      after.framesIn.get [("kind", "response")] = 1 := by
  intro request response noise bytes intake log
  obtain ⟨fault, malformed⟩ :
      ∃ fault, (Wire.decode noise : Except Fault Envelope) = .error fault := by
    have none : (Wire.decode noise : Except Fault Envelope).toOption.isNone := by
      decide +kernel
    generalize (Wire.decode noise : Except Fault Envelope) = item at none
    cases item with
    | error fault => exact ⟨fault, rfl⟩
    | ok envelope => contradiction
  have recoverable : fault.recoverable = true := by
    have goesOn := Wire.recovers_decode (α := Envelope) noise
    rwa [malformed] at goesOn
  let expected : List (Except Fault Envelope) :=
    [.ok (.request request), .error fault, .ok (.response response)]
  have items : parse Wire.decode none [bytes.take 5, bytes.drop 5].flatten = expected := by
    have whole : [bytes.take 5, bytes.drop 5].flatten = bytes := by
      rw [List.flatten_cons, List.flatten_singleton, List.take_append_drop]
    have one : Frame.Fits none noise.length := Frame.fits_iff.2 (by decide)
    rw [whole,
      Frame.parse_ofEnvelope (Envelope.portable_of_none rfl) (Frame.fits_iff.2 (by decide +kernel)),
      Frame.parse_frame _ one,
      Frame.parse_ofEnvelope (Envelope.portable_of_none rfl) (Frame.fits_iff.2 (by decide +kernel)),
      Frame.parse_short (by decide), malformed]
  have nonempty : ∀ chunk ∈ [bytes.take 5, bytes.drop 5], chunk ≠ [] := by
    decide +kernel
  have all := pull_run_delivers none 16 nonempty (some "gone") [log, log] {} [] 1
  rw [show parse decode none _ = _ from items] at all
  obtain ⟨rest, between, last, after, pulled, ran, malformedFrames, framesIn, -⟩ :=
    all (Nat.le_succ 1)
  have goOn : ∀ item ∈ expected, isTooLarge item = false := by
    simp only [expected, List.forall_mem_cons]
    exact ⟨rfl, Frame.isTooLarge_of_goesOn recoverable, rfl, List.forall_mem_nil _⟩
  unfold endingOf at ran
  rw [Session.endingOf_goesOn goOn] at ran
  refine ⟨rest, between, last, after, pulled, ran, ?_, framesIn "request", framesIn "response"⟩
  rw [malformedFrames]
  simp only [expected, List.countP_cons, isMalformed, recoverable]
  rfl

end Intake
end Hostlink
