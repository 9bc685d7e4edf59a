import Hostlink.Outlet
import Hostlink.Proofs.Frame.RoundTrip
/-!
What envelopes leave on a sink that takes everything: their frames, in order, whatever the length of
a segment. An envelope whose body is too long leaves nothing.
-/

namespace Hostlink

namespace Bytes

theorem flatten_segments (size : Nat) (bytes : Bytes) : (bytes.segments size).flatten = bytes := by
  fun_induction segments size bytes with
  | case1 => rfl
  | case2 b rest ih => rw [List.flatten_cons, ih, List.cons_append, List.take_append_drop]

end Bytes

variable {σ : Type}

/--
A sink that never fails. It may take less than it is given; `written` tells what it has taken.
-/
structure Sink.Accepts (sink : Sink σ) (written : σ → Bytes) : Prop where
  write : ∀ b bytes s, ∃ n s', sink.write (b :: bytes) s = (.ok (n + 1), s') ∧
    written s' = written s ++ b :: bytes.take n
  flush : ∀ s, ∃ s', sink.flush s = (.ok (), s') ∧ written s' = written s
  close : ∀ s, ∃ s', sink.close s = (.ok (), s') ∧ written s' = written s

namespace Sink

theorem memory_accepts : memory.Accepts Bytes.Queue.toList where
  write b bytes kept := by
    refine ⟨bytes.length, kept.push (b :: bytes), rfl, ?_⟩
    rw [Bytes.Queue.toList_push, List.take_length]
  flush kept := ⟨kept, rfl, rfl⟩
  close kept := ⟨kept, rfl, rfl⟩

namespace Accepts

variable {sink : Sink σ} {written : σ → Bytes}

theorem writeAll (accepts : sink.Accepts written) (bytes : Bytes) (s : σ) :
    ∃ s', sink.writeAll bytes s = (.ok (), s') ∧ written s' = written s ++ bytes := by
  fun_induction Sink.writeAll sink bytes s with
  | case1 s => exact ⟨s, rfl, (List.append_nil _).symm⟩
  -- a sink that never fails takes at least one byte of those that it is given
  | case2 s b rest reason s' h =>
    obtain ⟨n, after, eq, -⟩ := accepts.write b rest s
    rw [eq] at h
    exact nomatch h
  | case3 s b rest s' h =>
    obtain ⟨n, after, eq, -⟩ := accepts.write b rest s
    rw [eq] at h
    exact nomatch h
  | case4 s b rest n s' h ih =>
    obtain ⟨n', after, eq, taken⟩ := accepts.write b rest s
    rw [eq] at h
    cases h
    obtain ⟨last, wrote, all⟩ := ih
    refine ⟨last, wrote, ?_⟩
    rw [all, taken, List.append_assoc, List.cons_append, List.take_append_drop]

theorem writeSegments (accepts : sink.Accepts written) (segments : List Bytes) (s : σ) :
    ∃ s', sink.writeSegments segments s = (.ok (), s') ∧
      written s' = written s ++ segments.flatten := by
  induction segments generalizing s with
  | nil => exact ⟨s, rfl, (List.append_nil _).symm⟩
  | cons segment rest ih =>
    obtain ⟨s', first, written'⟩ := accepts.writeAll segment s
    obtain ⟨last, more, all⟩ := ih s'
    refine ⟨last, ?_, ?_⟩
    · unfold Sink.writeSegments
      rw [first]
      exact more
    · rw [all, written', List.flatten_cons, List.append_assoc]

end Accepts
end Sink

namespace Frame

/-- What an envelope leaves on the stream: its frame, or nothing if its body is too long. -/
def trace (limit : Option Nat) (envelope : Envelope) : Bytes :=
  match Wire.encode envelope with
  | .ok body =>
    if body.length ≤ min (limit.getD maxLength) maxLength then
      Bytes.ofWord body.length ++ body
    else []
  | .error _ => []

theorem trace_eq (limit : Option Nat) (envelope : Envelope) :
    trace limit envelope =
      if (Wire.body envelope).length ≤ min (limit.getD maxLength) maxLength then
        Bytes.ofWord (Wire.body envelope).length ++ Wire.body envelope
      else [] := by
  unfold trace
  rw [Wire.encode_eq]

/-- The frame of an envelope. -/
def ofEnvelope (envelope : Envelope) : Bytes :=
  Bytes.ofWord (Wire.body envelope).length ++ Wire.body envelope

theorem encode_of_le {limit : Option Nat} {envelope : Envelope}
    (le : (Wire.body envelope).length ≤ min (limit.getD maxLength) maxLength) :
    encode limit envelope = .ok (ofEnvelope envelope) := by
  rw [encode_eq, ofBody_eq, if_pos le]
  rfl

theorem parse_ofEnvelope {limit : Option Nat} {envelope : Envelope} (portable : envelope.Portable)
    (fits : Fits limit (Wire.body envelope).length) (rest : Bytes) :
    parse Wire.decode limit (ofEnvelope envelope ++ rest) =
      .ok envelope :: parse Wire.decode limit rest := by
  unfold ofEnvelope
  rw [parse_frame rest fits, Wire.decode_body portable]

/-- Whether the body of an envelope is within a limit. -/
def isWithin (limit : Nat) (envelope : Envelope) : Bool :=
  (Wire.body envelope).length ≤ limit

theorem length_le_of_mem {envelope : Envelope} {envelopes : List Envelope}
    (mem : envelope ∈ envelopes) :
    (Wire.body envelope).length ≤ (envelopes.flatMap ofEnvelope).length := by
  have sub : (ofEnvelope envelope).length ≤ (envelopes.flatMap ofEnvelope).length := by
    rw [List.flatMap_def]
    exact (List.sublist_flatten_of_mem (List.mem_map_of_mem mem)).length_le
  unfold ofEnvelope at sub
  rw [List.length_append] at sub
  exact Nat.le_of_add_left_le sub

theorem flatMap_trace {limit : Nat} (le : limit ≤ maxLength) (envelopes : List Envelope) :
    envelopes.flatMap (trace (some limit)) =
      (envelopes.filter (isWithin limit)).flatMap ofEnvelope := by
  induction envelopes with
  | nil => rfl
  | cons envelope rest ih =>
    have same : min ((some limit).getD maxLength) maxLength = limit := Nat.min_eq_left le
    rw [List.flatMap_cons, trace_eq, same, ih]
    by_cases within : (Wire.body envelope).length ≤ limit
    · rw [if_pos within, List.filter_cons_of_pos (by simpa [isWithin] using within),
        List.flatMap_cons]
      rfl
    · rw [if_neg within, List.filter_cons_of_neg (by simpa [isWithin] using within)]
      rfl

end Frame

namespace Metrics

/-- What is counted of the outgoing side: the frames that were written, and the faults of the sink. -/
def outgoing (m : Metrics) : Counter × Counter :=
  (m.framesOut, m.sinkErrors)

variable {m m' : Metrics}

theorem outgoing_countOut (same : m'.outgoing = m.outgoing) (envelope : Envelope) :
    (m'.countOut envelope).outgoing = (m.countOut envelope).outgoing :=
  congrArg (fun (frames, errors) => (frames.increment [("kind", envelope.kind)], errors)) same

theorem outgoing_countSinkError (same : m'.outgoing = m.outgoing) (operation : String) :
    (m'.countSinkError operation).outgoing = (m.countSinkError operation).outgoing :=
  congrArg (fun (frames, errors) => (frames, errors.increment [("op", operation)])) same

end Metrics

namespace Outlet

variable {sink : Sink σ} {written : σ → Bytes}

theorem send_written (accepts : sink.Accepts written) (outlet : Outlet) (envelope : Envelope)
    (m : Metrics) (s : σ) :
    written (outlet.send sink envelope m s).2.2 =
      written s ++ Frame.trace outlet.limit envelope := by
  unfold send
  rw [Frame.trace_eq, Frame.encode_eq, Frame.ofBody_eq]
  by_cases fits : (Wire.body envelope).length ≤
      min (outlet.limit.getD Frame.maxLength) Frame.maxLength
  · rw [if_pos fits]
    obtain ⟨s', wrote, all⟩ := accepts.writeSegments
      ((Bytes.ofWord (Wire.body envelope).length ++ Wire.body envelope).segments outlet.segment) s
    obtain ⟨s'', flushed, same⟩ := accepts.flush s'
    simp only [wrote, flushed, same, all, Bytes.flatten_segments, if_pos fits]
  · simp only [if_neg fits, List.append_nil]
    by_cases exceeds : outlet.limit.getD Frame.maxLength < (Wire.body envelope).length
    · simp only [if_pos exceeds]
    · simp only [if_neg exceeds]

theorem send_ok (accepts : sink.Accepts written) (outlet : Outlet) {envelope : Envelope}
    (fits : (Wire.body envelope).length ≤ min (outlet.limit.getD Frame.maxLength) Frame.maxLength)
    (m : Metrics) (s : σ) :
    ∃ s', outlet.send sink envelope m s = (.ok (), m.countOut envelope, s') ∧
      written s' = written s ++ Frame.ofEnvelope envelope := by
  unfold send
  rw [Frame.encode_of_le fits]
  obtain ⟨s', wrote, all⟩ :=
    accepts.writeSegments ((Frame.ofEnvelope envelope).segments outlet.segment) s
  obtain ⟨s'', flushed, same⟩ := accepts.flush s'
  rw [Bytes.flatten_segments] at all
  refine ⟨s'', ?_, same.trans all⟩
  simp only [wrote, flushed]

/-- Sending does not look at what is counted of responses that nobody waits for. -/
theorem orphans_send (outlet : Outlet) (sink : Sink σ) (envelope : Envelope) (m : Metrics) (s : σ) :
    (outlet.send sink envelope m s).2.1.orphanResponses = m.orphanResponses := by
  unfold send
  split
  · rfl
  · split
    · rfl
    · split <;> rfl

/-- What sending does, and what is counted of it, does not depend on what else is counted. -/
theorem send_outgoing {m m' : Metrics} (same : m'.outgoing = m.outgoing) (outlet : Outlet)
    (sink : Sink σ) (envelope : Envelope) (s : σ) :
    (outlet.send sink envelope m' s).2.1.outgoing = (outlet.send sink envelope m s).2.1.outgoing ∧
      (outlet.send sink envelope m' s).2.2 = (outlet.send sink envelope m s).2.2 := by
  unfold send
  split
  · exact ⟨same, rfl⟩
  · split
    · exact ⟨Metrics.outgoing_countSinkError same "write", rfl⟩
    · split
      · exact ⟨Metrics.outgoing_countSinkError same "flush", rfl⟩
      · exact ⟨Metrics.outgoing_countOut same envelope, rfl⟩

theorem close_outgoing {m m' : Metrics} (same : m'.outgoing = m.outgoing) (sink : Sink σ) (s : σ) :
    (close sink m' s).2.1.outgoing = (close sink m s).2.1.outgoing ∧
      (close sink m' s).2.2 = (close sink m s).2.2 := by
  unfold close
  split
  · exact ⟨Metrics.outgoing_countSinkError same "shutdown", rfl⟩
  · exact ⟨same, rfl⟩

theorem sendAll_concat (outlet : Outlet) (sink : Sink σ) (envelopes : List Envelope)
    (envelope : Envelope) (m : Metrics) (s : σ) :
    outlet.sendAll sink (envelopes ++ [envelope]) m s =
      let (m, s) := outlet.sendAll sink envelopes m s
      (outlet.send sink envelope m s).2 := by
  induction envelopes generalizing m s with
  | nil => rfl
  | cons first rest ih => exact ih _ _

theorem sendAll_written (accepts : sink.Accepts written) (outlet : Outlet)
    (envelopes : List Envelope) (m : Metrics) (s : σ) :
    written (outlet.sendAll sink envelopes m s).2 =
      written s ++ envelopes.flatMap (Frame.trace outlet.limit) := by
  induction envelopes generalizing m s with
  | nil => exact (List.append_nil _).symm
  | cons envelope rest ih =>
    rw [List.flatMap_cons, ← List.append_assoc, ← send_written accepts outlet envelope m s]
    exact ih _ _

end Outlet
end Hostlink
