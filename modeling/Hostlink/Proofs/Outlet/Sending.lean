import Hostlink.Proofs.Metrics.History
import Hostlink.Proofs.Outlet.Pieces
/-!
How sending an envelope ends, whatever the sink does. There are four ways: the envelope has no
frame, the frame is written, a write fails, or the flush fails. Each way tells the result, what the
sink has taken and which single series has gone up by one, so that over many envelopes the counters
and the envelopes without a frame add up to the number of envelopes.
-/

namespace Hostlink

variable {σ π : Type}

namespace Sink

variable {sink : Sink σ}

/-- A write failed for a reason and left the sink in a state. To take nothing is to fail. -/
inductive WriteFailed (sink : Sink σ) : String → σ → Prop where
  | fault {bytes : Bytes} {reason : String} {s s' : σ}
      (write : sink.write bytes s = (.error reason, s')) : WriteFailed sink reason s'
  | nothing {bytes : Bytes} {s s' : σ} (write : sink.write bytes s = (.ok 0, s')) :
      WriteFailed sink "write zero" s'

theorem writeAll_failed {bytes : Bytes} {reason : String} {s s' : σ}
    (failed : sink.writeAll bytes s = (.error reason, s')) : sink.WriteFailed reason s' := by
  fun_induction Sink.writeAll sink bytes s with
  | case1 s => cases failed
  | case2 s b rest reason s' write =>
    cases failed
    exact .fault write
  | case3 s b rest s' write =>
    cases failed
    exact .nothing write
  | case4 s b rest n s' write ih => exact ih failed

theorem writeSegments_failed {segments : List Bytes} {reason : String} {s s' : σ}
    (failed : sink.writeSegments segments s = (.error reason, s')) :
    sink.WriteFailed reason s' := by
  induction segments generalizing s with
  | nil => cases failed
  | cons segment segments ih =>
    unfold Sink.writeSegments at failed
    cases first : sink.writeAll segment s with
    | mk result after =>
      rw [first] at failed
      cases result with
      | error reason' =>
        cases failed
        exact writeAll_failed first
      | ok u => exact ih failed

end Sink

namespace Metrics

/-- A counter with one series, whose labels are given, one higher and the others as they were. -/
structure Counter.Raised (counter : Counter) (labels : Labels) (after : Counter) : Prop where
  raised : after.get labels = counter.get labels + 1
  others : ∀ key, ¬ labels.Perm key → after.get key = counter.get key

theorem Counter.raised_increment (counter : Counter) (labels : Labels) :
    counter.Raised labels (counter.increment labels) where
  raised := get_increment counter labels
  others _ other := get_add_of_not_perm counter 1 other

/-- One more frame of a kind was written, and nothing else has changed. -/
structure WroteOne (m : Metrics) (kind : String) (after : Metrics) : Prop where
  framesOut : m.framesOut.Raised [("kind", kind)] after.framesOut
  rest : after = { m with framesOut := after.framesOut }

/-- An operation on the sink failed once more, and nothing else has changed. -/
structure FailedOne (m : Metrics) (operation : String) (after : Metrics) : Prop where
  sinkErrors : m.sinkErrors.Raised [("op", operation)] after.sinkErrors
  rest : after = { m with sinkErrors := after.sinkErrors }

variable {m : Metrics}

theorem wroteOne_countOut (m : Metrics) (envelope : Envelope π) :
    m.WroteOne envelope.kind (m.countOut envelope) where
  framesOut := Counter.raised_increment _ _
  rest := rfl

theorem failedOne_countSinkError (m : Metrics) (operation : String) :
    m.FailedOne operation (m.countSinkError operation) where
  sinkErrors := Counter.raised_increment _ _
  rest := rfl

end Metrics

namespace Outlet

/-- The ways in which sending an envelope can end. -/
inductive Ending where
  /-- The envelope has no frame. -/
  | refused
  | written
  /-- A write failed. -/
  | broken
  /-- The flush failed. -/
  | unflushed

/--
Sending an envelope from some metrics and a state of the sink on has ended in a way, with a result,
metrics and a state of the sink.
-/
inductive Ends [Json.Encode π] (outlet : Outlet) (sink : Sink σ) (taken : σ → Bytes)
    (envelope : Envelope π) (m : Metrics) (s : σ) :
    Ending → Except Fault Unit → Metrics → σ → Prop where
  | refused {fault : Fault} (encoded : Frame.encode outlet.limit envelope = .error fault)
      (cause : (∃ length limit, fault = .frameTooLarge length limit) ∨
        ∃ text, fault = .internal text) :
      Ends outlet sink taken envelope m s .refused (.error fault) m s
  | written {frame : Bytes} {m' : Metrics} {s' s'' : σ}
      (encoded : Frame.encode outlet.limit envelope = .ok frame)
      (accepted : taken s' = taken s ++ frame) (flushed : sink.flush s' = (.ok (), s''))
      (kept : taken s'' = taken s') (counted : m.WroteOne envelope.kind m') :
      Ends outlet sink taken envelope m s .written (.ok ()) m' s''
  | broken {piece rest : Bytes} {reason : String} {m' : Metrics} {s' : σ}
      (encoded : Frame.encode outlet.limit envelope = .ok (piece ++ rest)) (missing : rest ≠ [])
      (failed : sink.WriteFailed reason s') (accepted : taken s' = taken s ++ piece)
      (counted : m.FailedOne "write" m') :
      Ends outlet sink taken envelope m s .broken
        (.error (.sinkUnavailable ("write failed: " ++ reason))) m' s'
  | unflushed {frame : Bytes} {reason : String} {m' : Metrics} {s' s'' : σ}
      (encoded : Frame.encode outlet.limit envelope = .ok frame)
      (accepted : taken s' = taken s ++ frame) (failed : sink.flush s' = (.error reason, s''))
      (kept : taken s'' = taken s') (counted : m.FailedOne "flush" m') :
      Ends outlet sink taken envelope m s .unflushed
        (.error (.sinkUnavailable ("flush failed: " ++ reason))) m' s''

variable [Json.Encode π] {sink : Sink σ} {taken : σ → Bytes}

/-- An envelope without a frame is too long, or has no text. -/
theorem cause_of_encode {limit : Option Nat} {envelope : Envelope π} {fault : Fault}
    (encoded : Frame.encode limit envelope = .error fault) :
    (∃ length limit, fault = .frameTooLarge length limit) ∨ ∃ text, fault = .internal text := by
  unfold Frame.encode Wire.encode at encoded
  cases written : Json.write envelope with
  | error misfit =>
    rw [written] at encoded
    cases encoded
    exact .inr ⟨_, rfl⟩
  | ok body =>
    rw [written] at encoded
    change Frame.ofBody limit body = .error fault at encoded
    unfold Frame.ofBody at encoded
    dsimp only at encoded
    split at encoded
    · cases encoded
      exact .inl ⟨_, _, rfl⟩
    · split at encoded
      · cases encoded
        exact .inl ⟨_, _, rfl⟩
      · cases encoded

theorem exists_ends (takes : sink.Takes taken) (outlet : Outlet) (envelope : Envelope π)
    (m : Metrics) (s : σ) :
    ∃ ending, Ends outlet sink taken envelope m s ending (outlet.send sink envelope m s).1
      (outlet.send sink envelope m s).2.1 (outlet.send sink envelope m s).2.2 := by
  unfold send
  cases encoded : Frame.encode outlet.limit envelope with
  | error fault => exact ⟨.refused, .refused encoded (cause_of_encode encoded)⟩
  | ok frame =>
    obtain ⟨piece, first, wrote⟩ := takes.writeSegments (frame.segments outlet.segment) s
    rw [Bytes.flatten_segments] at wrote
    dsimp only
    cases segments : sink.writeSegments (frame.segments outlet.segment) s with
    | mk result s' =>
      rw [segments] at first wrote
      -- what the sink has taken of the frame tells whether a write has failed
      cases wrote with
      | cut split missing =>
        exact ⟨.broken, .broken (split ▸ encoded) missing (Sink.writeSegments_failed segments) first
          (m.failedOne_countSinkError "write")⟩
      | all =>
        have kept := takes.flush s'
        dsimp only at first ⊢
        cases flush : sink.flush s' with
        | mk result s'' =>
          rw [flush] at kept
          cases result with
          | error reason =>
            exact ⟨.unflushed, .unflushed encoded first flush kept
              (m.failedOne_countSinkError "flush")⟩
          | ok u =>
            exact ⟨.written, .written encoded first flush kept (m.wroteOne_countOut envelope)⟩

variable {outlet : Outlet} {envelope : Envelope π} {m m' : Metrics} {s s' : σ}
  {result : Except Fault Unit} {ending : Ending}

/-- The way that is told by a frame, a result and what the sink has taken before and afterwards. -/
def Ending.told (before after : Bytes) : Except Fault Bytes → Except Fault Unit → Ending
  | .error _, _ => .refused
  | .ok _, .ok _ => .written
  | .ok frame, .error _ => if after = before ++ frame then .unflushed else .broken

theorem Ends.eq_told (ends : Ends outlet sink taken envelope m s ending result m' s') :
    ending = .told (taken s) (taken s') (Frame.encode outlet.limit envelope) result := by
  cases ends with
  | refused encoded => rw [encoded, Ending.told]
  | written encoded => rw [encoded, Ending.told]
  | unflushed encoded accepted _ kept => rw [encoded, Ending.told, kept, if_pos accepted]
  | broken encoded missing _ accepted =>
    rw [encoded, Ending.told, accepted, if_neg]
    intro same
    exact missing (List.self_eq_append_right.1 (List.append_cancel_left same))

/-- Whether an envelope has no frame. -/
def isRefused (limit : Option Nat) (envelope : Envelope π) : Bool :=
  match Frame.encode limit envelope with
  | .ok _ => false
  | .error _ => true

/-- How many envelopes were written, and how many operations failed for the others with a frame. -/
structure Tallied (limit : Option Nat) (envelopes : List (Envelope π)) (m m' : Metrics)
    (written failed : Nat) : Prop where
  framesOut : m'.framesOut.total = m.framesOut.total + UInt64.ofNat written
  sinkErrors : m'.sinkErrors.total = m.sinkErrors.total + UInt64.ofNat failed
  all : written + failed + envelopes.countP (isRefused limit) = envelopes.length

theorem tallied_nil (limit : Option Nat) (m : Metrics) :
    Tallied limit ([] : List (Envelope π)) m m 0 0 where
  framesOut := (UInt64.add_zero _).symm
  sinkErrors := (UInt64.add_zero _).symm
  all := rfl

theorem Sent.tallied {limit : Option Nat} {piece : Bytes}
    (sent : Sent limit envelope m result piece m') :
    ∃ written failed, Tallied limit [envelope] m m' written failed := by
  have total (counter : Metrics.Counter) (labels : Labels) :
      (counter.increment labels).total = counter.total + UInt64.ofNat 1 :=
    Metrics.Counter.total_add counter labels 1
  have kept (counter : Metrics.Counter) : counter.total = counter.total + UInt64.ofNat 0 :=
    (UInt64.add_zero _).symm
  cases sent with
  | refused encoded => exact ⟨0, 0, kept _, kept _, by simp [isRefused, encoded]⟩
  | written encoded => exact ⟨1, 0, total _ _, kept _, by simp [isRefused, encoded]⟩
  | cut encoded => exact ⟨0, 1, kept _, total _ _, by simp [isRefused, encoded]⟩
  | unflushed encoded => exact ⟨0, 1, kept _, total _ _, by simp [isRefused, encoded]⟩

theorem sendAll_tallied (takes : sink.Takes taken) (outlet : Outlet)
    (envelopes : List (Envelope π)) (m : Metrics) (s : σ) :
    ∃ written failed,
      Tallied outlet.limit envelopes m (outlet.sendAll sink envelopes m s).1 written failed := by
  induction envelopes generalizing m s with
  | nil => exact ⟨0, 0, tallied_nil _ _⟩
  | cons envelope envelopes ih =>
    obtain ⟨piece, -, sent⟩ := send_sent takes outlet envelope m s
    obtain ⟨written, failed, first⟩ := sent.tallied
    obtain ⟨written', failed', rest⟩ := ih (outlet.send sink envelope m s).2.1
      (outlet.send sink envelope m s).2.2
    refine ⟨written + written', failed + failed', ?_, ?_, ?_⟩
    · rw [UInt64.ofNat_add, ← UInt64.add_assoc, ← first.framesOut]
      exact rest.framesOut
    · rw [UInt64.ofNat_add, ← UInt64.add_assoc, ← first.sinkErrors]
      exact rest.sinkErrors
    · have one := first.all
      have others := rest.all
      rw [List.countP_cons, List.length_cons]
      simp only [List.countP_singleton, List.length_singleton] at one
      omega

/--
Whatever a sink does, sending an envelope ends in exactly one of four ways. Over any envelopes, the
frames that were written, the failures of the sink and the envelopes without a frame become as many
more as there are envelopes, as far as 64 bits can count them. From new metrics on they are as many
as the envelopes, if these are fewer than `2 ^ 64`.
-/
theorem send_ends_one_way (takes : sink.Takes taken) (outlet : Outlet) :
    (∀ (envelope : Envelope π) (m : Metrics) (s : σ),
      ∃! ending, Ends outlet sink taken envelope m s ending (outlet.send sink envelope m s).1
        (outlet.send sink envelope m s).2.1 (outlet.send sink envelope m s).2.2) ∧
    (∀ (envelopes : List (Envelope π)) (m : Metrics) (s : σ),
      (outlet.sendAll sink envelopes m s).1.framesOut.total +
          (outlet.sendAll sink envelopes m s).1.sinkErrors.total +
          UInt64.ofNat (envelopes.countP (isRefused outlet.limit)) =
        m.framesOut.total + m.sinkErrors.total + UInt64.ofNat envelopes.length) ∧
    ∀ (envelopes : List (Envelope π)) (s : σ), envelopes.length < UInt64.size →
      (outlet.sendAll sink envelopes {} s).1.framesOut.total.toNat +
          (outlet.sendAll sink envelopes {} s).1.sinkErrors.total.toNat +
          envelopes.countP (isRefused outlet.limit) = envelopes.length := by
  refine ⟨?_, ?_, ?_⟩
  · intro envelope m s
    obtain ⟨ending, ends⟩ := exists_ends takes outlet envelope m s
    exact ⟨ending, ends, fun other ends' => ends'.eq_told.trans ends.eq_told.symm⟩
  · intro envelopes m s
    obtain ⟨written, failed, framesOut, sinkErrors, all⟩ :=
      sendAll_tallied takes outlet envelopes m s
    rw [framesOut, sinkErrors, ← all, UInt64.ofNat_add, UInt64.ofNat_add]
    ac_rfl
  · intro envelopes s few
    obtain ⟨written, failed, framesOut, sinkErrors, all⟩ :=
      sendAll_tallied takes outlet envelopes {} s
    have zero (n : UInt64) : Metrics.Counter.total {} + n = n := UInt64.zero_add n
    rw [framesOut, sinkErrors, zero, zero, UInt64.toNat_ofNat_of_lt', UInt64.toNat_ofNat_of_lt']
    · exact all
    · omega
    · omega

/-- A frame is written, a write of the next one fails, and the last envelope has none. -/
theorem send_ends_one_way_scripted :
    let envelopes : List Envelope := [.response { correlation := "1" },
      .response { correlation := "2" }, .response { correlation := "a long one" }]
    let m := (sendAll { limit := some 19 } Sink.scripted envelopes {}
      ([some 100, some 5, none], [])).1
    Sink.scripted.Takes Prod.snd ∧ envelopes.length < UInt64.size ∧
      envelopes.countP (isRefused (some 19)) = 1 ∧ m.framesOut.total.toNat = 1 ∧
      m.framesOut.total.toNat + m.sinkErrors.total.toNat + 1 = 3 ∧
      ∃! ending, Ends { limit := some 19 } Sink.scripted Prod.snd envelopes[1] {}
        ([some 5, none], []) ending
        (send { limit := some 19 } Sink.scripted envelopes[1] {} ([some 5, none], [])).1
        (send { limit := some 19 } Sink.scripted envelopes[1] {} ([some 5, none], [])).2.1
        (send { limit := some 19 } Sink.scripted envelopes[1] {} ([some 5, none], [])).2.2 := by
  intro envelopes m
  have few : envelopes.length < UInt64.size := by decide
  obtain ⟨ends, -, adds⟩ :=
    send_ends_one_way (π := Json.Value) Sink.scripted_takes { limit := some 19 }
  refine ⟨Sink.scripted_takes, few, by decide +kernel, by decide +kernel, ?_, ends _ _ _⟩
  have refused : envelopes.countP (isRefused (some 19)) = 1 := by decide +kernel
  have := adds envelopes ([some 100, some 5, none], []) few
  rwa [refused] at this

end Outlet
end Hostlink
