import Hostlink.Frame
import Hostlink.Metrics.Registry
/-!
The incoming side: a source of bytes, which may have none at the moment, and the envelopes that are
read from it. All frames that are complete are taken before more bytes are asked for.
-/

namespace Hostlink

/-- Something that arrives at a source. -/
inductive Arrival where
  | data (bytes : Bytes)
  /-- Reading fails, for a reason. -/
  | failure (reason : String)
deriving Repr, DecidableEq, Inhabited

/-- A source of bytes: what has arrived, and whether that is all. -/
structure Source where
  arrivals : List Arrival := []
  isEnded : Bool := false
deriving Repr, DecidableEq, Inhabited

namespace Source

/-- What an arrival counts for: more than its bytes do once they are read. -/
def arrivalWeight : Arrival → Nat
  | .data bytes => 2 * bytes.length + 1
  | .failure _ => 1

/-- A bound on what can still be read. -/
def weight (source : Source) : Nat :=
  source.arrivals.foldr (arrivalWeight · + ·) 0

/--
Read at most `limit` bytes, and at least as many as one: nothing, if there are none at the moment;
no bytes, if there never will be. What did not fit is read the next time.
-/
def read (source : Source) (limit : Nat) : Option (Except String Bytes) × Source :=
  match source.arrivals with
  | [] => (if source.isEnded then some (.ok []) else none, source)
  | .failure reason :: rest => (some (.error reason), { source with arrivals := rest })
  | .data bytes :: rest =>
    let limit := max limit 1
    match bytes.drop limit with
    | [] => (some (.ok bytes), { source with arrivals := rest })
    | later => (some (.ok (bytes.take limit)), { source with arrivals := .data later :: rest })

theorem read_weight_lt {source after : Source} {limit : Nat} {b : UInt8} {bytes : Bytes}
    (h : source.read limit = (some (.ok (b :: bytes)), after)) :
    after.weight + bytes.length + 1 < source.weight := by
  obtain ⟨arrivals, isEnded⟩ := source
  cases arrivals with
  | nil => cases isEnded <;> simp [read] at h
  | cons arrival rest =>
    cases arrival with
    | failure reason => simp [read] at h
    | data all =>
      simp only [read] at h
      split at h
      · simp only [Prod.mk.injEq, Option.some.injEq, Except.ok.injEq] at h
        obtain ⟨rfl, rfl⟩ := h
        simp [weight, arrivalWeight]
        omega
      · simp only [Prod.mk.injEq, Option.some.injEq, Except.ok.injEq] at h
        obtain ⟨htake, rfl⟩ := h
        have hlen := congrArg List.length htake
        simp only [List.length_take, List.length_cons] at hlen
        simp [weight, arrivalWeight]
        omega

end Source

/-- What the incoming side gives. -/
inductive Reading where
  | envelope (envelope : Envelope)
  /-- Nothing, until more arrives. -/
  | blocked
  | ended
  | failed (fault : Fault)

/-- The incoming side of a link. -/
structure Intake where
  reader : Frame.Reader := {}
  source : Source := {}
  /-- The number of bytes that are asked for at once. -/
  chunk : Nat := 8192
deriving Repr, Inhabited

namespace Metrics

/-- Count an envelope that was read. -/
def countIn (m : Metrics) (envelope : Envelope) : Metrics :=
  { m with framesIn := m.framesIn.increment [("kind", envelope.kind)] }

/-- Count a frame that is no envelope. -/
def countMalformed (m : Metrics) : Metrics :=
  { m with malformedFrames := m.malformedFrames.increment [] }

end Metrics

namespace Intake

/-- The envelope in the body of a frame. -/
def decode : Bytes → Except Fault Envelope :=
  Wire.decode

/-- A bound on what the incoming side can still give. -/
def weight (intake : Intake) : Nat :=
  intake.source.weight + intake.reader.weight

/-- The next envelope. Frames that are none are counted and passed over. -/
def next (m : Metrics) (intake : Intake) : Reading × Intake × Metrics :=
  match _h : intake.reader.next decode with
  | (some (.ok envelope), reader) =>
    (.envelope envelope, { intake with reader }, m.countIn envelope)
  | (some (.error fault), reader) =>
    if fault.recoverable then next m.countMalformed { intake with reader }
    else (.failed fault, { intake with reader }, m)
  | (none, reader) =>
    match _r : intake.source.read intake.chunk with
    | (none, _) => (.blocked, { intake with reader }, m)
    | (some (.error reason), source) =>
      (.failed (.internal ("read failed: " ++ reason)), { intake with reader, source }, m)
    | (some (.ok []), source) => (.ended, { intake with reader, source }, m)
    | (some (.ok (b :: bytes)), source) =>
      next m { intake with reader := reader.push (b :: bytes), source }
termination_by intake.weight
decreasing_by
  · have := Frame.Reader.next_weight_lt decode (r := intake.reader)
      (by simpa [_h, Frame.Reader.goesOn] using ‹fault.recoverable = true›)
    simp only [_h] at this
    simp only [weight]
    omega
  · have := Frame.Reader.next_weight_le decode _h
    have := Source.read_weight_lt _r
    simp only [weight, Frame.Reader.weight_push, List.length_cons]
    omega

/-- Each envelope has used something up. -/
theorem next_weight_lt {m after : Metrics} {intake rest : Intake} {envelope : Envelope}
    (h : intake.next m = (.envelope envelope, rest, after)) : rest.weight < intake.weight := by
  fun_induction next m intake with
  | case1 m intake envelope reader hr =>
    simp only [Prod.mk.injEq] at h
    have := Frame.Reader.next_weight_lt decode (r := intake.reader)
      (by simp [hr, Frame.Reader.goesOn])
    simp only [hr] at this
    simp only [← h.2.1, weight]
    omega
  | case2 m intake fault reader hr hf ih =>
    have := Frame.Reader.next_weight_lt decode (r := intake.reader)
      (by simpa [hr, Frame.Reader.goesOn] using hf)
    simp only [hr] at this
    have := ih h
    simp only [weight] at this ⊢
    omega
  | case7 m intake reader hr b bytes source hs ih =>
    have := Frame.Reader.next_weight_le decode hr
    have := Source.read_weight_lt hs
    have := ih h
    simp only [weight, Frame.Reader.weight_push, List.length_cons] at this ⊢
    omega
  | _ => simp at h

/-- All envelopes that can be read now, in order, and why there are no more. -/
def drain (m : Metrics) (intake : Intake) : List Envelope × Reading × Intake × Metrics :=
  match _h : intake.next m with
  | (.envelope envelope, rest, after) =>
    let (more, last) := drain after rest
    (envelope :: more, last)
  | last => ([], last)
termination_by intake.weight
decreasing_by exact next_weight_lt _h

/--
Read until the input is over, and give each envelope to every subscriber in turn, who is known by
what it does to a state. Tells how the input was over, if it was.
-/
def run {τ : Type} (subscribers : List (Envelope → τ → τ)) (m : Metrics) (intake : Intake) (t : τ) :
    Option (Except Fault Unit) × τ × Intake × Metrics :=
  match _h : intake.next m with
  | (.envelope envelope, rest, after) =>
    run subscribers after rest (subscribers.foldl (fun t tell => tell envelope t) t)
  | (.ended, last) => (some (.ok ()), t, last)
  | (.failed fault, last) => (some (.error fault), t, last)
  | (.blocked, last) => (none, t, last)
termination_by intake.weight
decreasing_by exact next_weight_lt _h

end Intake
end Hostlink
