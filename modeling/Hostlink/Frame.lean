import Hostlink.Bytes.Queue
import Hostlink.Wire
/-!
Frames: an envelope on the stream is its length, as a big-endian word of four bytes, and its body. A
reader takes the stream in chunks of any size and gives the envelopes one by one.
-/

namespace Hostlink.Frame

/-- The greatest length that a header can tell. -/
def maxLength : Nat := UInt32.size - 1

/-- The length of a segment of output, if nothing else is said. -/
def segmentLength : Nat := 1024

/-- Put a header in front of a body. -/
def ofBody (limit : Option Nat) (body : Bytes) : Except Fault Bytes :=
  let max := limit.getD maxLength
  if max < body.length then .error (.frameTooLarge body.length max)
  else if maxLength < body.length then .error (.frameTooLarge body.length maxLength)
  else .ok (Bytes.ofWord body.length ++ body)

/-- The frame of an envelope, whose body may be limited. -/
def encode {π : Type} [Json.Encode π] (limit : Option Nat) (envelope : Envelope π) :
    Except Fault Bytes := do
  ofBody limit (← Wire.encode envelope)

/-- The state of reading a stream of frames. -/
structure Reader where
  /-- The greatest length of a body that is accepted. -/
  limit : Option Nat := none
  /-- What was read and not yet used. -/
  buffer : Bytes.Queue := .empty
  /-- The length of the body that comes next, once its header has been used. -/
  expected : Option Nat := none
  /-- The length and the limit of a header that ended the stream. -/
  oversized : Option (Nat × Nat) := none
deriving Repr, Inhabited

namespace Reader

variable {ε : Type}

/-- The number of bytes that were read and not yet used. -/
def buffered (r : Reader) : Nat :=
  r.buffer.size

/-- Whether a header has been used and its body is not complete. -/
def midFrame (r : Reader) : Bool :=
  r.expected.isSome

/-- What a reader gives: nothing yet, or what became of a frame. -/
abbrev Outcome (ε : Type) := Option (Except Fault ε)

/-- Take the body of the next frame, if it is complete. -/
def takeBody (decode : Bytes → Except Fault ε) (r : Reader) (length : Nat) : Outcome ε × Reader :=
  match r.buffer.take? length with
  | none => (none, { r with expected := some length })
  | some (body, buffer) => (some (decode body), { r with buffer, expected := none })

/-- Take the next frame out of what was read. -/
def next (decode : Bytes → Except Fault ε) (r : Reader) : Outcome ε × Reader :=
  match r.oversized with
  | some (length, limit) => (some (.error (.frameTooLarge length limit)), r)
  | none =>
    match r.expected with
    | some length => takeBody decode r length
    | none =>
      match r.buffer.take? 4 with
      | some ([a, b, c, d], buffer) =>
        let length := Bytes.toWord a b c d
        match r.limit.filter (· < length) with
        | some limit =>
          (some (.error (.frameTooLarge length limit)),
            { r with buffer := .empty, oversized := some (length, limit) })
        | none => takeBody decode { r with buffer } length
      | _ => (none, r)

/-- Add a chunk of the stream to what was read. -/
def push (r : Reader) (chunk : Bytes) : Reader :=
  { r with buffer := r.buffer.push chunk }

@[simp]
theorem buffered_push (r : Reader) (chunk : Bytes) :
    (r.push chunk).buffered = r.buffered + chunk.length := rfl

/-- Read a chunk of the stream, and take the next frame. An empty chunk changes nothing. -/
def feed (decode : Bytes → Except Fault ε) (r : Reader) (chunk : Bytes) : Outcome ε × Reader :=
  match r.oversized with
  | some (length, limit) => (some (.error (.frameTooLarge length limit)), r)
  | none =>
    if chunk.isEmpty then (none, r)
    else next decode (r.push chunk)

/-- Whether reading goes on after an outcome: not after nothing, nor after a fault that is final. -/
def goesOn : Outcome ε → Bool
  | none => false
  | some (.ok _) => true
  | some (.error fault) => fault.recoverable

/-- A bound on the number of frames that a reader can still give. -/
def weight (r : Reader) : Nat :=
  r.buffer.size + if r.expected.isSome then 1 else 0

theorem takeBody_weight_le (decode : Bytes → Except Fault ε) {r : Reader} {length : Nat}
    (h : goesOn (takeBody decode r length).1 = true) :
    (takeBody decode r length).2.weight ≤ r.buffer.size := by
  unfold takeBody at h ⊢
  cases ht : r.buffer.take? length with
  | none => simp [ht, goesOn] at h
  | some taken =>
    have := (Bytes.Queue.of_take?_eq_some ht).2.2
    simp only [weight, Option.isSome_none, Bool.false_eq_true, if_false]
    omega

/-- Each frame that reading goes on after has used something up. -/
theorem next_weight_lt (decode : Bytes → Except Fault ε) {r : Reader}
    (h : goesOn (next decode r).1 = true) : (next decode r).2.weight < r.weight := by
  obtain ⟨limit, buffer, expected, oversized⟩ := r
  cases oversized with
  | some p => simp [next, goesOn, Fault.recoverable] at h
  | none =>
    cases expected with
    | some length =>
      simp only [next] at h ⊢
      have := takeBody_weight_le decode h
      simp only [weight, Option.isSome_some, if_true] at this ⊢
      omega
    | none =>
      simp only [next] at h ⊢
      split at h
      · next a b c d rest ht =>
        have size := (Bytes.Queue.of_take?_eq_some ht).2.2
        cases hl : limit.filter (· < Bytes.toWord a b c d) with
        | some limit => simp [hl, goesOn, Fault.recoverable] at h
        | none =>
          simp only [hl] at h ⊢
          have := takeBody_weight_le decode h
          simp only [weight] at this ⊢
          omega
      · simp [goesOn] at h

theorem takeBody_weight_none (decode : Bytes → Except Fault ε) {r after : Reader} {length : Nat}
    (h : takeBody decode r length = (none, after)) : after.weight = r.buffer.size + 1 := by
  unfold takeBody at h
  split at h
  · simp only [Prod.mk.injEq, true_and] at h
    simp [← h, weight]
  · simp at h

/-- Looking for a frame in vain uses nothing up but a header. -/
theorem next_weight_le (decode : Bytes → Except Fault ε) {r after : Reader}
    (h : next decode r = (none, after)) : after.weight ≤ r.weight := by
  obtain ⟨limit, buffer, expected, oversized⟩ := r
  cases oversized with
  | some p => simp [next] at h
  | none =>
    cases expected with
    | some length =>
      have := takeBody_weight_none decode (by simpa only [next] using h)
      simp only [weight, Option.isSome_some, if_true] at this ⊢
      omega
    | none =>
      simp only [next] at h
      split at h
      · next a b c d rest ht =>
        have size := (Bytes.Queue.of_take?_eq_some ht).2.2
        cases hl : limit.filter (· < Bytes.toWord a b c d) with
        | some limit => simp [hl] at h
        | none =>
          simp only [hl] at h
          have := takeBody_weight_none decode h
          simp only [weight] at this ⊢
          omega
      · simp only [Prod.mk.injEq, true_and] at h
        simp [← h]

@[simp]
theorem weight_push (r : Reader) (chunk : Bytes) :
    (r.push chunk).weight = r.weight + chunk.length := by
  simp only [push, weight, Bytes.Queue.push]
  exact Nat.add_right_comm _ _ _

/-- Take frames out of what was read until there is none, or a fault is final. -/
def drain (decode : Bytes → Except Fault ε) (r : Reader) : List (Except Fault ε) × Reader :=
  match _h : next decode r with
  | (none, after) => ([], after)
  | (some outcome, after) =>
    if goesOn (some outcome) then
      let (more, last) := drain decode after
      (outcome :: more, last)
    else ([outcome], after)
termination_by r.weight
decreasing_by
  have := next_weight_lt decode (r := r) (by simpa [_h] using ‹goesOn (some outcome) = true›)
  simpa [_h] using this

/-- Read a chunk of the stream, and take all frames that are complete. -/
def feedAll (decode : Bytes → Except Fault ε) (r : Reader) (chunk : Bytes) :
    List (Except Fault ε) × Reader :=
  match feed decode r chunk with
  | (none, after) => ([], after)
  | (some outcome, after) =>
    if goesOn (some outcome) then
      let (more, last) := drain decode after
      (outcome :: more, last)
    else ([outcome], after)

end Reader
end Hostlink.Frame
