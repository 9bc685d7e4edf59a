import Hostlink.Frame
/-!
The frames of a whole stream. `parse` says what becomes of a stream when all of it is there;
`Frames` says that some bytes are whole frames, which is what a reader has behind it.
-/

namespace Hostlink

namespace Bytes

theorem ofWord_toWord (a b c d : UInt8) : ofWord (toWord a b c d) = [a, b, c, d] := by
  have ha := a.toNat_lt
  have hb := b.toNat_lt
  have hc := c.toNat_lt
  have hd := d.toNat_lt
  simp only [ofWord, toWord, List.cons.injEq, and_true, ← UInt8.toNat_inj, UInt8.toNat_ofNat']
  omega

theorem toWord_le (a b c d : UInt8) : toWord a b c d ≤ Frame.maxLength := by
  have ha := a.toNat_lt
  have hb := b.toNat_lt
  have hc := c.toNat_lt
  have hd := d.toNat_lt
  simp only [toWord, Frame.maxLength, UInt32.size]
  omega

theorem ofWord_eq (n : Nat) :
    ∃ a b c d : UInt8, ofWord n = [a, b, c, d] ∧ (n ≤ Frame.maxLength → toWord a b c d = n) := by
  refine ⟨_, _, _, _, rfl, ?_⟩
  intro h
  simp only [Frame.maxLength, UInt32.size] at h
  simp only [toWord, UInt8.toNat_ofNat']
  omega

@[simp]
theorem length_ofWord (n : Nat) : (ofWord n).length = 4 := by
  rfl

end Bytes

namespace Frame

variable {ε : Type}

/--
What becomes of the frames of a stream of which these are all bytes. A header over the limit ends
the stream, and a frame that is not complete is left out.
-/
def parse (decode : Bytes → Except Fault ε) (limit : Option Nat) :
    Bytes → List (Except Fault ε)
  | a :: b :: c :: d :: rest =>
    let length := Bytes.toWord a b c d
    match limit.filter (· < length) with
    | some max => [.error (.frameTooLarge length max)]
    | none =>
      if rest.length < length then []
      else decode (rest.take length) :: parse decode limit (rest.drop length)
  | _ => []
termination_by bytes => bytes.length
decreasing_by simp only [List.length_cons, List.length_drop]; omega

/-- What follows the first frames of a stream, of which there are so many. -/
def dropFrames : Nat → Bytes → Bytes
  | 0, bytes => bytes
  | count + 1, a :: b :: c :: d :: rest => dropFrames count (rest.drop (Bytes.toWord a b c d))
  | _ + 1, _ => []

/-- Whether a body of this length may stand in a frame. -/
def Fits (limit : Option Nat) (length : Nat) : Prop :=
  limit.filter (· < length) = none ∧ length ≤ maxLength

/-- Bytes that are whole frames, with what becomes of each. -/
inductive Frames (decode : Bytes → Except Fault ε) (limit : Option Nat) :
    Bytes → List (Except Fault ε) → Prop where
  | nil : Frames decode limit [] []
  | cons {body bytes : Bytes} {items : List (Except Fault ε)} (fits : Fits limit body.length)
      (rest : Frames decode limit bytes items) :
      Frames decode limit (Bytes.ofWord body.length ++ body ++ bytes) (decode body :: items)

section parse

variable {decode : Bytes → Except Fault ε} {limit : Option Nat}

@[simp]
theorem parse_nil : parse decode limit [] = [] := by
  simp [parse]

theorem parse_short {bytes : Bytes} (h : bytes.length < 4) : parse decode limit bytes = [] := by
  unfold parse
  split
  · simp at h
    omega
  · rfl

theorem parse_tooLarge {length max : Nat} (rest : Bytes)
    (hmax : limit.filter (· < length) = some max) (hlength : length ≤ maxLength) :
    parse decode limit (Bytes.ofWord length ++ rest) = [.error (.frameTooLarge length max)] := by
  obtain ⟨a, b, c, d, hword, hvalue⟩ := Bytes.ofWord_eq length
  rw [hword]
  simp only [List.cons_append, List.nil_append]
  unfold parse
  simp only [hvalue hlength, hmax]

theorem parse_incomplete {length : Nat} {rest : Bytes} (fits : Fits limit length)
    (h : rest.length < length) : parse decode limit (Bytes.ofWord length ++ rest) = [] := by
  obtain ⟨a, b, c, d, hword, hvalue⟩ := Bytes.ofWord_eq length
  rw [hword]
  simp only [List.cons_append, List.nil_append]
  unfold parse
  simp only [hvalue fits.2, fits.1, h, if_true]

theorem parse_frame {body : Bytes} (rest : Bytes) (fits : Fits limit body.length) :
    parse decode limit (Bytes.ofWord body.length ++ body ++ rest) =
      decode body :: parse decode limit rest := by
  obtain ⟨a, b, c, d, hword, hvalue⟩ := Bytes.ofWord_eq body.length
  rw [hword]
  simp only [List.cons_append, List.nil_append]
  rw [parse]
  have : ¬ (body ++ rest).length < body.length := by
    simp
  simp only [hvalue fits.2, fits.1, this, if_false, List.take_left, List.drop_left]

theorem dropFrames_frame {body : Bytes} (count : Nat) (rest : Bytes)
    (h : body.length ≤ maxLength) :
    dropFrames (count + 1) (Bytes.ofWord body.length ++ body ++ rest) = dropFrames count rest := by
  obtain ⟨a, b, c, d, hword, hvalue⟩ := Bytes.ofWord_eq body.length
  rw [hword]
  simp only [List.cons_append, List.nil_append, dropFrames, hvalue h, List.drop_left]

end parse

namespace Frames

variable {decode : Bytes → Except Fault ε} {limit : Option Nat} {bytes : Bytes}
  {items : List (Except Fault ε)}

theorem parse_append (frames : Frames decode limit bytes items) (rest : Bytes) :
    parse decode limit (bytes ++ rest) = items ++ parse decode limit rest := by
  induction frames with
  | nil => rfl
  | cons fits _ ih =>
    rw [List.append_assoc, parse_frame _ fits, ih]
    rfl

theorem parse_eq (frames : Frames decode limit bytes items) : parse decode limit bytes = items := by
  have := frames.parse_append []
  simpa using this

theorem dropFrames_append (frames : Frames decode limit bytes items) (rest : Bytes) :
    dropFrames items.length (bytes ++ rest) = rest := by
  induction frames with
  | nil => rfl
  | cons fits _ ih =>
    rw [List.append_assoc, List.length_cons, dropFrames_frame _ _ fits.2, ih]

theorem snoc (frames : Frames decode limit bytes items) {body : Bytes}
    (fits : Fits limit body.length) :
    Frames decode limit (bytes ++ (Bytes.ofWord body.length ++ body)) (items ++ [decode body]) := by
  -- frames are built from the front, but a reader adds them at the end
  induction frames with
  | nil =>
    have : Frames decode limit (Bytes.ofWord body.length ++ body ++ []) [decode body] :=
      .cons fits .nil
    simpa using this
  | cons fits' _ ih =>
    rw [List.append_assoc]
    exact .cons fits' ih

end Frames
end Frame
end Hostlink
