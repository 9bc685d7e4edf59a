import Hostlink.Proofs.Frame.Stream
/-!
A reader gives what `parse` makes of the stream, however the stream is cut into chunks and whenever
frames are asked for.
-/

namespace Hostlink.Frame.Reader

variable {ε : Type} {decode : Bytes → Except Fault ε}

/--
What a reader has of the stream from the next frame on: a header that has been used counts as well.
Behind a header over the limit nothing is kept.
-/
def pending (r : Reader) : Bytes :=
  match r.oversized, r.expected with
  | some (length, _), _ => Bytes.ofWord length
  | none, some length => Bytes.ofWord length ++ r.buffer.toList
  | none, none => r.buffer.toList

/-- The headers that a reader remembers have been held against its limit. -/
structure Sound (r : Reader) : Prop where
  fits_expected : ∀ {length}, r.expected = some length → Fits r.limit length
  of_oversized : ∀ {length max}, r.oversized = some (length, max) →
    r.limit.filter (· < length) = some max ∧ length ≤ maxLength

/-- Less is there than the next header, or the body that it told, needs. -/
def Short (r : Reader) : Prop :=
  r.buffer.size < r.expected.getD 4

/-- What taking the next frame can come to. -/
inductive Step (decode : Bytes → Except Fault ε) (r : Reader) : Outcome ε → Reader → Prop where
  | ended {length max : Nat} (oversized : r.oversized = some (length, max)) :
      Step decode r (some (.error (.frameTooLarge length max))) r
  | stalled {after : Reader} (live : r.oversized = none) (live' : after.oversized = none)
      (same : after.pending = r.pending) (short : after.Short) : Step decode r none after
  | frame {after : Reader} {body : Bytes} (live : r.oversized = none)
      (live' : after.oversized = none) (fits : Fits r.limit body.length)
      (split : r.pending = Bytes.ofWord body.length ++ body ++ after.pending) :
      Step decode r (some (decode body)) after
  | tooLarge {after : Reader} {length max : Nat} {rest : Bytes} (live : r.oversized = none)
      (oversized : after.oversized = some (length, max))
      (split : r.pending = Bytes.ofWord length ++ rest)
      (exceeds : r.limit.filter (· < length) = some max) (le : length ≤ maxLength) :
      Step decode r (some (.error (.frameTooLarge length max))) after

theorem pending_of_expected {r : Reader} {length : Nat} (live : r.oversized = none)
    (h : r.expected = some length) : r.pending = Bytes.ofWord length ++ r.buffer.toList := by
  simp only [pending, live, h]

theorem pending_of_between {r : Reader} (live : r.oversized = none) (h : r.expected = none) :
    r.pending = r.buffer.toList := by
  simp only [pending, live, h]

theorem pending_of_oversized {r : Reader} {length max : Nat}
    (h : r.oversized = some (length, max)) : r.pending = Bytes.ofWord length := by
  simp only [pending, h]

theorem pending_push {r : Reader} (live : r.oversized = none) (chunk : Bytes) :
    (r.push chunk).pending = r.pending ++ chunk := by
  unfold pending push
  simp only [live]
  split
  · contradiction
  · rw [Bytes.Queue.toList_push, List.append_assoc]
  · rw [Bytes.Queue.toList_push]

theorem Sound.push {r : Reader} (sound : r.Sound) (chunk : Bytes) : (r.push chunk).Sound :=
  ⟨sound.fits_expected, sound.of_oversized⟩

theorem sound_new (limit : Option Nat) : Sound { limit } :=
  ⟨nofun, nofun⟩

theorem parse_pending_of_short {r : Reader} (sound : r.Sound) (live : r.oversized = none)
    (short : r.Short) : parse decode r.limit r.pending = [] := by
  unfold Short at short
  rw [← Bytes.Queue.length_toList] at short
  cases he : r.expected with
  | none =>
    rw [he, Option.getD_none] at short
    rw [pending_of_between live he]
    exact parse_short short
  | some length =>
    rw [he, Option.getD_some] at short
    rw [pending_of_expected live he]
    exact parse_incomplete (sound.fits_expected he) short

theorem length_pending {r : Reader} (live : r.oversized = none) :
    r.pending.length = r.buffered + if r.midFrame then 4 else 0 := by
  unfold midFrame buffered
  rw [← Bytes.Queue.length_toList]
  cases he : r.expected with
  | none =>
    rw [pending_of_between live he]
    rfl
  | some length =>
    rw [pending_of_expected live he, List.length_append, Bytes.length_ofWord]
    exact Nat.add_comm _ _

theorem takeBody_step {r header : Reader} {length : Nat} (live : r.oversized = none)
    (live' : header.oversized = none) (fits : Fits r.limit length)
    (split : r.pending = Bytes.ofWord length ++ header.buffer.toList) :
    Step decode r (takeBody decode header length).1 (takeBody decode header length).2 := by
  unfold takeBody
  cases ht : header.buffer.take? length with
  | none =>
    have short := Bytes.Queue.take?_eq_none ht
    dsimp only
    refine Step.stalled live live' ?_ short
    -- the header has left the buffer, but it is still pending as the length that is remembered
    rw [split]
    exact pending_of_expected live' rfl
  | some taken =>
    obtain ⟨body, buffer⟩ := taken
    obtain ⟨hbody, hrest, hsize⟩ := Bytes.Queue.of_take?_eq_some ht
    have hlength : body.length = length := by
      rw [hbody, List.length_take, Bytes.Queue.length_toList]
      omega
    have hsplit : header.buffer.toList = body ++ buffer.toList := by
      rw [hbody, hrest, List.take_append_drop]
    dsimp only
    refine Step.frame live live' ?_ ?_
    · rw [hlength]
      exact fits
    · rw [split, hsplit, hlength, List.append_assoc]
      rw [pending_of_between (by exact live') rfl]

/-- Every way in which taking the next frame can go is a step. -/
theorem next_step (decode : Bytes → Except Fault ε) {r : Reader} (sound : r.Sound) :
    Step decode r (next decode r).1 (next decode r).2 := by
  unfold next
  cases live : r.oversized with
  | some oversized => exact .ended live
  | none =>
    cases he : r.expected with
    | some length =>
      exact takeBody_step live live (sound.fits_expected he) (pending_of_expected live he)
    | none =>
      have split := pending_of_between live he
      dsimp only
      split
      · next a b c d buffer ht =>
        obtain ⟨hword, hrest, -⟩ := Bytes.Queue.of_take?_eq_some ht
        have le := Bytes.toWord_le a b c d
        have header : r.pending = Bytes.ofWord (Bytes.toWord a b c d) ++ buffer.toList := by
          rw [split, Bytes.ofWord_toWord, hword, hrest, List.take_append_drop]
        cases hl : r.limit.filter (· < Bytes.toWord a b c d) with
        | some max => exact .tooLarge live rfl header hl le
        | none => exact takeBody_step live rfl ⟨hl, le⟩ header
      · next hno =>
        refine Step.stalled live live rfl ?_
        show r.buffer.size < r.expected.getD 4
        rw [he, Option.getD_none]
        -- four bytes would have been taken
        apply Decidable.byContradiction
        intro h4
        have hsome : r.buffer.take? 4 ≠ none := by
          intro hnone
          have := Bytes.Queue.take?_eq_none hnone
          omega
        obtain ⟨⟨word, buffer⟩, ht⟩ := Option.ne_none_iff_exists'.1 hsome
        obtain ⟨hword, -, hsize⟩ := Bytes.Queue.of_take?_eq_some ht
        have hlength : word.length = 4 := by
          rw [hword, List.length_take, Bytes.Queue.length_toList]
          omega
        match word, hlength with
        | [a, b, c, d], _ => exact hno a b c d buffer ht

theorem takeBody_limit (r : Reader) (length : Nat) :
    (takeBody decode r length).2.limit = r.limit := by
  unfold takeBody
  split <;> rfl

theorem next_limit (decode : Bytes → Except Fault ε) (r : Reader) :
    (next decode r).2.limit = r.limit := by
  unfold next
  split
  · rfl
  · split
    · apply takeBody_limit
    · split
      · dsimp only
        split
        · rfl
        · apply takeBody_limit
      · rfl

theorem takeBody_sound {r : Reader} {length : Nat} (live : r.oversized = none)
    (fits : Fits r.limit length) : (takeBody decode r length).2.Sound := by
  unfold takeBody
  split
  · constructor
    · intro length' h
      rw [← Option.some.inj h]
      exact fits
    · intro length' max h
      rw [show r.oversized = some _ from h] at live
      contradiction
  · constructor
    · nofun
    · intro length' max h
      rw [show r.oversized = some _ from h] at live
      contradiction

theorem next_sound (decode : Bytes → Except Fault ε) {r : Reader} (sound : r.Sound) :
    (next decode r).2.Sound := by
  unfold next
  cases live : r.oversized with
  | some oversized => exact sound
  | none =>
    dsimp only
    split
    · next length he => exact takeBody_sound live (sound.fits_expected he)
    · next he =>
      split
      · next a b c d buffer ht =>
        have le := Bytes.toWord_le a b c d
        cases hl : r.limit.filter (· < Bytes.toWord a b c d) with
        | some max =>
          constructor
          · intro length h
            rw [show r.expected = some _ from h] at he
            contradiction
          · intro length max' h
            have h := Option.some.inj h
            simp only [Prod.mk.injEq] at h
            rw [← h.1, ← h.2]
            exact ⟨hl, le⟩
        | none => exact takeBody_sound rfl ⟨hl, le⟩
      · exact sound

end Hostlink.Frame.Reader
