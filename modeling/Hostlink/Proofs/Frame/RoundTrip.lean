import Hostlink.Proofs.Frame.Calls
import Hostlink.Proofs.Wire
/-!
Frames that were written one after the other are read as the envelopes that they were written for.
-/

namespace Hostlink

theorem Wire.recovers_decode {α : Type} [Json.Decode α] :
    Frame.Recovers (Wire.decode : Bytes → Except Fault α) := by
  intro body
  unfold Wire.decode
  cases (Json.read body : Except Json.Mismatch α) <;> rfl

namespace Frame

namespace Reader

variable {ε : Type} {decode : Bytes → Except Fault ε} {limit : Option Nat} {stream : Bytes}
  {items : List (Except Fault ε)} {r : Reader}

/-- Taking all frames gives what is left of what becomes of the stream. -/
theorem Follows.drain (recovers : Recovers decode) (follows : Follows decode limit stream items r)
    (sound : r.Sound) (hlimit : r.limit = limit) (live : r.oversized = none) :
    items ++ (drain decode r).1 = parse decode limit stream ∧
      Follows decode limit stream (parse decode limit stream) (drain decode r).2 := by
  -- the items that were taken before belong to the invariant, so the induction generalizes them
  fun_induction Reader.drain decode r generalizing items with
  | case1 r after h =>
    have following := follows.next sound hlimit
    obtain ⟨all, -⟩ := follows.of_none sound hlimit h
    rw [h] at following
    rw [← all]
    simpa using following
  | case2 r outcome after h goesOn more last rest ih =>
    have step := next_step decode sound
    have following := follows.next sound hlimit
    have sound' := next_sound decode sound
    have limit' := next_limit decode r
    rw [h] at step following sound' limit'
    -- after a header over the limit draining would have stopped
    have live' : after.oversized = none := by
      cases step with
      | ended => exact live
      | frame _ live' => exact live'
      | tooLarge => contradiction
    have both := ih following sound' (limit'.trans hlimit) live'
    rw [rest, List.append_assoc] at both
    exact both
  | case3 r outcome after h stops =>
    have step := next_step decode sound
    have following := follows.next sound hlimit
    rw [h] at step following
    obtain ⟨bytes, frames, split⟩ := follows.of_live live
    have all : items ++ [outcome] = parse decode limit stream := by
      cases step with
      | ended oversized => exact nomatch live.symm.trans oversized
      | frame => exact absurd (recovers _) stops
      | tooLarge _ _ split' exceeds le =>
        rw [hlimit] at exceeds
        rw [split, frames.parse_append, split', parse_tooLarge _ exceeds le]
    rw [← all]
    exact ⟨rfl, following⟩

theorem feedAll_cons (live : r.oversized = none) {chunk : Bytes} (h : chunk ≠ []) :
    feedAll decode r chunk = drain decode (r.push chunk) := by
  rw [drain]
  unfold feedAll
  rw [feed_cons live h]
  cases next decode (r.push chunk) with
  | mk outcome after => cases outcome <;> rfl

theorem feedAll_frames (recovers : Recovers decode) (frames : Frames decode limit stream items) :
    (feedAll decode { limit } stream).1 = items ∧
      (feedAll decode { limit } stream).2.buffered = 0 ∧
      (feedAll decode { limit } stream).2.midFrame = false := by
  cases stream with
  | nil =>
    rw [← frames.parse_eq, parse_nil]
    exact ⟨rfl, rfl, rfl⟩
  | cons b bytes =>
    have follows := (follows_new decode limit).push rfl (b :: bytes)
    rw [feedAll_cons rfl (List.cons_ne_nil b bytes)]
    obtain ⟨all, following⟩ := follows.drain recovers ((sound_new limit).push _) rfl rfl
    rw [List.nil_append, List.nil_append, frames.parse_eq] at all
    rw [List.nil_append, frames.parse_eq] at following
    have live := following.live_of_not_tooLarge (frames.not_tooLarge recovers)
    have pending := following.pending_eq live
    have dropped := frames.dropFrames_append []
    rw [List.append_nil] at dropped
    rw [dropped] at pending
    have length := length_pending live
    rw [pending, List.length_nil] at length
    refine ⟨all, by omega, ?_⟩
    cases mid : (Reader.drain decode _).2.midFrame with
    | false => rfl
    | true =>
      rw [mid, if_pos rfl] at length
      omega

end Reader

theorem ofBody_eq (limit : Option Nat) (body : Bytes) :
    ofBody limit body =
      if body.length ≤ min (limit.getD maxLength) maxLength then
        .ok (Bytes.ofWord body.length ++ body)
      else if limit.getD maxLength < body.length then
        .error (.frameTooLarge body.length (limit.getD maxLength))
      else .error (.frameTooLarge body.length maxLength) := by
  unfold ofBody
  by_cases le : body.length ≤ min (limit.getD maxLength) maxLength
  · rw [if_pos le, if_neg (by omega), if_neg (by omega)]
  · rw [if_neg le]
    by_cases exceeds : limit.getD maxLength < body.length
    · rw [if_pos exceeds, if_pos exceeds]
    · rw [if_neg exceeds, if_neg exceeds, if_pos (by omega)]

theorem fits_iff {limit : Option Nat} {length : Nat} :
    Fits limit length ↔ length ≤ min (limit.getD maxLength) maxLength := by
  cases limit with
  | none => simp [Fits]
  | some max =>
    have within : (some max).filter (· < length) = none ↔ length ≤ max := by
      rw [Option.filter_eq_none_iff]
      simp
    rw [Fits, within, Option.getD_some, Nat.le_min]

theorem encode_eq (limit : Option Nat) (envelope : Envelope) :
    encode limit envelope = ofBody limit (Wire.body envelope) := by
  unfold encode
  rw [Wire.encode_eq]
  rfl

theorem of_encode_eq_ok {limit : Option Nat} {envelope : Envelope} {frame : Bytes}
    (h : encode limit envelope = .ok frame) :
    Fits limit (Wire.body envelope).length ∧
      frame = Bytes.ofWord (Wire.body envelope).length ++ Wire.body envelope := by
  rw [encode_eq, ofBody_eq] at h
  split at h
  · next le =>
    rw [Except.ok.inj h]
    exact ⟨fits_iff.2 le, rfl⟩
  · split at h <;> contradiction

theorem frames_of_encode {limit : Option Nat} {envelopes : List Envelope} {frames : List Bytes}
    (portable : ∀ envelope ∈ envelopes, envelope.Portable)
    (encoded : List.Forall₂ (fun envelope frame => encode limit envelope = .ok frame)
      envelopes frames) :
    Frames Wire.decode limit frames.flatten (envelopes.map .ok) := by
  induction encoded with
  | nil => exact .nil
  | @cons envelope frame envelopes frames first _ ih =>
    obtain ⟨fits, rfl⟩ := of_encode_eq_ok first
    have rest := ih fun envelope mem => portable envelope (by simp [mem])
    rw [List.flatten_cons, List.map_cons, ← Wire.decode_body (portable envelope (by simp))]
    exact .cons fits rest

/--
An envelope has a frame exactly when its body is neither over the limit nor over what a header can
tell, and the frame is the length of the body and the body. Frames of envelopes are read as the
envelopes, one after the other and equal in every part, and nothing is left over.
-/
theorem feedAll_encode (limit : Option Nat) :
    (∀ envelope : Envelope, ∃ body, Wire.encode envelope = .ok body ∧
      encode limit envelope =
        if body.length ≤ min (limit.getD maxLength) maxLength then
          .ok (Bytes.ofWord body.length ++ body)
        else if limit.getD maxLength < body.length then
          .error (.frameTooLarge body.length (limit.getD maxLength))
        else .error (.frameTooLarge body.length maxLength)) ∧
    (∀ (envelopes : List Envelope) (frames : List Bytes),
      (∀ envelope ∈ envelopes, envelope.Portable) →
      List.Forall₂ (fun envelope frame => encode limit envelope = .ok frame) envelopes frames →
      let result : List (Except Fault Envelope) × Reader :=
        Reader.feedAll Wire.decode { limit } frames.flatten
      result.1 = envelopes.map .ok ∧ result.2.buffered = 0 ∧ result.2.midFrame = false) := by
  constructor
  · intro envelope
    refine ⟨Wire.body envelope, Wire.encode_eq envelope, ?_⟩
    rw [encode_eq, ofBody_eq]
  · intro envelopes frames portable encoded
    exact Reader.feedAll_frames Wire.recovers_decode (frames_of_encode portable encoded)

theorem feedAll_encode_request_response :
    let request : Request :=
      { path := "/a", correlation := "1", payload := some (.object [("k", .array [.number (.int 7)])])
        path_ne := by decide }
    let response : Response := { correlation := "1", payload := some .null }
    let envelopes : List Envelope := [.request request, .response response]
    let frames := envelopes.map fun e => Bytes.ofWord (Wire.body e).length ++ Wire.body e
    (∀ envelope ∈ envelopes, envelope.Portable) ∧
    List.Forall₂ (fun envelope frame => encode (some 64) envelope = .ok frame) envelopes frames ∧
    (Reader.feedAll Wire.decode { limit := some 64 } frames.flatten).1 = envelopes.map Except.ok := by
  intro request response envelopes frames
  have portable : ∀ envelope ∈ envelopes, envelope.Portable := by
    intro envelope mem
    simp only [envelopes, List.mem_cons, List.not_mem_nil, or_false] at mem
    obtain rfl | rfl := mem
    · refine ⟨?_, ?_, ?_⟩ <;> rintro v ⟨⟩
      · have seven : Json.Number.minInt ≤ 7 ∧ 7 ≤ Json.Number.maxInt := by decide
        exact ⟨⟨seven, trivial⟩, trivial⟩
      · decide
      · simp [Json.Value.normal, Json.Value.normalMembers, Json.Value.normalItems, Json.sortMembers,
          Json.keepLast]
    · refine ⟨?_, ?_, ?_⟩ <;> rintro v ⟨⟩
      · trivial
      · decide
      · rfl
  have encoded : List.Forall₂ (fun envelope frame => encode (some 64) envelope = .ok frame)
      envelopes frames := by
    refine .cons ?_ (.cons ?_ .nil)
    · rw [encode_eq, ofBody_eq, if_pos (by decide +kernel)]
    · rw [encode_eq, ofBody_eq, if_pos (by decide +kernel)]
  exact ⟨portable, encoded, ((feedAll_encode (some 64)).2 envelopes frames portable encoded).1⟩

end Frame
end Hostlink
