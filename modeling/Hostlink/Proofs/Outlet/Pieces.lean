import Hostlink.Proofs.Outlet
/-!
What is left on a sink that may fail at any time and may take less than it is given. Each envelope
leaves a piece of its frame there: all of it, a beginning of it, or nothing. Up to the first frame
that is cut, the sink has a beginning of whole frames. Sending goes on behind it, and whoever reads
what was taken takes the bytes that follow for the rest of the frame that was cut.
-/

namespace Hostlink

open Hostlink.Frame (parse)

variable {σ π : Type}

namespace Sink

/-- What a sink takes, whatever it does: of each write as many bytes as it tells. -/
structure Takes (sink : Sink σ) (taken : σ → Bytes) : Prop where
  write : ∀ {bytes s n s'}, sink.write bytes s = (.ok n, s') → taken s' = taken s ++ bytes.take n
  failure : ∀ {bytes s reason s'}, sink.write bytes s = (.error reason, s') → taken s' = taken s
  flush : ∀ s, taken (sink.flush s).2 = taken s

/--
A sink that does as it is told in advance: each write takes at most so many bytes, or fails. After
that it takes everything.
-/
def scripted : Sink (List (Option Nat) × Bytes) where
  write
    | bytes, ([], kept) => (.ok bytes.length, ([], kept ++ bytes))
    | bytes, (some n :: script, kept) => (.ok (min n bytes.length), (script, kept ++ bytes.take n))
    | _, (none :: script, kept) => (.error "broken", (script, kept))
  flush s := (.ok (), s)
  close s := (.ok (), s)

theorem scripted_takes : scripted.Takes Prod.snd where
  write {bytes s n s'} h := by
    obtain ⟨_ | ⟨_ | n, script⟩, kept⟩ := s <;> simp only [scripted] at h <;> cases h
    · simp only [List.take_length]
    · exact congrArg (kept ++ ·) List.take_eq_take_min
  failure {bytes s reason s'} h := by
    obtain ⟨_ | ⟨_ | n, script⟩, kept⟩ := s <;> simp only [scripted] at h <;> cases h
    rfl
  flush _ := rfl

/-- What writing some bytes comes to, and what is taken of them. -/
inductive Wrote (bytes : Bytes) : Except String Unit → Bytes → Prop where
  | all : Wrote bytes (.ok ()) bytes
  | cut {piece rest : Bytes} {reason : String} (split : bytes = piece ++ rest)
      (missing : rest ≠ []) : Wrote bytes (.error reason) piece

theorem Wrote.append {bytes piece : Bytes} {result : Except String Unit}
    (wrote : Wrote bytes result piece) (more : Bytes) :
    Wrote (more ++ bytes) result (more ++ piece) := by
  cases wrote with
  | all => exact .all
  | cut split missing =>
    apply Wrote.cut _ missing
    rw [split, List.append_assoc]

variable {sink : Sink σ} {taken : σ → Bytes}

theorem Takes.writeAll (takes : sink.Takes taken) (bytes : Bytes) (s : σ) :
    ∃ piece, taken (sink.writeAll bytes s).2 = taken s ++ piece ∧
      Wrote bytes (sink.writeAll bytes s).1 piece := by
  fun_induction Sink.writeAll sink bytes s with
  | case1 s => exact ⟨[], by simp, .all⟩
  | case2 s b rest reason s' h =>
    refine ⟨[], ?_, .cut (List.nil_append _).symm (List.cons_ne_nil b rest)⟩
    simp only [takes.failure h, List.append_nil]
  | case3 s b rest s' h =>
    refine ⟨[], ?_, .cut (List.nil_append _).symm (List.cons_ne_nil b rest)⟩
    simp only [takes.write h, List.take_zero]
  | case4 s b rest n s' h ih =>
    obtain ⟨piece, more, wrote⟩ := ih
    refine ⟨b :: rest.take n ++ piece, ?_, ?_⟩
    · rw [more, takes.write h, List.append_assoc, List.take_succ_cons]
    · have := wrote.append (b :: rest.take n)
      rwa [List.cons_append, List.take_append_drop] at this

theorem Takes.writeSegments (takes : sink.Takes taken) (segments : List Bytes) (s : σ) :
    ∃ piece, taken (sink.writeSegments segments s).2 = taken s ++ piece ∧
      Wrote segments.flatten (sink.writeSegments segments s).1 piece := by
  induction segments generalizing s with
  | nil => exact ⟨[], by simp [Sink.writeSegments], .all⟩
  | cons segment segments ih =>
    obtain ⟨piece, first, wrote⟩ := takes.writeAll segment s
    unfold Sink.writeSegments
    generalize sink.writeAll segment s = result at first wrote
    obtain ⟨result, s'⟩ := result
    cases wrote with
    | all =>
      obtain ⟨piece, more, wrote⟩ := ih s'
      refine ⟨segment ++ piece, ?_, wrote.append segment⟩
      simp only [more, first, List.append_assoc]
    | @cut _ rest _ split missing =>
      -- the segments behind the one that was cut are not written
      refine ⟨piece, first, .cut ?_ (List.append_ne_nil_of_left_ne_nil missing segments.flatten)⟩
      rw [List.flatten_cons, split, List.append_assoc]

end Sink

namespace Outlet

/-- What sending an envelope comes to: the result, what is taken of its frame, what is counted. -/
inductive Sent [Json.Encode π] (limit : Option Nat) (envelope : Envelope π) (m : Metrics) :
    Except Fault Unit → Bytes → Metrics → Prop where
  | refused {fault : Fault} (encoded : Frame.encode limit envelope = .error fault) :
      Sent limit envelope m (.error fault) [] m
  | written {frame : Bytes} (encoded : Frame.encode limit envelope = .ok frame) :
      Sent limit envelope m (.ok ()) frame (m.countOut envelope)
  | cut {piece rest : Bytes} {reason : String}
      (encoded : Frame.encode limit envelope = .ok (piece ++ rest)) (missing : rest ≠ []) :
      Sent limit envelope m (.error (sinkFault "write" reason)) piece (m.countSinkError "write")
  | unflushed {frame : Bytes} {reason : String}
      (encoded : Frame.encode limit envelope = .ok frame) :
      Sent limit envelope m (.error (sinkFault "flush" reason)) frame (m.countSinkError "flush")

variable [Json.Encode π] {sink : Sink σ} {taken : σ → Bytes}

theorem send_sent (takes : sink.Takes taken) (outlet : Outlet) (envelope : Envelope π)
    (m : Metrics) (s : σ) :
    ∃ piece, taken (outlet.send sink envelope m s).2.2 = taken s ++ piece ∧
      Sent outlet.limit envelope m (outlet.send sink envelope m s).1 piece
        (outlet.send sink envelope m s).2.1 := by
  unfold send
  cases encoded : Frame.encode outlet.limit envelope with
  | error fault => exact ⟨[], by simp, .refused encoded⟩
  | ok frame =>
    obtain ⟨piece, first, wrote⟩ := takes.writeSegments (frame.segments outlet.segment) s
    rw [Bytes.flatten_segments] at wrote
    dsimp only
    generalize sink.writeSegments (frame.segments outlet.segment) s = result at first wrote
    obtain ⟨result, s'⟩ := result
    cases wrote with
    | cut split missing => exact ⟨piece, first, .cut (split ▸ encoded) missing⟩
    | all =>
      have flushed := takes.flush s'
      dsimp only at first ⊢
      generalize sink.flush s' = result at flushed
      obtain ⟨result, s''⟩ := result
      cases result with
      | error reason => exact ⟨frame, flushed.trans first, .unflushed encoded⟩
      | ok u => exact ⟨frame, flushed.trans first, .written encoded⟩

/-- A piece of what an envelope leaves: a beginning of its frame, or nothing if it has none. -/
def Leaves (limit : Option Nat) (envelope : Envelope π) (piece : Bytes) : Prop :=
  match Frame.encode limit envelope with
  | .ok frame => piece <+: frame
  | .error _ => piece = []

/-- A piece that is a whole frame, or nothing at all. -/
def Uncut (limit : Option Nat) (envelope : Envelope π) (piece : Bytes) : Prop :=
  Frame.encode limit envelope = .ok piece ∨ piece = []

variable {limit : Option Nat} {envelope : Envelope π} {envelopes : List (Envelope π)}
  {piece : Bytes} {pieces : List Bytes}

theorem Sent.leaves {m m' : Metrics} {result : Except Fault Unit}
    (sent : Sent limit envelope m result piece m') : Leaves limit envelope piece := by
  unfold Leaves
  cases sent with
  | refused encoded => simp only [encoded]
  | written encoded => simp only [encoded, List.prefix_refl]
  | cut encoded missing => simp only [encoded, List.prefix_append]
  | unflushed encoded => simp only [encoded, List.prefix_refl]

theorem sendAll_leaves (takes : sink.Takes taken) (outlet : Outlet)
    (envelopes : List (Envelope π)) (m : Metrics) (s : σ) :
    ∃ pieces, taken (outlet.sendAll sink envelopes m s).2 = taken s ++ pieces.flatten ∧
      List.Forall₂ (Leaves outlet.limit) envelopes pieces := by
  induction envelopes generalizing m s with
  | nil => exact ⟨[], by simp [sendAll], .nil⟩
  | cons envelope envelopes ih =>
    obtain ⟨piece, first, sent⟩ := send_sent takes outlet envelope m s
    obtain ⟨pieces, more, leaves⟩ := ih (outlet.send sink envelope m s).2.1
      (outlet.send sink envelope m s).2.2
    refine ⟨piece :: pieces, ?_, .cons sent.leaves leaves⟩
    rw [List.flatten_cons, ← List.append_assoc, ← first]
    exact more

theorem exists_body_of_encode {frame : Bytes} (encoded : Frame.encode limit envelope = .ok frame) :
    ∃ body, Frame.Fits limit body.length ∧ frame = Bytes.ofWord body.length ++ body := by
  unfold Frame.encode at encoded
  cases written : Wire.encode envelope with
  | error fault =>
    rw [written] at encoded
    contradiction
  | ok body =>
    rw [written] at encoded
    change Frame.ofBody limit body = .ok frame at encoded
    rw [Frame.ofBody_eq] at encoded
    split at encoded
    · next le => exact ⟨body, Frame.fits_iff.2 le, (Except.ok.inj encoded).symm⟩
    · split at encoded <;> contradiction

/-- Pieces that are not cut are whole frames, one after the other. -/
theorem frames_of_uncut (uncut : List.Forall₂ (Uncut limit) envelopes pieces) :
    ∃ frames : List Bytes, pieces.flatten = frames.flatten ∧
      ∀ frame ∈ frames, ∃ envelope ∈ envelopes, Frame.encode limit envelope = .ok frame := by
  induction uncut with
  | nil => exact ⟨[], rfl, by simp⟩
  | @cons envelope piece envelopes pieces first _ ih =>
    obtain ⟨frames, same, encoded⟩ := ih
    cases first with
    | inl whole =>
      refine ⟨piece :: frames, by simp only [List.flatten_cons, same], ?_⟩
      simp only [List.mem_cons, forall_eq_or_imp, exists_eq_or_imp]
      exact ⟨.inl whole, fun frame mem => .inr (encoded frame mem)⟩
    | inr empty =>
      refine ⟨frames, by simp only [empty, List.flatten_cons, List.nil_append, same], ?_⟩
      intro frame mem
      obtain ⟨other, isOther, eq⟩ := encoded frame mem
      exact ⟨other, List.mem_cons_of_mem _ isOther, eq⟩

theorem parse_of_uncut {ε : Type} (decode : Bytes → Except Fault ε)
    (uncut : List.Forall₂ (Uncut limit) envelopes pieces) (rest : Bytes) :
    parse decode limit (pieces.flatten ++ rest) =
      parse decode limit pieces.flatten ++ parse decode limit rest := by
  have frames : ∃ items, Frame.Frames decode limit pieces.flatten items := by
    induction uncut with
    | nil => exact ⟨[], .nil⟩
    | cons first _ ih =>
      obtain ⟨items, frames⟩ := ih
      cases first with
      | inl whole =>
        obtain ⟨body, fits, rfl⟩ := exists_body_of_encode whole
        exact ⟨_, .cons fits frames⟩
      | inr empty =>
        rw [empty]
        exact ⟨items, frames⟩
  obtain ⟨items, frames⟩ := frames
  rw [frames.parse_append, frames.parse_eq]

/-- Who misses the end of a body takes the bytes that follow for it. -/
theorem parse_cut {ε : Type} (decode : Bytes → Except Fault ε) {head missing later : Bytes}
    (fits : Frame.Fits limit (head ++ missing).length) (le : missing.length ≤ later.length) :
    parse decode limit (Bytes.ofWord (head ++ missing).length ++ head ++ later) =
      decode (head ++ later.take missing.length) ::
        parse decode limit (later.drop missing.length) := by
  have same : (head ++ missing).length = (head ++ later.take missing.length).length := by
    simp only [List.length_append, List.length_take]
    omega
  rw [same] at fits ⊢
  rw [← Frame.parse_frame _ fits]
  simp only [List.append_assoc, List.take_append_drop]

/-- Behind pieces that are not cut, one more piece is still the beginning of a frame. -/
theorem prefix_of_uncut (uncut : List.Forall₂ (Uncut limit) envelopes pieces)
    (leaves : Leaves limit envelope piece) :
    ∃ frames : List Bytes, pieces.flatten ++ piece <+: frames.flatten ∧ ∀ frame ∈ frames,
      ∃ other ∈ envelopes ++ [envelope], Frame.encode limit other = .ok frame := by
  obtain ⟨frames, same, encoded⟩ := frames_of_uncut uncut
  have encoded' : ∀ frame ∈ frames,
      ∃ other ∈ envelopes ++ [envelope], Frame.encode limit other = .ok frame := by
    intro frame mem
    obtain ⟨other, isOther, eq⟩ := encoded frame mem
    exact ⟨other, List.mem_append_left _ isOther, eq⟩
  unfold Leaves at leaves
  cases whole : Frame.encode limit envelope with
  | error fault =>
    simp only [whole] at leaves
    refine ⟨frames, ?_, encoded'⟩
    simp only [leaves, List.append_nil, same, List.prefix_refl]
  | ok frame =>
    simp only [whole] at leaves
    refine ⟨frames ++ [frame], ?_, ?_⟩
    · simpa only [same, List.flatten_append, List.flatten_singleton, List.prefix_append_right_inj]
    · intro other mem
      rw [List.mem_append, List.mem_singleton] at mem
      cases mem with
      | inl mem => exact encoded' other mem
      | inr eq => exact ⟨envelope, by simp, eq ▸ whole⟩

/--
Whatever a sink does, what it has taken are pieces, one for each envelope. As long as no piece
before is cut, it has taken a beginning of whole frames. When a piece is cut whose header was taken,
and the later pieces have enough bytes, whoever reads takes their first bytes for the missing end of
the body.
-/
theorem sendAll_whole_until_cut (takes : sink.Takes taken) (outlet : Outlet)
    (envelopes : List (Envelope π)) (m : Metrics) (s : σ) :
    ∃ pieces, taken (outlet.sendAll sink envelopes m s).2 = taken s ++ pieces.flatten ∧
      List.Forall₂ (Leaves outlet.limit) envelopes pieces ∧
      ∀ earlier envelope later before piece after, envelopes = earlier ++ envelope :: later →
        pieces = before ++ piece :: after → List.Forall₂ (Uncut outlet.limit) earlier before →
        (∃ frames : List Bytes, before.flatten ++ piece <+: frames.flatten ∧
          ∀ frame ∈ frames, ∃ other ∈ envelopes, Frame.encode outlet.limit other = .ok frame) ∧
        ∀ missing, Frame.encode outlet.limit envelope = .ok (piece ++ missing) →
          4 ≤ piece.length → missing.length ≤ after.flatten.length →
          ∀ {ε : Type} (decode : Bytes → Except Fault ε),
            parse decode outlet.limit pieces.flatten =
              parse decode outlet.limit before.flatten ++
                decode (piece.drop 4 ++ after.flatten.take missing.length) ::
                  parse decode outlet.limit (after.flatten.drop missing.length) := by
  obtain ⟨pieces, all, leaves⟩ := sendAll_leaves takes outlet envelopes m s
  refine ⟨pieces, all, leaves, ?_⟩
  rintro earlier envelope later before piece after rfl rfl uncut
  have left : Leaves outlet.limit envelope piece := by
    have dropped := List.forall₂_drop earlier.length leaves
    rw [List.drop_left, uncut.length_eq, List.drop_left] at dropped
    cases dropped with
    | cons first _ => exact first
  constructor
  · obtain ⟨frames, isPrefix, encoded⟩ := prefix_of_uncut uncut left
    refine ⟨frames, isPrefix, ?_⟩
    intro frame mem
    obtain ⟨other, isOther, eq⟩ := encoded frame mem
    refine ⟨other, ?_, eq⟩
    rw [List.append_cons]
    exact List.mem_append_left _ isOther
  · intro missing encoded header le ε decode
    obtain ⟨body, fits, split⟩ := exists_body_of_encode encoded
    -- the header is in front of both, so that the body is what was taken of it and what is missing
    obtain ⟨head, rfl⟩ : ∃ head, piece = Bytes.ofWord body.length ++ head := by
      have whole : piece <+: Bytes.ofWord body.length ++ body := split ▸ List.prefix_append _ _
      obtain ⟨head, eq⟩ := List.prefix_of_prefix_length_le (List.prefix_append _ body) whole header
      exact ⟨head, eq.symm⟩
    rw [List.append_assoc, List.append_cancel_left_eq] at split
    subst split
    rw [List.flatten_append, List.flatten_cons, parse_of_uncut decode uncut,
      parse_cut decode fits le]
    rfl

/-- What was taken of two frames tells where the first was cut, if it would go on differently. -/
theorem eq_of_differs {n : Nat} {frame whole piece last : Bytes} (first : piece <+: frame)
    (second : last <+: whole) (split : frame.take n ++ whole = piece ++ last)
    (le : n ≤ frame.length) (differs : ¬ frame.take (n + 1) <+: frame.take n ++ whole) :
    frame.take n = piece ∧ whole = last := by
  have short : piece.length ≤ n := by
    by_contra long
    have goesOn : frame.take (n + 1) <+: piece := by
      refine List.prefix_of_prefix_length_le (List.take_prefix _ _) first ?_
      rw [List.length_take]
      omega
    exact differs (goesOn.trans (split ▸ List.prefix_append piece last))
  have total := congrArg List.length split
  have last_le := second.length_le
  simp only [List.length_append, List.length_take, Nat.min_eq_left le] at total
  refine List.append_inj split ?_
  rw [List.length_take]
  omega

/-- A sink takes five bytes of a frame and fails once; the next frame ends the body for a reader. -/
theorem sendAll_whole_until_cut_scripted :
    let first : Envelope := .response { correlation := "1" }
    let second : Envelope := .response { correlation := "2" }
    let cut := (Frame.ofEnvelope first).take 5
    let whole := Frame.ofEnvelope second
    Sink.scripted.Takes Prod.snd ∧
      (sendAll {} Sink.scripted [first, second] {} ([some 5, none], [])).2.2 = cut ++ whole ∧
      List.Forall₂ (Leaves none) [first, second] [cut, whole] ∧
      (∃ frames : List Bytes, cut <+: frames.flatten ∧
        ∀ frame ∈ frames, ∃ other ∈ [first, second], Frame.encode none other = .ok frame) ∧
      ∀ {ε : Type} (decode : Bytes → Except Fault ε),
        parse decode none (cut ++ whole) =
          decode (0x7b :: whole.take 18) :: parse decode none (whole.drop 18) := by
  intro first second cut whole
  have encode_first : Frame.encode none first = .ok (Frame.ofEnvelope first) :=
    Frame.encode_of_le (by decide +kernel)
  have encode_second : Frame.encode none second = .ok whole :=
    Frame.encode_of_le (by decide +kernel)
  have taken_eq : (sendAll {} Sink.scripted [first, second] {} ([some 5, none], [])).2.2 =
      cut ++ whole := by decide +kernel
  obtain ⟨pieces, all, leaves, cuts⟩ :=
    sendAll_whole_until_cut Sink.scripted_takes {} [first, second] {} ([some 5, none], [])
  -- the sixth byte of the first frame is not that of the second one's header
  obtain rfl : pieces = [cut, whole] := by
    obtain _ | ⟨leaves_first, _ | ⟨leaves_second, _ | _⟩⟩ := leaves
    simp only [Leaves, encode_first] at leaves_first
    simp only [Leaves, encode_second] at leaves_second
    have split := taken_eq.symm.trans all
    simp only [List.flatten_cons, List.flatten_nil, List.append_nil, List.nil_append] at split
    obtain ⟨rfl, rfl⟩ := eq_of_differs leaves_first leaves_second split
      (by decide +kernel) (by decide +kernel)
    rfl
  obtain ⟨isPrefix, reads⟩ := cuts [] first [second] [] cut [whole] rfl rfl .nil
  refine ⟨Sink.scripted_takes, taken_eq, leaves, isPrefix, ?_⟩
  intro ε decode
  let missing := (Frame.ofEnvelope first).drop 5
  have encoded : Frame.encode none first = .ok (cut ++ missing) := by
    rw [List.take_append_drop]
    exact encode_first
  have header : 4 ≤ cut.length := by decide +kernel
  have enough : missing.length ≤ [whole].flatten.length := by decide +kernel
  have parsed := reads missing encoded header enough decode
  have brace : cut.drop 4 = [0x7b] := by decide +kernel
  have missing_length : missing.length = 18 := by decide +kernel
  simpa [brace, missing_length] using parsed

/--
A sink takes five bytes of a frame and fails once. The frame that is sent next is not read as one:
its first bytes are read as the end of the body before it.
-/
theorem cut_frame_not_prefix_of_frames :
    let first : Envelope := .response { correlation := "1" }
    let second : Envelope := .response { correlation := "2" }
    let taken := (sendAll {} Sink.scripted [first, second] {} ([some 5, none], [])).2.2
    (¬ ∃ envelopes : List Envelope, taken <+: envelopes.flatMap Frame.ofEnvelope) ∧
      parse .ok none taken =
        [.ok ((Wire.body first).take 1 ++ (Frame.ofEnvelope second).take 18)] := by
  intro first second taken
  have taken_eq : taken = Bytes.ofWord 19 ++ 0x7b :: 0 :: (Frame.ofEnvelope second).drop 1 := by
    decide +kernel
  constructor
  · rintro ⟨envelopes, isPrefix⟩
    cases envelopes with
    | nil => simp [taken_eq] at isPrefix
    | cons envelope envelopes =>
      obtain ⟨rest, body⟩ := Wire.exists_body_eq envelope
      have frame : Frame.ofEnvelope envelope =
          Bytes.ofWord (Wire.body envelope).length ++ 0x7b :: 0x22 :: rest := congrArg _ body
      -- behind the first brace comes a quote, never the header of another frame
      rw [taken_eq, List.flatMap_cons, frame] at isPrefix
      simp [Bytes.ofWord] at isPrefix
  · decide +kernel

end Outlet
end Hostlink
