import Hostlink.Proofs.Frame.Calls
/-!
Taking all frames out of a reader ends. Between two calls a reader that has used a header still
lacks a part of the body, so that the next frame is only there together with its header: whatever
the length of its body, it uses up four bytes at least.
-/

namespace Hostlink.Frame.Reader

variable {ε : Type} {decode : Bytes → Except Fault ε} {r after : Reader} {item : Except Fault ε}
  {c : Call}

/--
Taking all frames out of a reader makes so many calls, gives these items and leaves this reader. It
goes on until there is nothing, or a fault is final.
-/
inductive Drains (decode : Bytes → Except Fault ε) :
    Reader → Nat → List (Except Fault ε) → Reader → Prop where
  | stalled {r after : Reader} (nothing : next decode r = (none, after)) :
      Drains decode r 1 [] after
  | final {r after : Reader} {item : Except Fault ε} (taken : next decode r = (some item, after))
      (stops : goesOn (some item) = false) : Drains decode r 1 [item] after
  | more {r after last : Reader} {item : Except Fault ε} {items : List (Except Fault ε)}
      {count : Nat} (taken : next decode r = (some item, after))
      (goesOn : goesOn (some item) = true) (rest : Drains decode after count items last) :
      Drains decode r (count + 1) (item :: items) last

theorem takeBody_used {length : Nat} (taken : takeBody decode r length = (some item, after)) :
    after.midFrame = false ∧ after.buffered + length = r.buffered := by
  unfold takeBody at taken
  split at taken
  · cases taken
  · next body buffer complete =>
    cases taken
    exact ⟨rfl, (Bytes.Queue.of_take?_eq_some complete).2.2⟩

/-- A frame uses up its header, or its body if the header had been used before. -/
theorem next_used (live : r.oversized = none) (taken : next decode r = (some item, after)) :
    after.midFrame = false ∧ after.buffered + r.expected.getD 4 ≤ r.buffered := by
  unfold next at taken
  rw [live] at taken
  cases expected : r.expected with
  | some length =>
    simp only [expected] at taken
    have used := takeBody_used taken
    exact ⟨used.1, Nat.le_of_eq used.2⟩
  | none =>
    simp only [expected] at taken
    rw [Option.getD_none]
    split at taken
    · next header =>
      have size := (Bytes.Queue.of_take?_eq_some header).2.2
      split at taken
      · cases taken
        exact ⟨rfl, Nat.le_of_add_left_le (Nat.le_of_eq size)⟩
      · obtain ⟨between, used⟩ := takeBody_used taken
        refine ⟨between, ?_⟩
        simp only [buffered] at used ⊢
        omega
    · cases taken

/-- Where less is there than the next frame needs, looking for it changes nothing. -/
theorem next_of_short (live : r.oversized = none) (short : r.Short) :
    next decode r = (none, r) := by
  obtain ⟨limit, buffer, expected, oversized⟩ := r
  cases live
  cases expected with
  | none =>
    have short : ¬ 4 ≤ buffer.size := Nat.not_le_of_lt short
    simp only [next, Bytes.Queue.take?, if_neg short]
  | some length =>
    have short : ¬ length ≤ buffer.size := Nat.not_le_of_lt short
    simp only [next, takeBody, Bytes.Queue.take?, if_neg short]

/--
What a call leaves: a header that it remembers is within the limit, and some bytes of the body that
belongs to it are missing.
-/
structure Settled (r : Reader) : Prop where
  sound : r.Sound
  short : r.midFrame = true → r.Short

theorem settled_new (limit : Option Nat) : Settled { limit } :=
  ⟨sound_new limit, nofun⟩

theorem Settled.buffered_lt {length : Nat} (settled : r.Settled)
    (expected : r.expected = some length) : r.buffered < length := by
  have midFrame : r.midFrame = true := by
    unfold Reader.midFrame
    rw [expected]
    rfl
  have short := settled.short midFrame
  unfold Short at short
  rwa [expected] at short

theorem next_settled (sound : r.Sound) (live : r.oversized = none) :
    (next decode r).2.Settled := by
  refine ⟨next_sound decode sound, ?_⟩
  have step := next_step decode sound
  cases taken : next decode r with
  | mk outcome after =>
    rw [taken] at step
    cases outcome with
    | none =>
      cases step with
      | stalled _ _ _ short => exact fun _ => short
    | some item =>
      intro midFrame
      rw [(next_used live taken).1] at midFrame
      contradiction

/--
What a call comes to: a fault is final and comes again, no bytes are fed and nothing happens, or a
frame is looked for in what is there with what is fed.
-/
inductive Called (decode : Bytes → Except Fault ε) (r : Reader) (c : Call) :
    Outcome ε → Reader → Prop where
  | ended {fault : Fault} (final : fault.recoverable = false) :
      Called decode r c (some (.error fault)) r
  | ignored (nothing : c = .feed []) : Called decode r c none r
  | next {fed : Reader} (sound : fed.Sound) (live : fed.oversized = none)
      (expected : fed.expected = r.expected) (size : fed.buffered = r.buffered + c.chunk.length) :
      Called decode r c (next decode fed).1 (next decode fed).2

theorem call_called (sound : r.Sound) (c : Call) :
    Called decode r c (call decode r c).1 (call decode r c).2 := by
  unfold call
  cases live : r.oversized with
  | some _ =>
    cases c with
    | next =>
      simp only [next_of_oversized live]
      exact .ended rfl
    | feed chunk =>
      simp only [feed_of_oversized live]
      exact .ended rfl
  | none =>
    cases c with
    | next => exact .next sound live rfl rfl
    | feed chunk =>
      by_cases nothing : chunk = []
      · simp only [nothing, feed_nil live]
        exact .ignored rfl
      · simp only [feed_cons live nothing]
        exact .next (sound.push chunk) live rfl (buffered_push r chunk)

theorem call_settled (settled : r.Settled) (c : Call) : (call decode r c).2.Settled := by
  have called : Called decode r c _ _ := call_called settled.sound c
  generalize call decode r c = result at called
  obtain ⟨outcome, after⟩ := result
  cases called with
  | ended => exact settled
  | ignored => exact settled
  | next sound live => exact next_settled sound live

theorem runCalls_settled (settled : r.Settled) (calls : List Call) :
    (runCalls decode r calls).2.Settled := by
  induction calls generalizing r with
  | nil => exact settled
  | cons c calls ih => exact ih (call_settled settled c)

/-- A call that gives a frame leaves less than was there with what it fed. -/
theorem call_used (settled : r.Settled) (taken : call decode r c = (some item, after))
    (goesOn : Reader.goesOn (some item) = true) :
    after.buffered < r.buffered + c.chunk.length := by
  -- no header that is remembered tells a body without bytes, since some of them are missing
  have needed : 0 < r.expected.getD 4 := by
    cases expected : r.expected with
    | none => decide
    | some length => exact Nat.zero_lt_of_lt (settled.buffered_lt expected)
  have called : Called decode r c _ _ := call_called settled.sound c
  rw [taken] at called
  generalize outcome_eq : some item = outcome at called
  cases called with
  | ended final =>
    cases outcome_eq
    simp [Reader.goesOn, final] at goesOn
  | ignored => contradiction
  | @next fed _ live expected size =>
    have used := (next_used live (Prod.ext outcome_eq.symm rfl)).2
    rw [expected, size] at used
    omega

/-- A frame that is taken without feeding anything has used up its header at least. -/
theorem next_used_of_settled (settled : r.Settled) (taken : next decode r = (some item, after))
    (goesOn : Reader.goesOn (some item) = true) : after.buffered + 4 ≤ r.buffered := by
  cases live : r.oversized with
  | some _ =>
    rw [next_of_oversized live] at taken
    cases taken
    contradiction
  | none =>
    have used := (next_used live taken).2
    cases expected : r.expected with
    | none =>
      rw [expected, Option.getD_none] at used
      exact used
    | some length =>
      -- what is missing of the body would have been there
      have missing := settled.buffered_lt expected
      rw [expected, Option.getD_some] at used
      omega

theorem next_of_stalled (sound : r.Sound) (nothing : next decode r = (none, after)) :
    next decode after = (none, after) := by
  have step := next_step decode sound
  rw [nothing] at step
  cases step with
  | stalled _ live _ short => exact next_of_short live short

theorem call_stalled (settled : r.Settled) (looks : c ≠ .feed [])
    (nothing : call decode r c = (none, after)) : next decode after = (none, after) := by
  have called : Called decode r c _ _ := call_called settled.sound c
  rw [nothing] at called
  generalize outcome_eq : none = outcome at called
  cases called with
  | ended => contradiction
  | ignored nothing => contradiction
  | @next again sound =>
    rw [← outcome_eq]
    exact next_of_stalled sound (Prod.ext outcome_eq.symm rfl)

theorem runCalls_of_stalled (nothing : next decode r = (none, r)) (n : Nat) :
    runCalls decode r (List.replicate n .next) = ([], r) := by
  induction n with
  | zero => rfl
  | succ n ih =>
    simp only [List.replicate_succ, runCalls, call, nothing, ih]
    rfl

/-- Each call but the last uses up four bytes, so that the calls come to an end. -/
theorem drains_of_settled (settled : r.Settled) :
    ∃ count ≤ r.buffered / 4 + 1,
      Drains decode r count (drain decode r).1 (drain decode r).2 := by
  fun_induction Reader.drain decode r with
  | case1 r after nothing => exact ⟨1, Nat.le_add_left _ _, .stalled nothing⟩
  | case2 r item after taken goesOn more last rest ih =>
    have settled' : after.Settled := by
      have called : (call decode r .next).2.Settled := call_settled settled .next
      rwa [call, taken] at called
    obtain ⟨count, le, drains⟩ := ih settled'
    rw [rest] at drains
    refine ⟨count + 1, ?_, .more taken goesOn drains⟩
    have used := next_used_of_settled settled taken goesOn
    omega
  | case3 r item after taken stops =>
    exact ⟨1, Nat.le_add_left _ _, .final taken (by simpa using stops)⟩

/--
However a reader was used before, with or without a limit: calls for frames, made until there is
nothing or a fault is final, come to an end. There is at most one for every four bytes that are
kept, and one more. A call that gives an envelope or a malformed frame leaves fewer bytes than were
there with those that it fed. Once a frame was looked for in vain, no further call finds one or
changes the reader.
-/
theorem drain_ends (decode : Bytes → Except Fault ε) (limit : Option Nat) (calls : List Call) :
    let r := (runCalls decode { limit } calls).2
    (∃ count ≤ r.buffered / 4 + 1,
      Drains decode r count (drain decode r).1 (drain decode r).2) ∧
    (∀ c item after, call decode r c = (some item, after) → goesOn (some item) = true →
      after.buffered < r.buffered + c.chunk.length) ∧
    (∀ c after, c ≠ .feed [] → call decode r c = (none, after) →
      ∀ n, runCalls decode after (List.replicate n .next) = ([], after)) := by
  intro r
  have settled : r.Settled := runCalls_settled (settled_new limit) calls
  refine ⟨drains_of_settled settled, ?_, ?_⟩
  · intro c item after taken goesOn
    exact call_used settled taken goesOn
  · intro c after looks nothing
    exact runCalls_of_stalled (call_stalled settled looks nothing)

theorem drain_ends_zero_length :
    let decode := malformed fun _ => (.error "no envelope" : Except String Unit)
    let fault := Fault.malformedPayload "no envelope"
    let chunk : Bytes := [0, 0, 0, 0, 0, 0, 0, 0, 0, 0, 0, 2, 7]
    let r := (runCalls decode {} [.feed chunk]).2
    let waiting := (runCalls decode {} [.feed chunk, .next, .next]).2
    r.buffered = 9 ∧ (∃ count ≤ 3, Drains decode r count [.error fault] (drain decode r).2) ∧
    waiting.midFrame = true ∧ waiting.buffered = 1 ∧
    (call decode waiting (.feed [8])).1 = some (.error fault) ∧
    (call decode waiting (.feed [8])).2.buffered < waiting.buffered + 1 := by
  intro decode fault chunk r waiting
  obtain ⟨⟨count, le, drains⟩, -, -⟩ := drain_ends decode none [.feed chunk]
  obtain ⟨-, used, -⟩ := drain_ends decode none [.feed chunk, .next, .next]
  have kept : r.buffered = 9 := by decide +kernel
  have given : (drain decode r).1 = [.error fault] := by cbv
  have completed : (call decode waiting (.feed [8])).1 = some (.error fault) := by rfl
  change count ≤ r.buffered / 4 + 1 at le
  rw [kept] at le
  rw [given] at drains
  have taken : call decode waiting (.feed [8]) =
      (some (.error fault), (call decode waiting (.feed [8])).2) := by
    rw [← completed]
  exact ⟨kept, ⟨count, le, drains⟩, by decide +kernel, by decide +kernel, completed,
    used _ _ _ taken rfl⟩

end Hostlink.Frame.Reader
