import Hostlink.Proofs.Frame.Reader
/-!
Any sequence of calls of a reader, held against `parse` of all bytes that were fed. `Follows` is the
simulation: the items that were returned are those of the frames that the reader has behind it.
-/

namespace Hostlink.Frame

variable {ε : Type}

/-- A decoder of which every fault is a malformed payload. -/
def malformed (read : Bytes → Except String ε) (body : Bytes) : Except Fault ε :=
  (read body).mapError .malformedPayload

/-- Whether an item is a header over the limit, after which nothing else comes. -/
def isTooLarge : Except Fault ε → Bool
  | .error (.frameTooLarge _ _) => true
  | _ => false

/-- Items up to the first header over the limit, which is still one of them. -/
def upToTooLarge : List (Except Fault ε) → List (Except Fault ε)
  | [] => []
  | item :: rest => if isTooLarge item then [item] else item :: upToTooLarge rest

/-- All bodies lead to items that reading goes on after. -/
def Recovers (decode : Bytes → Except Fault ε) : Prop :=
  ∀ body, Reader.goesOn (some (decode body)) = true

theorem recovers_malformed (read : Bytes → Except String ε) : Recovers (malformed read) := by
  intro body
  unfold malformed
  cases read body <;> rfl

theorem isTooLarge_of_goesOn {item : Except Fault ε} (h : Reader.goesOn (some item) = true) :
    isTooLarge item = false := by
  cases item with
  | ok => rfl
  | error fault => cases fault <;> first | rfl | contradiction

/-- In a stream there are no other items than such that reading goes on after and the last one. -/
theorem goesOn_or_tooLarge_of_mem_parse {decode : Bytes → Except Fault ε}
    (recovers : Recovers decode) (limit : Option Nat) (bytes : Bytes) :
    ∀ item ∈ parse decode limit bytes, Reader.goesOn (some item) = true ∨ isTooLarge item := by
  fun_induction parse decode limit bytes with
  | case1 a b c d rest length max tooLong =>
    intro item mem
    cases List.mem_singleton.1 mem
    exact .inr rfl
  | case2 | case4 => nofun
  | case3 a b c d rest length fits complete ih =>
    intro item mem
    cases mem with
    | head => exact .inl (recovers _)
    | tail _ mem => exact ih item mem

theorem upToTooLarge_append {items : List (Except Fault ε)}
    (h : ∀ item ∈ items, isTooLarge item = false) (rest : List (Except Fault ε)) :
    upToTooLarge (items ++ rest) = items ++ upToTooLarge rest := by
  induction items with
  | nil => rfl
  | cons item items ih =>
    have hitem := h item (by simp)
    rw [List.cons_append, upToTooLarge, hitem, List.cons_append]
    rw [ih fun item mem => h item (by simp [mem])]
    rfl

theorem Frames.goesOn {decode : Bytes → Except Fault ε} {limit : Option Nat} {bytes : Bytes}
    {items : List (Except Fault ε)} (recovers : Recovers decode)
    (frames : Frames decode limit bytes items) :
    ∀ item ∈ items, Reader.goesOn (some item) = true := by
  induction frames with
  | nil => nofun
  | cons fits _ ih =>
    intro item mem
    cases mem with
    | head => exact recovers _
    | tail _ mem => exact ih item mem

theorem Frames.not_tooLarge {decode : Bytes → Except Fault ε} {limit : Option Nat} {bytes : Bytes}
    {items : List (Except Fault ε)} (recovers : Recovers decode)
    (frames : Frames decode limit bytes items) : ∀ item ∈ items, isTooLarge item = false := by
  intro item mem
  exact isTooLarge_of_goesOn (frames.goesOn recovers item mem)

namespace Reader

/-- A way to call a reader. -/
inductive Call where
  | feed (chunk : Bytes)
  | next

/-- The bytes that a call feeds. -/
def Call.chunk : Call → Bytes
  | feed chunk => chunk
  | next => []

/-- What a call gives. -/
def call (decode : Bytes → Except Fault ε) (r : Reader) : Call → Outcome ε × Reader
  | .feed chunk => feed decode r chunk
  | .next => next decode r

/-- The items that calls return, one after the other, and the reader after them. -/
def runCalls (decode : Bytes → Except Fault ε) : Reader → List Call → List (Except Fault ε) × Reader
  | r, [] => ([], r)
  | r, c :: calls =>
    let (items, after) := runCalls decode (call decode r c).2 calls
    ((call decode r c).1.toList ++ items, after)

/--
After these bytes of a stream and these items the reader is where it should be: at a boundary of
frames with the rest of the bytes pending, or behind a header over the limit, which it repeats.
-/
inductive Follows (decode : Bytes → Except Fault ε) (limit : Option Nat) (stream : Bytes) :
    List (Except Fault ε) → Reader → Prop where
  | live {bytes : Bytes} {items : List (Except Fault ε)} {r : Reader} (live : r.oversized = none)
      (frames : Frames decode limit bytes items) (split : stream = bytes ++ r.pending) :
      Follows decode limit stream items r
  | oversized {bytes rest : Bytes} {items again : List (Except Fault ε)} {r : Reader}
      {length max : Nat} (oversized : r.oversized = some (length, max))
      (frames : Frames decode limit bytes items)
      (split : stream = bytes ++ (Bytes.ofWord length ++ rest))
      (exceeds : limit.filter (· < length) = some max) (le : length ≤ maxLength)
      (repeats : ∀ item ∈ again, item = .error (.frameTooLarge length max)) :
      Follows decode limit stream (items ++ .error (.frameTooLarge length max) :: again) r

variable {decode : Bytes → Except Fault ε} {limit : Option Nat} {stream : Bytes}
  {items : List (Except Fault ε)} {r : Reader}

theorem next_of_oversized {length max : Nat} (oversized : r.oversized = some (length, max)) :
    next decode r = (some (.error (.frameTooLarge length max)), r) := by
  unfold next
  rw [oversized]

theorem feed_of_oversized {length max : Nat} (oversized : r.oversized = some (length, max))
    (chunk : Bytes) :
    feed decode r chunk = (some (.error (.frameTooLarge length max)), r) := by
  unfold feed
  rw [oversized]

theorem feed_nil (live : r.oversized = none) : feed decode r [] = (none, r) := by
  unfold feed
  rw [live]
  rfl

theorem feed_cons (live : r.oversized = none) {chunk : Bytes} (h : chunk ≠ []) :
    feed decode r chunk = next decode (r.push chunk) := by
  unfold feed
  rw [live]
  cases chunk with
  | nil => contradiction
  | cons b chunk => rfl

theorem Follows.repeat {length max : Nat} (follows : Follows decode limit stream items r)
    (oversized : r.oversized = some (length, max)) (chunk : Bytes) :
    Follows decode limit (stream ++ chunk) (items ++ [.error (.frameTooLarge length max)]) r := by
  cases follows with
  | live live => simp [oversized] at live
  | @oversized bytes rest _ _ _ _ _ oversized' frames split exceeds le repeats =>
    rw [oversized] at oversized'
    obtain ⟨rfl, rfl⟩ := Prod.mk.inj (Option.some.inj oversized')
    have split : stream ++ chunk = bytes ++ (Bytes.ofWord length ++ (rest ++ chunk)) := by
      rw [split, List.append_assoc, List.append_assoc]
    rw [List.append_assoc, List.cons_append]
    -- only the repetitions behind the header become more
    refine .oversized oversized frames split exceeds le ?_
    intro item mem
    rw [List.mem_append, List.mem_singleton] at mem
    cases mem with
    | inl mem => exact repeats item mem
    | inr eq => exact eq

theorem Follows.push (follows : Follows decode limit stream items r) (live : r.oversized = none)
    (chunk : Bytes) : Follows decode limit (stream ++ chunk) items (r.push chunk) := by
  cases follows with
  | live live frames split =>
    refine .live live frames ?_
    rw [split, pending_push live, List.append_assoc]
  | oversized oversized => simp [oversized] at live

theorem Follows.next (follows : Follows decode limit stream items r) (sound : r.Sound)
    (hlimit : r.limit = limit) :
    Follows decode limit stream (items ++ (next decode r).1.toList) (next decode r).2 := by
  have step := next_step decode sound
  generalize Reader.next decode r = result at step
  obtain ⟨outcome, after⟩ := result
  cases step with
  | ended oversized =>
    have := follows.repeat oversized []
    simpa using this
  | stalled live live' same =>
    cases follows with
    | live _ frames split =>
      rw [← same] at split
      simpa using Follows.live live' frames split
    | oversized oversized => simp [oversized] at live
  | frame live live' fits split' =>
    cases follows with
    | live _ frames split =>
      rw [hlimit] at fits
      refine .live live' (frames.snoc fits) ?_
      rw [split, split', List.append_assoc, List.append_assoc]
      simp only [List.append_assoc]
    | oversized oversized => simp [oversized] at live
  | tooLarge live oversized split' exceeds le =>
    cases follows with
    | live _ frames split =>
      rw [hlimit] at exceeds
      rw [split'] at split
      exact .oversized oversized frames split exceeds le nofun
    | oversized oversized => simp [oversized] at live

theorem Follows.call (follows : Follows decode limit stream items r) (sound : r.Sound)
    (hlimit : r.limit = limit) (c : Call) :
    Follows decode limit (stream ++ c.chunk) (items ++ (call decode r c).1.toList)
      (call decode r c).2 := by
  cases c with
  | next =>
    simp only [Call.chunk, List.append_nil]
    exact follows.next sound hlimit
  | feed chunk =>
    simp only [Call.chunk, Reader.call]
    cases live : r.oversized with
    | some oversized =>
      rw [feed_of_oversized live]
      exact follows.repeat live chunk
    | none =>
      by_cases h : chunk = []
      · subst h
        rw [feed_nil live]
        simpa using follows
      · rw [feed_cons live h]
        exact (follows.push live chunk).next (sound.push chunk) hlimit

theorem call_limit (r : Reader) (c : Call) : (call decode r c).2.limit = r.limit := by
  cases c with
  | next => apply next_limit
  | feed chunk =>
    simp only [call, feed]
    split
    · rfl
    · split
      · rfl
      · apply next_limit

theorem call_sound (sound : r.Sound) (c : Call) : (call decode r c).2.Sound := by
  cases c with
  | next => exact next_sound decode sound
  | feed chunk =>
    simp only [call, feed]
    split
    · exact sound
    · split
      · exact sound
      · exact next_sound decode (sound.push chunk)

/-- A run of calls keeps a reader on its stream. -/
theorem Follows.runCalls (follows : Follows decode limit stream items r) (sound : r.Sound)
    (hlimit : r.limit = limit) (calls : List Call) :
    Follows decode limit (stream ++ calls.flatMap Call.chunk) (items ++ (runCalls decode r calls).1)
        (runCalls decode r calls).2 ∧
      (runCalls decode r calls).2.Sound ∧ (runCalls decode r calls).2.limit = limit := by
  induction calls generalizing stream items r with
  | nil =>
    simp only [Reader.runCalls, List.flatMap_nil, List.append_nil]
    exact ⟨follows, sound, hlimit⟩
  | cons c calls ih =>
    -- the stream that is followed grows by what the first call feeds
    have step := follows.call sound hlimit c
    have := ih step (call_sound sound c) ((call_limit r c).trans hlimit)
    simp only [Reader.runCalls, List.flatMap_cons, ← List.append_assoc]
    exact this

theorem follows_new (decode : Bytes → Except Fault ε) (limit : Option Nat) :
    Follows decode limit [] [] { limit } :=
  .live rfl .nil rfl

theorem Follows.of_live (follows : Follows decode limit stream items r)
    (live : r.oversized = none) :
    ∃ bytes, Frames decode limit bytes items ∧ stream = bytes ++ r.pending := by
  cases follows with
  | live _ frames split => exact ⟨_, frames, split⟩
  | oversized oversized => simp [oversized] at live

theorem Follows.pending_eq (follows : Follows decode limit stream items r)
    (live : r.oversized = none) : r.pending = dropFrames items.length stream := by
  obtain ⟨bytes, frames, split⟩ := follows.of_live live
  rw [split, frames.dropFrames_append]

theorem Follows.upToTooLarge_prefix (follows : Follows decode limit stream items r)
    (recovers : Recovers decode) : upToTooLarge items <+: parse decode limit stream := by
  cases follows with
  | live _ frames split =>
    have := upToTooLarge_append (frames.not_tooLarge recovers) []
    rw [List.append_nil] at this
    rw [this, split, frames.parse_append]
    simp only [upToTooLarge, List.append_nil, List.prefix_append]
  | oversized _ frames split exceeds le =>
    rw [upToTooLarge_append (frames.not_tooLarge recovers), split, frames.parse_append]
    rw [parse_tooLarge _ exceeds le]
    exact List.prefix_refl _

theorem Follows.live_of_not_tooLarge (follows : Follows decode limit stream items r)
    (h : ∀ item ∈ items, isTooLarge item = false) : r.oversized = none := by
  cases follows with
  | live live => exact live
  | oversized =>
    have := h _ (List.mem_append_right _ (List.mem_cons_self ..))
    contradiction

theorem Follows.oversized_of_mem (follows : Follows decode limit stream items r)
    (recovers : Recovers decode) {length max : Nat}
    (mem : .error (.frameTooLarge length max) ∈ items) : r.oversized = some (length, max) := by
  cases follows with
  | live _ frames =>
    have := frames.not_tooLarge recovers _ mem
    contradiction
  | oversized oversized frames _ _ _ repeats =>
    rw [List.mem_append, List.mem_cons] at mem
    obtain mem | eq | mem := mem
    · have := frames.not_tooLarge recovers _ mem
      contradiction
    · injection eq with eq
      injection eq with hlength hmax
      rw [hlength, hmax, oversized]
    · have eq := repeats _ mem
      injection eq with eq
      injection eq with hlength hmax
      rw [hlength, hmax, oversized]

/-- Nothing is given only when the whole stream has been used. -/
theorem Follows.of_none (follows : Follows decode limit stream items r) (sound : r.Sound)
    (hlimit : r.limit = limit) {after : Reader} (h : Reader.next decode r = (none, after)) :
    items = parse decode limit stream ∧
      (after.midFrame = true ↔ 4 ≤ (dropFrames items.length stream).length) := by
  have step := next_step decode sound
  rw [h] at step
  have hsound : after.Sound := by
    have := next_sound decode sound
    rwa [h] at this
  have hlimit' : after.limit = limit := by
    have := next_limit decode r
    rw [h] at this
    exact this.trans hlimit
  cases step with
  | stalled live live' same short =>
    constructor
    · obtain ⟨bytes, frames, split⟩ := follows.of_live live
      have : parse decode after.limit after.pending = [] :=
        parse_pending_of_short hsound live' short
      rw [same, hlimit'] at this
      rw [split, frames.parse_append, this, List.append_nil]
    · rw [← follows.pending_eq live, ← same, length_pending live']
      unfold Short at short
      unfold midFrame buffered
      cases he : after.expected with
      | none =>
        rw [he, Option.getD_none] at short
        simp
        omega
      | some length => simp

/--
Whatever the calls and the chunks, the items that are returned are those of `parse`, one for each
call that returns something, and a header over the limit is the last that counts. Nothing is
returned only when all of the stream has been used up, and the reader keeps exactly the bytes that
follow the frames it has returned.
-/
theorem runCalls_refines_parse (read : Bytes → Except String ε) (limit : Option Nat)
    (calls : List Call) :
    let decode := malformed read
    let stream := calls.flatMap Call.chunk
    let items := (runCalls decode { limit } calls).1
    let r := (runCalls decode { limit } calls).2
    upToTooLarge items <+: parse decode limit stream ∧
    (∀ c after, c ≠ .feed [] → call decode r c = (none, after) →
      items = parse decode limit (stream ++ c.chunk) ∧
      (after.midFrame = true ↔ 4 ≤ (dropFrames items.length (stream ++ c.chunk)).length)) ∧
    ((∀ item ∈ items, isTooLarge item = false) →
      call decode r (.feed []) = (none, r) ∧
      r.pending = dropFrames items.length stream ∧
      r.buffered + (if r.midFrame then 4 else 0) = (dropFrames items.length stream).length) ∧
    (∀ length max, .error (.frameTooLarge length max) ∈ items →
      ∀ c, call decode r c = (some (.error (.frameTooLarge length max)), r)) := by
  intro decode stream items r
  have recovers : Recovers decode := recovers_malformed read
  obtain ⟨follows, sound, hlimit⟩ :=
    (follows_new decode limit).runCalls (sound_new limit) rfl calls
  replace follows : Follows decode limit stream items r := follows
  replace sound : r.Sound := sound
  replace hlimit : r.limit = limit := hlimit
  refine ⟨follows.upToTooLarge_prefix recovers, ?_, ?_, ?_⟩
  · intro c after hc h
    -- behind a header over the limit every call returns its fault
    have live : r.oversized = none := by
      cases live : r.oversized with
      | none => rfl
      | some oversized =>
        cases c <;> simp [call, next_of_oversized live, feed_of_oversized live] at h
    cases c with
    | next =>
      simp only [Call.chunk, List.append_nil]
      exact follows.of_none sound hlimit h
    | feed chunk =>
      have hchunk : chunk ≠ [] := by
        intro h
        exact hc (congrArg Call.feed h)
      rw [call, feed_cons live hchunk] at h
      exact (follows.push live chunk).of_none (sound.push chunk) hlimit h
  · intro h
    have live := follows.live_of_not_tooLarge h
    refine ⟨feed_nil live, follows.pending_eq live, ?_⟩
    rw [← follows.pending_eq live, length_pending live]
  · intro length max mem c
    have oversized := follows.oversized_of_mem recovers mem
    cases c with
    | feed chunk => exact feed_of_oversized oversized chunk
    | next => exact next_of_oversized oversized

end Reader
end Hostlink.Frame
