import Hostlink.Proofs.Frame.Calls
import Hostlink.Proofs.Intake
/-!
How many bytes a reader keeps. All frames that are complete are taken before the source is asked for
more bytes, so that less is there by then than the next frame needs; and then no more is added than
one chunk. This holds whatever the stream says, since a header over the limit ends it.
-/

namespace Hostlink

namespace Source

theorem length_le_of_read {source after : Source} {limit : Nat} {bytes : Bytes}
    (h : source.read limit = (some (.ok bytes), after)) : bytes.length ≤ max limit 1 := by
  unfold read at h
  split at h
  · split at h
    · cases h
      exact Nat.zero_le _
    · cases h
  · cases h
  · next all rest _ =>
    dsimp only at h
    split at h
    · next fits =>
      cases h
      exact List.drop_eq_nil_iff.1 fits
    · cases h
      exact List.length_take_le _ _

end Source

namespace Frame.Reader

variable {ε : Type} {decode : Bytes → Except Fault ε} {r after : Reader} {limit : Nat}

theorem takeBody_buffered_le (r : Reader) (length : Nat) :
    (takeBody decode r length).2.buffered ≤ r.buffered := by
  unfold takeBody buffered
  split
  · exact Nat.le_refl _
  · next taken =>
    have size := (Bytes.Queue.of_take?_eq_some taken).2.2
    exact Nat.le_of_add_right_le (Nat.le_of_eq size)

/-- Taking a frame adds nothing. -/
theorem next_buffered_le (r : Reader) : (next decode r).2.buffered ≤ r.buffered := by
  unfold next
  split
  · exact Nat.le_refl _
  · split
    · exact takeBody_buffered_le r _
    · split
      · next taken =>
        have size := (Bytes.Queue.of_take?_eq_some taken).2.2
        dsimp only
        split
        · exact Nat.zero_le _
        · apply Nat.le_trans (takeBody_buffered_le _ _)
          exact Nat.le_of_add_right_le (Nat.le_of_eq size)
      · exact Nat.le_refl _

/-- Less is there than the next frame needs, which is at most its header or a body of the limit. -/
structure Waits (limit : Nat) (r : Reader) : Prop where
  buffered_le : r.buffered ≤ max 3 (limit - 1)
  fits : ∀ length, r.expected = some length → length ≤ limit ∧ r.buffered < length

theorem waits_of_short (sound : r.Sound) (hlimit : r.limit = some limit) (short : r.Short) :
    r.Waits limit := by
  have fits : ∀ length, r.expected = some length → length ≤ limit ∧ r.buffered < length := by
    intro length expected
    have within := (sound.fits_expected expected).1
    unfold Short at short
    rw [expected, Option.getD_some] at short
    rw [hlimit, Option.filter_eq_none_iff] at within
    exact ⟨by simpa using within limit rfl, short⟩
  refine ⟨?_, fits⟩
  cases expected : r.expected with
  | none =>
    unfold Short at short
    rw [expected, Option.getD_none] at short
    exact Nat.le_trans (Nat.le_of_lt_succ short) (Nat.le_max_left _ _)
  | some length =>
    have ⟨le, lt⟩ := fits length expected
    omega

/-- If there is no frame to be taken, more bytes are needed for the next one. -/
theorem waits_of_next (sound : r.Sound) (hlimit : r.limit = some limit)
    (h : next decode r = (none, after)) : after.Waits limit := by
  have step := next_step decode sound
  have sound' := next_sound decode sound
  have limit' := next_limit decode r
  rw [h] at step sound' limit'
  cases step with
  | stalled _ _ _ short => exact waits_of_short sound' (limit'.trans hlimit) short

end Frame.Reader

namespace Intake

/-- A state of the reader while the next envelope is looked for. -/
structure Moment where
  reader : Frame.Reader
  /-- Whether the source is asked for more bytes now. -/
  asks : Bool

variable {intake : Intake} {reader : Frame.Reader} {source : Source}

theorem weight_of_frame {outcome : Except Fault Envelope}
    (h : intake.reader.next decode = (some outcome, reader))
    (goesOn : Frame.Reader.goesOn (some outcome) = true) :
    weight { intake with reader } < intake.weight := by
  have := Frame.Reader.next_weight_lt decode (r := intake.reader) (by rw [h]; exact goesOn)
  simp only [h] at this
  simp only [weight]
  omega

theorem weight_of_read {b : UInt8} {bytes : Bytes}
    (h : intake.reader.next decode = (none, reader))
    (read : intake.source.read intake.chunk = (some (.ok (b :: bytes)), source)) :
    weight { intake with reader := reader.push (b :: bytes), source } < intake.weight := by
  have := Frame.Reader.next_weight_le decode h
  have := Source.read_weight_lt read
  simp only [weight, Frame.Reader.weight_push, List.length_cons]
  omega

/-- The next envelope, and the moments on the way to it. -/
def watch (m : Metrics) (intake : Intake) : List Moment × Reading × Intake × Metrics :=
  match _h : intake.reader.next decode with
  | (some (.ok envelope), reader) =>
    ([⟨reader, false⟩], .envelope envelope, { intake with reader }, m.countIn envelope)
  | (some (.error fault), reader) =>
    if fault.recoverable then
      let (moments, last) := watch m.countMalformed { intake with reader }
      (⟨reader, false⟩ :: moments, last)
    else ([⟨reader, false⟩], .failed fault, { intake with reader }, m)
  | (none, reader) =>
    match _r : intake.source.read intake.chunk with
    | (none, _) => ([⟨reader, true⟩], .blocked, { intake with reader }, m)
    | (some (.error reason), source) =>
      ([⟨reader, true⟩], .failed (.internal ("read failed: " ++ reason)),
        { intake with reader, source }, m)
    | (some (.ok []), source) => ([⟨reader, true⟩], .ended, { intake with reader, source }, m)
    | (some (.ok (b :: bytes)), source) =>
      let grown := reader.push (b :: bytes)
      let (moments, last) := watch m { intake with reader := grown, source }
      (⟨reader, true⟩ :: ⟨grown, false⟩ :: moments, last)
termination_by intake.weight
decreasing_by
  · exact weight_of_frame _h ‹_›
  · exact weight_of_read _h _r

/-- Watching does not change what is read. -/
theorem watch_snd (m : Metrics) (intake : Intake) : (watch m intake).2 = next m intake := by
  fun_induction watch m intake with
  | case1 m intake envelope reader h => exact (next_of_frame h m).symm
  | case2 m intake fault reader h recoverable moments last eq ih =>
    rw [next_of_frame h]
    simpa only [if_pos recoverable, eq] using ih
  | case3 m intake fault reader h final =>
    rw [next_of_frame h]
    simp only [if_neg final]
  | case4 m intake reader h source eq | case5 m intake reader h reason source eq
  | case6 m intake reader h source eq => rw [next_of_none h, eq]
  | case7 m intake reader h b bytes source eq grown moments last eq' ih =>
    rw [next_of_none h, eq]
    simpa only [eq'] using ih

/-- A reader with a limit for its frames that keeps no more than so many bytes. -/
structure Keeps (limit bound : Nat) (r : Frame.Reader) : Prop where
  sound : r.Sound
  limit : r.limit = some limit
  buffered_le : r.buffered ≤ bound

/-- Whenever the source is asked, less is there than is needed, and there is never more than so much. -/
structure Moment.Within (limit bound : Nat) (moment : Moment) : Prop where
  waits : moment.asks = true → moment.reader.Waits limit
  buffered_le : moment.reader.buffered ≤ bound

variable {limit bound : Nat}

theorem Keeps.next {r : Frame.Reader} (keeps : Keeps limit bound r) :
    Keeps limit bound (r.next decode).2 where
  sound := Frame.Reader.next_sound decode keeps.sound
  limit := (Frame.Reader.next_limit decode r).trans keeps.limit
  buffered_le := Nat.le_trans (Frame.Reader.next_buffered_le r) keeps.buffered_le

/-- On the way to an envelope no moment is beyond the bounds, if there is room for a chunk. -/
theorem watch_within (m : Metrics) (intake : Intake)
    (keeps : Keeps limit bound intake.reader)
    (room : max 3 (limit - 1) + max intake.chunk 1 ≤ bound) :
    (∀ moment ∈ (watch m intake).1, moment.Within limit bound) ∧
      Keeps limit bound (watch m intake).2.2.1.reader ∧
      (watch m intake).2.2.1.chunk = intake.chunk := by
  fun_induction watch m intake with
  | case1 m intake envelope reader h | case3 m intake fault reader h =>
    have keeps' := keeps.next
    rw [h] at keeps'
    exact ⟨List.forall_mem_singleton.2 ⟨nofun, keeps'.buffered_le⟩, keeps', rfl⟩
  | case2 m intake fault reader h recoverable moments last eq ih =>
    have keeps' := keeps.next
    rw [h] at keeps'
    obtain ⟨within, rest⟩ := ih keeps' room
    rw [eq] at within rest
    exact ⟨List.forall_mem_cons.2 ⟨⟨nofun, keeps'.buffered_le⟩, within⟩, rest⟩
  | case4 m intake reader h | case5 m intake reader h | case6 m intake reader h =>
    have waits := Frame.Reader.waits_of_next keeps.sound keeps.limit h
    have keeps' := keeps.next
    rw [h] at keeps'
    exact ⟨List.forall_mem_singleton.2 ⟨fun _ => waits, keeps'.buffered_le⟩, keeps', rfl⟩
  | case7 m intake reader h b bytes source read grown moments last eq ih =>
    have waits := Frame.Reader.waits_of_next keeps.sound keeps.limit h
    have keeps' := keeps.next
    rw [h] at keeps'
    have keepsGrown : Keeps limit bound grown := by
      refine ⟨keeps'.sound.push _, keeps'.limit, ?_⟩
      calc grown.buffered
        _ = reader.buffered + (b :: bytes).length := Frame.Reader.buffered_push _ _
        _ ≤ max 3 (limit - 1) + max intake.chunk 1 :=
          Nat.add_le_add waits.buffered_le (Source.length_le_of_read read)
        _ ≤ bound := room
    obtain ⟨within, rest⟩ := ih keepsGrown room
    rw [eq] at within rest
    refine ⟨?_, rest⟩
    rw [List.forall_mem_cons, List.forall_mem_cons]
    exact ⟨⟨fun _ => waits, keeps'.buffered_le⟩, ⟨nofun, keepsGrown.buffered_le⟩, within⟩

/-- The moments of one call after the other. The source may have become any other between them. -/
def moments (m : Metrics) (intake : Intake) : List Source → List Moment
  | [] => []
  | source :: sources =>
    let (_, after, counted) := next m { intake with source }
    (watch m { intake with source }).1 ++ moments counted after sources

theorem moments_within (m : Metrics) (intake : Intake) (sources : List Source)
    (keeps : Keeps limit bound intake.reader)
    (room : max 3 (limit - 1) + max intake.chunk 1 ≤ bound) :
    ∀ moment ∈ moments m intake sources, moment.Within limit bound := by
  induction sources generalizing m intake with
  | nil => nofun
  | cons source sources ih =>
    obtain ⟨within, keeps', chunk⟩ := watch_within m { intake with source } keeps room
    rw [watch_snd] at keeps' chunk
    rw [moments, List.forall_mem_append]
    exact ⟨within, ih _ _ keeps' (by rwa [chunk])⟩

/--
However a reader with a limit was used before, and whatever the source holds for each of the calls
from then on: whenever more bytes are asked for, the reader keeps less than the next frame needs, so
fewer bytes than the limit or a header. If it did not keep more to begin with, as a new reader does
not, it never keeps more than that and a chunk.
-/
theorem moments_bounded (limit chunk : Nat) (calls : List Frame.Reader.Call) (m : Metrics)
    (sources : List Source) :
    let reader := (Frame.Reader.runCalls decode { limit := some limit } calls).2
    let most := max 3 (limit - 1) + max chunk 1
    (∀ moment ∈ moments m { reader, chunk } sources, moment.asks = true →
      moment.reader.buffered ≤ max 3 (limit - 1) ∧
      ∀ length, moment.reader.expected = some length →
        length ≤ limit ∧ moment.reader.buffered < length) ∧
    (reader.buffered ≤ most →
      ∀ moment ∈ moments m { reader, chunk } sources, moment.reader.buffered ≤ most) := by
  intro reader most
  obtain ⟨-, sound, hlimit⟩ := (Frame.Reader.follows_new decode (some limit)).runCalls
    (Frame.Reader.sound_new (some limit)) rfl calls
  constructor
  · have keeps : Keeps limit (max reader.buffered most) reader :=
      ⟨sound, hlimit, Nat.le_max_left _ _⟩
    have within := moments_within m { reader, chunk } sources keeps (Nat.le_max_right _ _)
    intro moment mem asks
    have waits := (within moment mem).waits asks
    exact ⟨waits.buffered_le, waits.fits⟩
  · intro le
    have within := moments_within m { reader, chunk } sources ⟨sound, hlimit, le⟩
      (Nat.le_refl most)
    exact fun moment mem => (within moment mem).buffered_le

theorem moments_bounded_mid_frame :
    let reader := (Frame.Reader.runCalls decode { limit := some 5 } []).2
    let moments := moments {} { reader, chunk := 3 } [{ arrivals := [.data [0, 0, 0, 5, 1, 2]] }]
    (moments.map fun moment => (moment.asks, moment.reader.expected, moment.reader.buffered)) =
      [(true, none, 0), (false, none, 3), (true, none, 3), (false, none, 6), (true, some 5, 2)] ∧
    (∀ moment ∈ moments, moment.asks = true → moment.reader.buffered ≤ 4) ∧
    ∀ moment ∈ moments, moment.reader.buffered ≤ 7 := by
  obtain ⟨asking, all⟩ := moments_bounded 5 3 [] {} [{ arrivals := [.data [0, 0, 0, 5, 1, 2]] }]
  exact ⟨by decide +kernel, fun moment mem asks => (asking moment mem asks).1, all (by decide)⟩

end Intake
end Hostlink
