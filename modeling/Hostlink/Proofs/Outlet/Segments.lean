import Mathlib.Algebra.Order.Floor.Div
import Hostlink.Proofs.Outlet
/-!
The segments that a frame is written in. They can be taken one at a time, from what is left of the
bytes, and that comes to an end. None is empty, all but the last have the length of a segment, and
so their number is the length of the bytes divided by it, rounded up.
-/

namespace Hostlink.Bytes

variable {size : Nat} {bytes segment : Bytes}

/-- Segments that are taken one at a time: the bytes that are left, and the length of a segment. -/
structure Cutting where
  rest : Bytes
  size : Nat

namespace Cutting

/-- All bytes are left. A size of zero counts as one. -/
def start (size : Nat) (bytes : Bytes) : Cutting :=
  { rest := bytes, size := max size 1 }

/-- Take the next segment, if there are bytes left. -/
def next (cutting : Cutting) : Option Bytes × Cutting :=
  if cutting.rest.isEmpty then (none, cutting)
  else
    let count := min cutting.size cutting.rest.length
    (some (cutting.rest.take count), { cutting with rest := cutting.rest.drop count })

/-- Segments are taken until there is none, and these are all. -/
inductive Gives : Cutting → List Bytes → Prop where
  | ended {cutting after : Cutting} (nothing : cutting.next = (none, after)) : Gives cutting []
  | segment {cutting after : Cutting} {segment : Bytes} {segments : List Bytes}
      (taken : cutting.next = (some segment, after)) (rest : Gives after segments) :
      Gives cutting (segment :: segments)

end Cutting

theorem segments_nil (size : Nat) : segments size [] = [] := by
  rw [segments]

theorem segments_cons (size : Nat) (b : UInt8) (rest : Bytes) :
    segments size (b :: rest) =
      (b :: rest).take (max size 1) :: segments size ((b :: rest).drop (max size 1)) := by
  have one : max size 1 = size - 1 + 1 := by omega
  rw [segments, one, List.take_succ_cons, List.drop_succ_cons]

theorem segments_eq_nil_iff : segments size bytes = [] ↔ bytes = [] := by
  cases bytes with
  | nil => simp only [segments_nil]
  | cons b rest => simp only [segments_cons, List.cons_ne_nil]

theorem Cutting.next_of_cons (size : Nat) (b : UInt8) (rest : Bytes) :
    (start size (b :: rest)).next =
      (some ((b :: rest).take (max size 1)), start size ((b :: rest).drop (max size 1))) := by
  simp only [next, start, List.isEmpty_cons, Bool.false_eq_true, if_false, Prod.mk.injEq,
    Option.some.injEq, Cutting.mk.injEq, and_true]
  -- to take more bytes than there are is to take all
  exact ⟨List.take_eq_take_min.symm, List.drop_eq_drop_min.symm⟩

/-- Taking segments ends, and gives those that the bytes are cut into. -/
theorem Cutting.gives_segments (size : Nat) (bytes : Bytes) :
    (start size bytes).Gives (segments size bytes) := by
  induction h : bytes.length using Nat.strongRecOn generalizing bytes with
  | ind n ih =>
    cases bytes with
    | nil =>
      rw [segments_nil]
      exact .ended rfl
    | cons b rest =>
      rw [segments_cons]
      refine .segment (next_of_cons size b rest) (ih _ ?_ _ rfl)
      rw [← h, List.length_drop, List.length_cons]
      omega

theorem length_of_mem_segments (mem : segment ∈ segments size bytes) :
    1 ≤ segment.length ∧ segment.length ≤ max size 1 := by
  fun_induction segments size bytes with
  | case1 => contradiction
  | case2 b rest ih =>
    cases mem with
    | head =>
      rw [List.length_cons, List.length_take]
      omega
    | tail _ mem => exact ih mem

theorem length_of_mem_dropLast_segments (mem : segment ∈ (segments size bytes).dropLast) :
    segment.length = max size 1 := by
  fun_induction segments size bytes with
  | case1 => contradiction
  | case2 b rest ih =>
    by_cases left : rest.drop (size - 1) = []
    · rw [left, segments_nil] at mem
      contradiction
    · rw [List.dropLast_cons_of_ne_nil (mt segments_eq_nil_iff.1 left), List.mem_cons] at mem
      cases mem with
      | inl first =>
        -- a segment with another one behind it has left bytes over
        have more : size - 1 < rest.length := by
          rwa [List.drop_eq_nil_iff, Nat.not_le] at left
        rw [first, List.length_cons, List.length_take]
        omega
      | inr mem => exact ih mem

theorem length_segments (size : Nat) (bytes : Bytes) :
    (segments size bytes).length = bytes.length ⌈/⌉ max size 1 := by
  fun_induction segments size bytes with
  | case1 => exact (zero_ceilDiv _).symm
  | case2 b rest ih =>
    have pos : 0 < max size 1 := by omega
    have left : (rest.length - (size - 1) + max size 1 - 1) / max size 1 =
        rest.length / max size 1 := by
      by_cases more : size - 1 ≤ rest.length
      · congr 1
        omega
      · rw [Nat.div_eq_of_lt (by omega), Nat.div_eq_of_lt (by omega)]
    calc (segments size (rest.drop (size - 1))).length + 1
      _ = (rest.length - (size - 1) + max size 1 - 1) / max size 1 + 1 := by
        rw [ih, List.length_drop, Nat.ceilDiv_eq_add_pred_div]
      _ = (rest.length + max size 1) / max size 1 := by
        rw [left, Nat.add_div_right _ pos]
      _ = (b :: rest).length ⌈/⌉ max size 1 := by
        rw [Nat.ceilDiv_eq_add_pred_div, List.length_cons, Nat.add_right_comm, Nat.add_sub_cancel]

/--
Whatever the size, zero counting as one: taking segments ends, and their concatenation is the byte
string. No segment is empty, each but the last has exactly that size, the last has at most that
size, and there are as many as the length divided by the size, rounded up: none for no bytes.
-/
theorem segments_partition (size : Nat) (bytes : Bytes) :
    (Cutting.start size bytes).Gives (bytes.segments size) ∧
    (bytes.segments size).flatten = bytes ∧
    (∀ segment ∈ bytes.segments size, segment ≠ []) ∧
    (∀ segment ∈ (bytes.segments size).dropLast, segment.length = max size 1) ∧
    (∀ segment ∈ (bytes.segments size).getLast?,
      1 ≤ segment.length ∧ segment.length ≤ max size 1) ∧
    (bytes.segments size).length = bytes.length ⌈/⌉ max size 1 ∧
    (bytes.segments size = [] ↔ bytes = []) := by
  refine ⟨Cutting.gives_segments size bytes, flatten_segments size bytes, ?_, ?_, ?_,
    length_segments size bytes, segments_eq_nil_iff⟩
  · intro segment mem
    exact List.ne_nil_of_length_pos (length_of_mem_segments mem).1
  · intro segment mem
    exact length_of_mem_dropLast_segments mem
  · intro segment last
    exact length_of_mem_segments (List.mem_of_getLast? last)

example : segments 2 [1, 2, 3, 4, 5] = [[1, 2], [3, 4], [5]] := by
  decide +kernel

end Hostlink.Bytes
