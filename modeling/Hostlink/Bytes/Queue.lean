import Hostlink.Bytes
/-!
Queues of bytes: chunks are added at the end, and any number of bytes is taken from the front. What
was added stays in chunks until something is taken, so that many small chunks cost no more than a
few large ones.
-/

namespace Hostlink.Bytes

/-- A queue of bytes. -/
structure Queue where
  front : Bytes
  /-- The chunks behind the front, the last one first. -/
  back : List Bytes
  /-- The number of bytes. -/
  size : Nat
  size_eq : size = (front ++ back.reverse.flatten).length
deriving Repr

namespace Queue

/-- The queue without bytes. -/
def empty : Queue := ⟨[], [], 0, rfl⟩

instance : Inhabited Queue := ⟨empty⟩

/-- The bytes in their order. -/
def toList (q : Queue) : Bytes :=
  match q.back with
  | [] => q.front
  | chunk :: back => q.front ++ (chunk :: back).reverse.flatten

theorem toList_eq (q : Queue) : q.toList = q.front ++ q.back.reverse.flatten := by
  unfold toList
  split
  · next h => simp only [h, List.reverse_nil, List.flatten_nil, List.append_nil]
  · next h => rw [h]

theorem length_toList (q : Queue) : q.toList.length = q.size := by
  rw [toList_eq, q.size_eq]

/-- Add a chunk at the end. -/
def push (q : Queue) (chunk : Bytes) : Queue where
  front := q.front
  back := chunk :: q.back
  size := q.size + chunk.length
  size_eq := by
    simp only [q.size_eq, List.reverse_cons, List.flatten_append, List.flatten_cons,
      List.flatten_nil, List.append_nil, List.length_append]
    omega

theorem toList_push (q : Queue) (chunk : Bytes) : (q.push chunk).toList = q.toList ++ chunk := by
  simp only [toList_eq, push, List.reverse_cons, List.flatten_append, List.flatten_cons,
    List.flatten_nil, List.append_nil, List.append_assoc]

/-- The first `n` bytes and what follows them, if there are so many. -/
def take? (q : Queue) (n : Nat) : Option (Bytes × Queue) :=
  if n ≤ q.size then
    let all := q.toList
    have size_eq : q.size - n = (all.drop n ++ ([] : List Bytes).reverse.flatten).length := by
      simp only [all, List.reverse_nil, List.flatten_nil, List.append_nil, List.length_drop,
        length_toList]
    some (all.take n, ⟨all.drop n, [], q.size - n, size_eq⟩)
  else none

theorem take?_eq_none {q : Queue} {n : Nat} (h : q.take? n = none) : q.size < n := by
  unfold take? at h
  split at h
  · simp at h
  · omega

theorem of_take?_eq_some {q rest : Queue} {n : Nat} {bytes : Bytes}
    (h : q.take? n = some (bytes, rest)) :
    bytes = q.toList.take n ∧ rest.toList = q.toList.drop n ∧ rest.size + n = q.size := by
  unfold take? at h
  split at h
  · next le =>
    simp only [Option.some.injEq, Prod.mk.injEq] at h
    obtain ⟨rfl, rfl⟩ := h
    exact ⟨rfl, rfl, Nat.sub_add_cancel le⟩
  · simp at h

end Queue
end Hostlink.Bytes
