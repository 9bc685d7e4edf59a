/-!
Lookups in lists of named values, where no name occurs twice.
-/

namespace Hostlink

variable {α : Type} {entries : List (String × α)} {key : String}

theorem lookup_eq_none (h : key ∉ entries.map Prod.fst) : entries.lookup key = none := by
  rw [List.lookup_eq_none_iff]
  intro e mem
  rw [bne_iff_ne]
  rintro rfl
  exact h (List.mem_map_of_mem mem)

theorem exists_lookup (h : key ∈ entries.map Prod.fst) : ∃ a, entries.lookup key = some a := by
  rw [← Option.isSome_iff_exists, List.lookup_isSome_iff]
  obtain ⟨entry, mem, eq⟩ := List.mem_map.1 h
  exact ⟨entry, mem, beq_iff_eq.2 eq.symm⟩

theorem lookup_eq_some_iff {a : α} (nodup : (entries.map Prod.fst).Nodup) :
    entries.lookup key = some a ↔ (key, a) ∈ entries := by
  induction entries with
  | nil => simp
  | cons entry entries ih =>
    obtain ⟨first, value⟩ := entry
    rw [List.map_cons, List.nodup_cons] at nodup
    rw [List.lookup_cons, List.mem_cons, Prod.mk.injEq]
    by_cases h : key = first
    · subst h
      have absent : (key, a) ∉ entries := fun mem => nodup.1 (List.mem_map.2 ⟨_, mem, rfl⟩)
      simp [absent, eq_comm]
    · simp [h, beq_eq_false_iff_ne.2 h, ih nodup.2]

/-- The values under a name are the one that is found for it. -/
theorem filter_fst_eq_lookup (nodup : (entries.map Prod.fst).Nodup) (key : String) :
    (entries.filter (·.1 == key)).map Prod.snd = (entries.lookup key).toList := by
  induction entries with
  | nil => rfl
  | cons entry entries ih =>
    obtain ⟨first, value⟩ := entry
    rw [List.map_cons, List.nodup_cons] at nodup
    by_cases h : first = key
    · subst h
      have none : entries.filter (·.1 == first) = [] := by
        rw [List.filter_eq_nil_iff]
        intro other mem same
        exact nodup.1 (List.mem_map.2 ⟨other, mem, beq_iff_eq.1 same⟩)
      rw [List.filter_cons_of_pos (by simp), none, List.lookup_cons_self]
      rfl
    · rw [List.filter_cons_of_neg (by simpa using h), ih nodup.2, List.lookup_cons,
        beq_false_of_ne (Ne.symm h)]

end Hostlink
