/-!
When computations that may fail succeed, in terms of their steps.
-/

namespace Hostlink

section

variable {ε α β : Type} {p : Prop} [Decidable p] {e : ε} {x : Except ε α} {a : α} {b : β}

theorem ok_bind (a : α) (f : α → Except ε β) : (Except.ok a >>= f) = f a := by
  rfl

theorem bind_eq_ok_iff {f : α → Except ε β} :
    (x >>= f) = .ok b ↔ ∃ a, x = .ok a ∧ f a = .ok b := by
  cases x with
  | ok a => exact ⟨fun h => ⟨a, rfl, h⟩, fun ⟨_, eq, h⟩ => by cases eq; exact h⟩
  | error e => exact ⟨nofun, nofun⟩

theorem mapError_eq_ok_iff {δ : Type} {f : ε → δ} : x.mapError f = .ok a ↔ x = .ok a := by
  cases x with
  | ok b =>
    show Except.ok b = Except.ok a ↔ Except.ok b = Except.ok a
    rw [Except.ok.injEq, Except.ok.injEq]
  | error e => exact ⟨nofun, nofun⟩

theorem toOption_eq_some_iff : x.toOption = some a ↔ x = .ok a := by
  cases x <;> simp [Except.toOption]

theorem error_else_eq_ok_iff : (if p then .error e else x) = .ok a ↔ ¬ p ∧ x = .ok a := by
  split
  · next h => exact ⟨nofun, fun ⟨no, _⟩ => absurd h no⟩
  · next h => exact ⟨fun eq => ⟨h, eq⟩, fun ⟨_, eq⟩ => eq⟩

theorem throw_bind_eq_ok_iff {f : β → Except ε α} :
    (if p then throw e >>= f else x) = .ok a ↔ ¬ p ∧ x = .ok a :=
  error_else_eq_ok_iff

end

end Hostlink
