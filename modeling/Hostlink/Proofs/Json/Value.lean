import Hostlink.Json.Encode
import Hostlink.Proofs.Except
import Hostlink.Proofs.Json.Draft
/-!
The text of a value is read back as the value in normal form, if no number in it is a floating-point
number and the levels suffice.
-/

namespace Hostlink.Json

mutual

/-- Every number in the value is an integer that stays one when its text is read. -/
def Value.Exact : Value → Prop
  | .number (.int i) => Number.minInt ≤ i ∧ i ≤ Number.maxInt
  | .number (.float _) => False
  | .array items => Value.ExactItems items
  | .object members => Value.ExactMembers members
  | _ => True

def Value.ExactItems : List Value → Prop
  | [] => True
  | item :: rest => item.Exact ∧ Value.ExactItems rest

def Value.ExactMembers : List (String × Value) → Prop
  | [] => True
  | (_, value) :: rest => value.Exact ∧ Value.ExactMembers rest

end

mutual

/-- How many arrays and objects are around the innermost part of the value. -/
def Value.depth : Value → Nat
  | .array items => Value.itemsDepth items + 1
  | .object members => Value.membersDepth members + 1
  | _ => 0

def Value.itemsDepth : List Value → Nat
  | [] => 0
  | item :: rest => max item.depth (Value.itemsDepth rest)

def Value.membersDepth : List (String × Value) → Nat
  | [] => 0
  | (_, value) :: rest => max value.depth (Value.membersDepth rest)

end

mutual

theorem Value.spells : ∀ v : Value, v.Exact → Spells v.chars v.draft
  | .null, _ => Spells.null
  | .bool value, _ => Spells.bool value
  | .number (.int _), exact => Spells.int exact.1 exact.2
  | .number (.float _), exact => exact.elim
  | .string text, _ => Spells.text text
  | .array items, exact => Spells.array (Value.items_spell items exact)
  | .object members, exact => Spells.object (Value.members_spell members exact)

theorem Value.items_spell : ∀ items : List Value, Value.ExactItems items →
    List.Forall₂ Spells (Value.itemChars items) (Value.draftItems items)
  | [], _ => .nil
  | item :: rest, exact => .cons (Value.spells item exact.1) (Value.items_spell rest exact.2)

theorem Value.members_spell : ∀ members : List (String × Value), Value.ExactMembers members →
    List.Forall₂ Spells.Member (Value.memberTexts members) (Value.draftMembers members)
  | [], _ => .nil
  | (key, value) :: rest, exact =>
    .cons ((Value.spells value exact.1).member key) (Value.members_spell rest exact.2)

end

mutual

theorem Value.value_draft (n : Nat) : ∀ v : Value, v.depth ≤ n →
    Draft.value (.text n) v.draft = .ok v.normal
  | .null, _ => rfl
  | .bool _, _ => rfl
  | .number _, _ => rfl
  | .string _, _ => rfl
  | .array items, le => by
    cases n with
    | zero => contradiction
    | succ n =>
      have read := Value.itemValues_draftItems n items (Nat.le_of_succ_le_succ le)
      simp only [Value.draft, Draft.value, Source.enter, ok_bind, read]
      rfl
  | .object members, le => by
    cases n with
    | zero => contradiction
    | succ n =>
      have read := Value.memberValues_draftMembers n members (Nat.le_of_succ_le_succ le)
      simp only [Value.draft, Draft.value, Source.enter, ok_bind, read]
      rfl

theorem Value.itemValues_draftItems (n : Nat) : ∀ items : List Value, Value.itemsDepth items ≤ n →
    Draft.itemValues (.text n) (Value.draftItems items) = .ok (Value.normalItems items)
  | [], _ => rfl
  | item :: rest, le => by
    have both := Nat.max_le.1 le
    simp only [Value.draftItems, Draft.itemValues, Value.value_draft n item both.1,
      Value.itemValues_draftItems n rest both.2]
    rfl

theorem Value.memberValues_draftMembers (n : Nat) :
    ∀ members : List (String × Value), Value.membersDepth members ≤ n →
      Draft.memberValues (.text n) (Value.draftMembers members) =
        .ok (Value.normalMembers members)
  | [], _ => rfl
  | (key, value) :: rest, le => by
    have both := Nat.max_le.1 le
    simp only [Value.draftMembers, Draft.memberValues, Value.value_draft n value both.1,
      Value.memberValues_draftMembers n rest both.2]
    rfl

end

end Hostlink.Json
