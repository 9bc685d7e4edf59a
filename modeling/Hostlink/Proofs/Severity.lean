import Hostlink.Proofs.Text.Integer
import Hostlink.Severity
/-!
Which texts are degrees of severity.
-/

namespace Hostlink.Severity

open Text (IntegerRange Plus Spells)

/-- The texts of a degree: its name in upper or lower case, or its rank, maybe behind a plus. -/
inductive SpelledBy (severity : Severity) (text : String) : Prop where
  | name (same : text.toList.map Char.toLower = severity.name.toList.map Char.toLower)
  | rank {digits : List Char} (plus : Plus text.toList digits)
      (spells : Spells 10 digits severity.rank)

variable {severity : Severity} {text : String}

theorem find?_rank {rank : Int} :
    (all.find? fun s => (s.rank : Int) == rank) = some severity ↔ rank = severity.rank := by
  constructor
  · intro find
    have eq := List.find?_some find
    exact (beq_iff_eq.1 eq).symm
  · rintro rfl
    cases severity <;> rfl

theorem find?_sameName :
    all.find? (sameName ·.name text) = some severity ↔
      text.toList.map Char.toLower = severity.name.toList.map Char.toLower := by
  constructor
  · intro find
    have eq := List.find?_some find
    exact (beq_iff_eq.1 eq).symm
  · intro same
    have name : ∀ s : Severity, sameName s.name text =
        (s.name.toList.map Char.toLower == severity.name.toList.map Char.toLower) :=
      fun s => congrArg (s.name.toList.map Char.toLower == ·) same
    simp only [name]
    cases severity <;> decide

theorem toLower_of_isDigit {c : Char} (h : c.isDigit = true) : c.toLower = c := by
  simp only [Char.isDigit, Bool.and_eq_true, decide_eq_true_eq] at h
  unfold Char.toLower
  rw [dif_neg]
  intro upper
  exact absurd (UInt32.le_trans upper.1 h.2) (by decide)

/-- No name of a degree looks like a number, since it starts with a letter. -/
theorem not_number_of_name
    (same : text.toList.map Char.toLower = severity.name.toList.map Char.toLower)
    {digits : List Char} {n : Nat} (plus : Plus text.toList digits) (spells : Spells 10 digits n) :
    False := by
  have letter : (text.toList.map Char.toLower).head?.any (fun c => c.isDigit || c == '+') =
      false := by
    rw [same]
    cases severity <;> decide
  obtain bare | signed := plus
  · cases digits with
    | nil => exact spells.1 rfl
    | cons c rest =>
      have isDigit := List.all_eq_true.1 spells.all_isDigit c List.mem_cons_self
      simp [bare, toLower_of_isDigit isDigit, isDigit] at letter
  · simp [signed] at letter

theorem ofText?_eq_some_iff : ofText? text = some severity ↔ severity.SpelledBy text := by
  have reads (rank : Int) : (IntegerRange.unsigned 64).read 10 text.toList = .ok rank ↔
      ∃ digits n, Plus text.toList digits ∧ Spells 10 digits n ∧ n < 1 <<< 64 ∧ rank = n :=
    IntegerRange.read_unsigned_eq_ok_iff (by decide)
  have small : severity.rank < 1 <<< 64 := by cases severity <;> decide
  unfold ofText?
  cases read : (IntegerRange.unsigned 64).read 10 text.toList with
  | ok rank =>
    obtain ⟨digits, n, plus, spells, -, rfl⟩ := (reads rank).1 read
    show (all.find? fun s => (s.rank : Int) == (n : Int)) = some severity ↔ _
    rw [find?_rank, Int.natCast_inj]
    constructor
    · rintro rfl
      exact .rank plus spells
    · rintro (same | ⟨plus', spells'⟩)
      · exact (not_number_of_name same plus spells).elim
      · have again := (reads severity.rank).2 ⟨_, _, plus', spells', small, rfl⟩
        rw [read, Except.ok.injEq, Int.natCast_inj] at again
        exact again
  | error fault =>
    show all.find? (sameName ·.name text) = some severity ↔ _
    rw [find?_sameName]
    constructor
    · exact .name
    · rintro (same | ⟨plus, spells⟩)
      · exact same
      · have again := (reads severity.rank).2 ⟨_, _, plus, spells, small, rfl⟩
        rw [read] at again
        contradiction

end Hostlink.Severity
