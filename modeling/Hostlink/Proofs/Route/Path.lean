import Mathlib.Data.List.Basic
import Hostlink.Route.Pattern
/-!
What the parts of a path are, said without cutting it: a path is a text with a slash in front and at
most one slash behind, and its parts are free of slashes and make up the text when they are joined
by slashes.
-/

namespace Hostlink.Route

/-- A path is a text with a slash in front, and with one more behind or without. -/
inductive Encloses : String → String → Prop where
  | closed (inner : String) : Encloses ("/" ++ inner ++ "/") inner
  | bare {inner : String} (last : ∀ front, inner ≠ front ++ "/") : Encloses ("/" ++ inner) inner

/-- The parts of a text between its slashes. -/
structure Split (text : String) (parts : List String) : Prop where
  ne_nil : parts ≠ []
  free : ∀ part ∈ parts, '/' ∉ part.toList
  joined : "/".intercalate parts = text

/-- The parts of a path: none, if nothing is left of it without the slashes at its ends. -/
inductive HasParts (path : String) : List String → Prop where
  | root (encloses : Encloses path "") : HasParts path []
  | split {inner : String} {parts : List String} (encloses : Encloses path inner)
      (ne : inner ≠ "") (split : Split inner parts) : HasParts path parts

theorem cutAtSlashes_eq (text : List Char) : cutAtSlashes text = text.splitOn '/' := by
  induction text with
  | nil => rfl
  | cons c rest ih =>
    rw [List.splitOn_cons_eq_if_modifyHead, cutAtSlashes, ih]
    split
    · rfl
    · cases cut : rest.splitOn '/' with
      | nil => exact absurd cut (List.splitOn_ne_nil '/' rest)
      | cons part parts => rfl

theorem not_mem_of_mem_cutAtSlashes {text part : List Char} (mem : part ∈ cutAtSlashes text) :
    '/' ∉ part := by
  induction text generalizing part with
  | nil =>
    cases List.mem_singleton.1 mem
    exact List.not_mem_nil
  | cons c rest ih =>
    rw [cutAtSlashes] at mem
    split at mem
    · cases mem with
      | head => exact List.not_mem_nil
      | tail _ mem => exact ih mem
    · next ne =>
      have other : '/' ≠ c := fun eq => ne (beq_iff_eq.2 eq.symm)
      split at mem
      · cases List.mem_singleton.1 mem
        exact fun slash => other (List.mem_singleton.1 slash)
      · next first parts cut =>
        rw [cut] at ih
        cases mem with
        | head =>
          rw [List.mem_cons, not_or]
          exact ⟨other, ih List.mem_cons_self⟩
        | tail _ mem => exact ih (List.mem_cons_of_mem _ mem)

theorem toList_joined (parts : List String) :
    ("/".intercalate parts).toList = ['/'].intercalate (parts.map String.toList) :=
  String.toList_intercalate

theorem split_iff {text : String} {parts : List String} :
    Split text parts ↔ parts = (cutAtSlashes text.toList).map String.ofList := by
  rw [cutAtSlashes_eq]
  constructor
  · rintro ⟨ne_nil, free, rfl⟩
    have cut : (['/'].intercalate (parts.map String.toList)).splitOn '/' =
        parts.map String.toList := by
      apply List.splitOn_intercalate
      · rintro _ mem
        obtain ⟨part, isPart, rfl⟩ := List.mem_map.1 mem
        exact free part isPart
      · simpa using ne_nil
    rw [toList_joined, cut]
    simp [Function.comp_def]
  · rintro rfl
    constructor
    · simp [List.splitOn_ne_nil]
    · intro part mem
      obtain ⟨chars, isPart, rfl⟩ := List.mem_map.1 mem
      rw [String.toList_ofList]
      rw [← cutAtSlashes_eq] at isPart
      exact not_mem_of_mem_cutAtSlashes isPart
    · rw [← String.toList_inj, toList_joined]
      simp [Function.comp_def, List.intercalate_splitOn]

/-- A text without the slash at its end, if there is one. -/
def withoutSlash (text : List Char) : List Char :=
  if text.getLast? == some '/' then text.dropLast else text

theorem encloses_iff {path inner : String} :
    Encloses path inner ↔ ∃ rest, path.toList = '/' :: rest ∧ inner.toList = withoutSlash rest := by
  constructor
  · rintro (_ | last)
    · refine ⟨inner.toList ++ ['/'], ?_, ?_⟩
      · simp
      · simp [withoutSlash]
    · refine ⟨inner.toList, by simp, ?_⟩
      unfold withoutSlash
      rw [if_neg]
      intro isSlash
      have ends : inner.toList = inner.toList.dropLast ++ ['/'] :=
        (List.dropLast_append_getLast? '/' (beq_iff_eq.1 isSlash)).symm
      apply last (String.ofList inner.toList.dropLast)
      rw [← String.toList_inj, ends]
      simp
  · rintro ⟨rest, starts, eq⟩
    unfold withoutSlash at eq
    split at eq
    · next isSlash =>
      have ends : rest = rest.dropLast ++ ['/'] :=
        (List.dropLast_append_getLast? '/' (beq_iff_eq.1 isSlash)).symm
      have whole : path = "/" ++ inner ++ "/" := by
        rw [← String.toList_inj, starts, ends]
        simp [eq]
      rw [whole]
      exact .closed inner
    · next noSlash =>
      have whole : path = "/" ++ inner := by
        rw [← String.toList_inj, starts]
        simp [eq]
      rw [whole]
      apply Encloses.bare
      rintro front rfl
      rw [← eq] at noSlash
      simp at noSlash

theorem parts?_eq_some_iff {path : String} {parts : List String} :
    parts? path = some parts ↔ HasParts path parts := by
  constructor
  · intro h
    unfold parts? at h
    split at h
    · next rest starts =>
      have encloses : Encloses path (String.ofList (withoutSlash rest)) :=
        encloses_iff.2 ⟨rest, starts, String.toList_ofList⟩
      replace h := Option.some.inj h
      change (if (withoutSlash rest).isEmpty then [] else
        (cutAtSlashes (withoutSlash rest)).map String.ofList) = parts at h
      split at h
      · next empty =>
        rw [List.isEmpty_iff.1 empty] at encloses
        subst h
        exact .root encloses
      · next ne =>
        apply HasParts.split encloses
        · intro eq
          apply ne
          rw [List.isEmpty_iff, ← String.toList_ofList (l := withoutSlash rest), eq]
          rfl
        · rw [split_iff, String.toList_ofList]
          exact h.symm
    · contradiction
  · intro h
    cases h with
    | root encloses =>
      obtain ⟨rest, starts, eq⟩ := encloses_iff.1 encloses
      unfold parts?
      rw [starts]
      show some (if (withoutSlash rest).isEmpty then [] else _) = _
      rw [← eq]
      rfl
    | split encloses ne split =>
      obtain ⟨rest, starts, eq⟩ := encloses_iff.1 encloses
      unfold parts?
      rw [starts]
      show some (if (withoutSlash rest).isEmpty then [] else
        (cutAtSlashes (withoutSlash rest)).map String.ofList) = _
      rw [← eq, if_neg (by simpa using ne), ← split_iff.1 split]

theorem HasParts.free {path part : String} {parts : List String} (h : HasParts path parts)
    (mem : part ∈ parts) : '/' ∉ part.toList := by
  cases h with
  | root => contradiction
  | split _ _ split => exact split.free part mem

/-- A path that does not end in a slash has the same parts with a slash behind. -/
theorem HasParts.append_slash {path : String} {parts : List String} (h : HasParts path parts)
    (last : ∀ front, path ≠ front ++ "/") : HasParts (path ++ "/") parts := by
  have appended : ∀ {inner}, Encloses path inner → Encloses (path ++ "/") inner := by
    rintro _ (_ | _)
    · exact absurd rfl (last _)
    · exact .closed _
  cases h with
  | root encloses => exact .root (appended encloses)
  | split encloses ne split => exact .split (appended encloses) ne split

section

variable {text : String} {parts : List String}

theorem Split.ne_empty (split : Split text parts) (ne : "" ∉ parts) : text ≠ "" := by
  rintro rfl
  rw [split_iff] at split
  subst split
  exact ne (by decide)

theorem Split.ne_append_slash (split : Split text parts) (ne : "" ∉ parts) (front : String) :
    text ≠ front ++ "/" := by
  rintro rfl
  rw [split_iff, cutAtSlashes_eq] at split
  subst split
  apply ne
  rw [String.toList_append, List.mem_map]
  exact ⟨[], by simp [List.splitOn_append_cons_self], rfl⟩

/-- Parts joined by slashes are the parts of the path that they make, with a slash behind or not. -/
theorem hasParts_joined (free : ∀ part ∈ parts, '/' ∉ part.toList) (ne : "" ∉ parts) :
    HasParts ("/" ++ "/".intercalate parts) parts ∧
      HasParts ("/" ++ "/".intercalate parts ++ "/") parts := by
  cases parts with
  | nil => exact ⟨.root (.bare fun front eq => by simp at eq), .root (.closed "")⟩
  | cons part parts =>
    have split : Split ("/".intercalate (part :: parts)) (part :: parts) :=
      ⟨List.cons_ne_nil part parts, free, rfl⟩
    have bare := Encloses.bare (split.ne_append_slash ne)
    exact ⟨.split bare (split.ne_empty ne) split, .split (.closed _) (split.ne_empty ne) split⟩

end

end Hostlink.Route
