import Hostlink.Handler
import Mathlib.Data.List.Induction
/-!
What a table of routes is after any number of attempts to register one. The routes are those whose
patterns were accepted, in their order and numbered by it, and a path goes to the first one that
matches it, whatever is registered later.
-/

namespace Hostlink

namespace Route

variable {η : Type}

/--
An attempt to register a route: the text of its pattern, and what is to handle the requests, typed
or not.
-/
structure Attempt (η : Type) where
  text : String
  handler : η

/-- The pattern and the handler of an attempt that is accepted. -/
def Attempt.accepted? (attempt : Attempt η) : Option (Pattern × η) :=
  match Pattern.ofText attempt.text with
  | .ok pattern => some (pattern, attempt.handler)
  | .error _ => none

/-- Routes that are numbered by a counter, with the number that the next one gets. -/
structure Counted (η : Type) where
  entries : List (Entry η) := []
  next : Nat := 0

/-- An attempt that is accepted takes the next number, any other takes none. -/
def Counted.attempt (counted : Counted η) (attempt : Attempt η) : Counted η :=
  match attempt.accepted? with
  | some (pattern, handler) =>
    ⟨counted.entries ++ [⟨counted.next, pattern, handler⟩], counted.next + 1⟩
  | none => counted

namespace Table

/-- The answer to an attempt, and the table that one goes on with. -/
def answer (table : Table η) (attempt : Attempt η) : Except Fault Nat × Table η :=
  match table.register attempt.text attempt.handler with
  | .ok (id, table) => (.ok id, table)
  | .error fault => (.error fault, table)

/-- The table after attempts, from an empty one on. -/
def after (attempts : List (Attempt η)) : Table η :=
  attempts.foldl (fun table attempt => (table.answer attempt).2) {}

/-- A table of given routes, numbered in their order. -/
def Lists (table : Table η) (routes : List (Pattern × η)) : Prop :=
  table.entries = routes.mapIdx fun id route => ⟨id, route.1, route.2⟩

variable {table : Table η} {routes : List (Pattern × η)}

theorem answer_fst (attempt : Attempt η) :
    (table.answer attempt).1 = (Pattern.ofText attempt.text).map fun _ => table.size := by
  unfold answer register
  cases Pattern.ofText attempt.text <;> rfl

theorem answer_snd (attempt : Attempt η) :
    (table.answer attempt).2.entries = table.entries ++
      (attempt.accepted?.map fun route => ⟨table.size, route.1, route.2⟩).toList := by
  unfold answer register Attempt.accepted?
  cases Pattern.ofText attempt.text with
  | ok pattern => rfl
  | error fault => exact (List.append_nil _).symm

theorem answer_of_error {attempt : Attempt η} {fault : Fault}
    (h : (table.answer attempt).1 = .error fault) : (table.answer attempt).2 = table := by
  unfold answer at h ⊢
  split
  · next eq =>
    rw [eq] at h
    contradiction
  · rfl

theorem Lists.size_eq (lists : table.Lists routes) : table.size = routes.length := by
  unfold size
  rw [lists, List.length_mapIdx]

/-- An attempt that is accepted puts its route behind the others, any other changes nothing. -/
theorem Lists.answer (lists : table.Lists routes) (attempt : Attempt η) :
    (table.answer attempt).2.Lists (routes ++ attempt.accepted?.toList) := by
  unfold Lists
  rw [answer_snd, lists.size_eq, lists, List.mapIdx_append]
  cases attempt.accepted? <;> simp

theorem after_append_singleton (attempts : List (Attempt η)) (attempt : Attempt η) :
    after (attempts ++ [attempt]) = ((after attempts).answer attempt).2 := by
  unfold after
  rw [List.foldl_append]
  rfl

theorem lists_after (attempts : List (Attempt η)) :
    (after attempts).Lists (attempts.filterMap Attempt.accepted?) := by
  induction attempts using List.reverseRecOn with
  | nil => rfl
  | append_singleton attempts attempt ih =>
    rw [after_append_singleton, List.filterMap_append]
    have := ih.answer attempt
    cases h : attempt.accepted? <;> simpa [h] using this

/-- The number of routes is what a counter would tell, and numbers the routes as the counter does. -/
theorem counted_after (attempts : List (Attempt η)) :
    attempts.foldl Counted.attempt {} = ⟨(after attempts).entries, (after attempts).size⟩ := by
  induction attempts using List.reverseRecOn with
  | nil => rfl
  | append_singleton attempts attempt ih =>
    rw [List.foldl_append, ih, after_append_singleton]
    show Counted.attempt _ attempt = _
    unfold Counted.attempt size
    rw [answer_snd]
    cases attempt.accepted? <;> simp [size]

/-- The numbers of the routes ascend. -/
theorem Lists.ascending (lists : table.Lists routes) :
    table.entries.Pairwise fun first second => first.id < second.id := by
  rw [lists, List.pairwise_iff_getElem]
  intro i j hi hj lt
  simpa using lt

theorem Lists.kept {more : List (Pattern × η)} {larger : Table η} (lists : table.Lists routes)
    (others : larger.Lists (routes ++ more)) : table.entries <+: larger.entries := by
  rw [lists, others, List.mapIdx_append]
  exact List.prefix_append _ _

/-- The route that is found is the one with the least number among those that match. -/
theorem find?_eq_some_iff
    (ascending : table.entries.Pairwise fun first second => first.id < second.id) {path : String}
    {entry : Entry η} {params : Params} :
    table.find? path = some (entry, params) ↔
      entry ∈ table.entries ∧ entry.pattern.matches? path = some params ∧
        ∀ other ∈ table.entries, other.id < entry.id → other.pattern.matches? path = none := by
  unfold find?
  simp only [List.findSome?_eq_some_iff, Option.map_eq_some_iff, Option.map_eq_none_iff]
  constructor
  · rintro ⟨before, _, behind, eq, ⟨_, matched, ⟨⟩⟩, unmatched⟩
    rw [eq] at ascending ⊢
    refine ⟨by simp, matched, ?_⟩
    intro other mem lt
    obtain mem | mem := List.mem_append.1 mem
    · exact unmatched other mem
    · -- what is not in front has no smaller number
      have behind := (List.pairwise_cons.1 (List.pairwise_append.1 ascending).2.1).1
      obtain rfl | mem := List.mem_cons.1 mem
      · exact absurd lt (Nat.lt_irrefl _)
      · exact absurd lt (Nat.lt_asymm (behind other mem))
  · rintro ⟨mem, matched, unmatched⟩
    obtain ⟨before, behind, eq⟩ := List.append_of_mem mem
    refine ⟨before, entry, behind, eq, ⟨params, matched, rfl⟩, ?_⟩
    intro other isBefore
    rw [eq] at ascending unmatched
    exact unmatched other (List.mem_append_left _ isBefore)
      ((List.pairwise_append.1 ascending).2.2 other isBefore entry List.mem_cons_self)

theorem find?_eq_none_iff {path : String} :
    table.find? path = none ↔ ∀ entry ∈ table.entries, entry.pattern.matches? path = none := by
  unfold find?
  simp only [List.findSome?_eq_none_iff, Option.map_eq_none_iff]

theorem find?_of_kept {larger : Table η} (kept : table.entries <+: larger.entries) {path : String}
    {found : Entry η × Params} (h : table.find? path = some found) :
    larger.find? path = some found := by
  obtain ⟨more, eq⟩ := kept
  unfold find? at h ⊢
  rw [← eq, List.findSome?_append, h]
  rfl

/--
After any attempts: the next one is answered with the number of routes so far if its text is a
pattern, and changes nothing otherwise. The routes are those that were accepted, numbered in their
order, which is how a counter numbers them. A path goes to the route with the least number that
matches it, also after further attempts, and a request is handled by what handles that route.
-/
theorem after_finds_first (attempts : List (Attempt Handler)) :
    let table := after attempts
    (∀ attempt, (table.answer attempt).1 =
      (Pattern.ofText attempt.text).map fun _ => (attempts.filterMap Attempt.accepted?).length) ∧
    (∀ attempt fault, (table.answer attempt).1 = .error fault →
      (table.answer attempt).2 = table) ∧
    table.entries = (attempts.filterMap Attempt.accepted?).mapIdx
      (fun id route => ⟨id, route.1, route.2⟩) ∧
    attempts.foldl Counted.attempt {} = ⟨table.entries, table.size⟩ ∧
    (∀ path entry params, table.find? path = some (entry, params) ↔
      entry ∈ table.entries ∧ entry.pattern.matches? path = some params ∧
        ∀ other ∈ table.entries, other.id < entry.id → other.pattern.matches? path = none) ∧
    (∀ path, table.find? path = none ↔
      ∀ entry ∈ table.entries, entry.pattern.matches? path = none) ∧
    (∀ more, table.entries <+: (after (attempts ++ more)).entries ∧
      ∀ path found, table.find? path = some found →
        (after (attempts ++ more)).find? path = some found) ∧
    (∀ path request, (Routes.call table path request = none ↔ table.find? path = none) ∧
      ∀ entry params, table.find? path = some (entry, params) →
        Routes.call table path request = some (entry.handler request params)) := by
  intro table
  have lists := lists_after attempts
  refine ⟨?_, fun _ _ => answer_of_error, lists, counted_after attempts, ?_,
    fun _ => find?_eq_none_iff, ?_, ?_⟩
  · intro attempt
    rw [answer_fst, lists.size_eq]
  · intro path entry params
    exact find?_eq_some_iff lists.ascending
  · intro more
    have others := lists_after (attempts ++ more)
    rw [List.filterMap_append] at others
    have kept := lists.kept others
    exact ⟨kept, fun path found => find?_of_kept kept⟩
  · intro path request
    unfold Routes.call
    refine ⟨Option.map_eq_none_iff, ?_⟩
    intro entry params found
    rw [found]
    rfl

end Table
end Route
end Hostlink
