import Mathlib.Data.List.Nodup
import Hostlink.Proofs.Lookup
import Hostlink.Proofs.Yaml.Scalar
/-!
Which nodes are records: mappings of known keys, each there at most once, in any order. What is read
from one is told field by field, by the value that is given for a key or by the usual one.
-/

namespace Hostlink.Yaml

/-- The node of a document that is read: its root, or an empty node in place of one. -/
def Document.content (document : Document) : Node :=
  document.root.getD (.empty {})

/-- The values of a mapping by the texts of their keys. -/
def Named (document : Document) (entries : List (Node × Node)) (given : List (String × Node)) :
    Prop :=
  List.Forall₂ (fun entry named => IsText document entry.1 named.1 ∧ entry.2 = named.2)
    entries given

/-- A mapping, and the values that are given in it. -/
def IsMapping (document : Document) (node : Node) (given : List (String × Node)) : Prop :=
  ∃ props entries, document.meant node = .mapping props entries ∧ Named document entries given

/-- The values that are given in a node: a mapping, or nothing at all. -/
inductive Gives (document : Document) (node : Node) : List (String × Node) → Prop where
  | mapping {given : List (String × Node)} (h : IsMapping document node given) :
    Gives document node given
  | empty {props : Props} (h : document.meant node = .scalar props .plain "") :
    Gives document node []

/-- A record with keys among given names, none of them twice. -/
structure Record (document : Document) (names : List String) (node : Node)
    (given : List (String × Node)) : Prop where
  gives : Gives document node given
  known : ∀ name ∈ given.map Prod.fst, name ∈ names
  once : (given.map Prod.fst).Nodup

/-- A node that stands for what is told by the values that are given in it. -/
def IsRecord {α : Type} (document : Document) (names : List String)
    (account : List (String × Node) → α → Prop) (node : Node) (a : α) : Prop :=
  ∃ given, Record document names node given ∧ account given a

/-- The value of a field: that of the node that is given for it, or else the usual one. -/
inductive Takes {α : Type} (Is : Node → α → Prop) (usual : α) : Option Node → α → Prop where
  | given {node : Node} {a : α} (h : Is node a) : Takes Is usual (some node) a
  | absent : Takes Is usual none usual

section

variable {α : Type} {Is : Node → α → Prop} {usual a : α} {node : Node}

@[simp] theorem takes_some_iff : Takes Is usual (some node) a ↔ Is node a :=
  ⟨fun | .given h => h, .given⟩

@[simp] theorem takes_none_iff : Takes Is usual none a ↔ a = usual :=
  ⟨fun | .absent => rfl, fun | rfl => .absent⟩

end

variable {ρ : Type} {document : Document} {fields : List (Field ρ)}

/--
An account of what given values, no two with one name, make of a record: none changes nothing, and
the first one changes it as its field says, in front of the others.
-/
structure Follows (document : Document) (fields : List (Field ρ))
    (account : ρ → List (String × Node) → ρ → Prop) : Prop where
  nil : ∀ start record, account start [] record ↔ record = start
  cons : ∀ field ∈ fields, ∀ path node rest start record, rest.lookup field.name = none →
    (account start ((field.name, node) :: rest) record ↔
      ∃ change, field.read ⟨document, path, node⟩ = .ok change ∧
        account (change start) rest record)

/-- Values with known names, no name there twice or seen before. -/
structure Fresh (names seen : List String) (given : List (String × Node)) : Prop where
  known : ∀ name ∈ given.map Prod.fst, name ∈ names
  once : (given.map Prod.fst).Nodup
  unseen : ∀ name ∈ given.map Prod.fst, name ∉ seen

theorem fresh_cons_iff {names seen : List String} {key : String} {node : Node}
    {given : List (String × Node)} :
    Fresh names seen ((key, node) :: given) ↔
      key ∈ names ∧ key ∉ seen ∧ Fresh names (key :: seen) given := by
  constructor
  · rintro ⟨known, once, unseen⟩
    rw [List.map_cons] at known once unseen
    rw [List.nodup_cons] at once
    rw [List.forall_mem_cons] at known unseen
    refine ⟨known.1, unseen.1, known.2, once.2, fun name mem => ?_⟩
    rw [List.mem_cons, not_or]
    exact ⟨fun eq => once.1 (eq ▸ mem), unseen.2 name mem⟩
  · rintro ⟨isKnown, isUnseen, known, once, unseen⟩
    refine ⟨?_, ?_, ?_⟩
    · rw [List.map_cons, List.forall_mem_cons]
      exact ⟨isKnown, known⟩
    · rw [List.map_cons, List.nodup_cons]
      exact ⟨fun mem => unseen key mem List.mem_cons_self, once⟩
    · rw [List.map_cons, List.forall_mem_cons]
      exact ⟨isUnseen, fun name mem seen => unseen name mem (List.mem_cons_of_mem _ seen)⟩

theorem record_iff {names : List String} {node : Node} {given : List (String × Node)} :
    Record document names node given ↔ Gives document node given ∧ Fresh names [] given :=
  ⟨fun ⟨gives, known, once⟩ => ⟨gives, known, once, fun _ _ => List.not_mem_nil⟩,
    fun ⟨gives, fresh⟩ => ⟨gives, fresh.known, fresh.once⟩⟩

variable {site : Site} {record start : ρ} {seen after : List String}

/-- An entry is read by the field that its key names, and the others after it. -/
theorem readEntries_cons_eq_ok_iff {keyNode node : Node} {entries : List (Node × Node)} :
    readEntries fields site ((keyNode, node) :: entries) seen start = .ok (record, after) ↔
      ∃ key field change, IsText site.document keyNode key ∧
        fields.find? (·.name == key) = some field ∧ key ∉ seen ∧
        field.read ⟨site.document, site.path ++ [keyNode.pathWord], node⟩ = .ok change ∧
        readEntries fields site entries (key :: seen) (change start) = .ok (record, after) := by
  simp only [readEntries, bind_eq_ok_iff, Site.text_eq_ok_iff]
  constructor
  · rintro ⟨key, isText, h⟩
    cases find : fields.find? (·.name == key) with
    | none => simp [find, Site.fail] at h
    | some field =>
      simp only [find] at h
      obtain ⟨unseen, h⟩ := throw_bind_eq_ok_iff.1 h
      obtain ⟨change, read, h⟩ := bind_eq_ok_iff.1 h
      exact ⟨key, field, change, isText, find, by simpa using unseen, read, h⟩
  · rintro ⟨key, field, change, isText, find, unseen, read, h⟩
    refine ⟨key, isText, ?_⟩
    simp only [find]
    refine throw_bind_eq_ok_iff.2 ⟨by simpa using unseen, ?_⟩
    exact bind_eq_ok_iff.2 ⟨change, read, h⟩

variable {account : ρ → List (String × Node) → ρ → Prop}

theorem readEntries_eq_ok_iff (follows : Follows site.document fields account)
    {entries : List (Node × Node)} :
    readEntries fields site entries seen start = .ok (record, after) ↔
      ∃ given, Named site.document entries given ∧ Fresh (fields.map Field.name) seen given ∧
        account start given record ∧ after = (given.map Prod.fst).reverse ++ seen := by
  induction entries generalizing seen start with
  | nil =>
    rw [readEntries, Except.ok.injEq, Prod.mk.injEq]
    constructor
    · rintro ⟨rfl, rfl⟩
      exact ⟨[], .nil, ⟨nofun, .nil, nofun⟩, (follows.nil _ _).2 rfl, rfl⟩
    · rintro ⟨_, ⟨⟩, -, same, rfl⟩
      exact ⟨((follows.nil _ _).1 same).symm, rfl⟩
  | cons entry entries ih =>
    obtain ⟨keyNode, node⟩ := entry
    have cons {field : Field ρ} {given : List (String × Node)} (mem : field ∈ fields)
        (fresh : Fresh (fields.map Field.name) (field.name :: seen) given) :=
      follows.cons field mem (site.path ++ [keyNode.pathWord]) node given start record <|
        lookup_eq_none fun isName => fresh.unseen _ isName List.mem_cons_self
    simp only [readEntries_cons_eq_ok_iff, ih]
    constructor
    · rintro ⟨key, field, change, isText, find, unseen, read, given, named, fresh, same, rfl⟩
      have mem := List.mem_of_find?_eq_some find
      have name := List.find?_some find
      rw [beq_iff_eq] at name
      subst name
      refine ⟨(field.name, node) :: given, .cons ⟨isText, rfl⟩ named, ?_, ?_, by simp⟩
      · exact fresh_cons_iff.2 ⟨List.mem_map_of_mem mem, unseen, fresh⟩
      · exact (cons mem fresh).2 ⟨change, read, same⟩
    · rintro ⟨_, named, fresh, same, rfl⟩
      cases named with
      | @cons _ value _ given head named =>
        obtain ⟨key, value⟩ := value
        obtain ⟨isText, rfl⟩ := head
        obtain ⟨isName, unseen, fresh⟩ := fresh_cons_iff.1 fresh
        obtain ⟨field, find⟩ : ∃ field, fields.find? (·.name == key) = some field := by
          rw [← Option.isSome_iff_exists, List.find?_isSome]
          simpa using isName
        have mem := List.mem_of_find?_eq_some find
        have name := List.find?_some find
        rw [beq_iff_eq] at name
        subst name
        obtain ⟨change, read, same⟩ := (cons mem fresh).1 same
        exact ⟨field.name, field, change, isText, find, unseen, read, given, named, fresh, same,
          by simp⟩

/-- What is read from a node is told by the values that are given in it, if it is a record. -/
theorem readRecord_eq_ok_iff (follows : Follows site.document fields account) {name : String} :
    readRecord name fields start site = .ok (record, seen) ↔
      ∃ given, Record site.document (fields.map Field.name) site.node given ∧
        account start given record ∧ seen = (given.map Prod.fst).reverse := by
  unfold readRecord
  rw [Site.target_eq_meant]
  simp only [record_iff]
  split
  · next props entries target =>
    rw [readEntries_eq_ok_iff follows]
    simp only [List.append_nil]
    constructor
    · rintro ⟨given, named, fresh, h⟩
      exact ⟨given, ⟨.mapping ⟨props, entries, target, named⟩, fresh⟩, h⟩
    · rintro ⟨given, ⟨gives, fresh⟩, h⟩
      cases gives with
      | mapping isMapping =>
        obtain ⟨_, _, same, named⟩ := isMapping
        cases target.symm.trans same
        exact ⟨given, named, fresh, h⟩
      | empty isEmpty => cases target.symm.trans isEmpty
  · next props target =>
    rw [Except.ok.injEq, Prod.mk.injEq]
    constructor
    · rintro ⟨rfl, rfl⟩
      exact ⟨[], ⟨.empty target, nofun, .nil, nofun⟩, (follows.nil _ _).2 rfl, rfl⟩
    · rintro ⟨given, ⟨gives, -⟩, same, rfl⟩
      cases gives with
      | mapping isMapping =>
        obtain ⟨_, _, isMapping, -⟩ := isMapping
        cases target.symm.trans isMapping
      | empty => exact ⟨((follows.nil _ _).1 same).symm, rfl⟩
  · next notMapping notEmpty =>
    constructor
    · exact fun h => (Site.mismatch_ne_ok h).elim
    · rintro ⟨given, ⟨gives, -⟩, -⟩
      cases gives with
      | mapping isMapping =>
        obtain ⟨_, _, isMapping, -⟩ := isMapping
        exact absurd isMapping (notMapping _ _)
      | empty isEmpty => exact absurd isEmpty (notEmpty _)

end Hostlink.Yaml
