import Mathlib.Data.List.Perm.Basic
import Hostlink.Proofs.Yaml.Record
/-!
Documents that differ in the order of the entries of their mappings only, however the nodes are
anchored: what stands for something in one of them stands for it in the other.
-/

namespace Hostlink.Yaml

/-- Two nodes that mean the same, but for the order of the entries of mappings. -/
inductive Reordered (document document' : Document) : Node → Node → Prop where
  | scalar {node node' : Node} {props props' : Props} {style : Style} {text : String}
      (h : document.meant node = .scalar props style text)
      (h' : document'.meant node' = .scalar props' style text) (tag : props.tag = props'.tag) :
    Reordered document document' node node'
  | mapping {node node' : Node} {given given' : List (String × Node)}
      (h : IsMapping document node given) (h' : IsMapping document' node' given')
      (names : (given.map Prod.fst).Perm (given'.map Prod.fst))
      (values : ∀ name value value', given.lookup name = some value →
        given'.lookup name = some value' → Reordered document document' value value') :
    Reordered document document' node node'

/-- Two documents that mean the same, but for the order of the entries of mappings. -/
structure SameButOrder (document document' : Document) : Prop where
  alone : document.alone = document'.alone
  content : Reordered document document' document.content document'.content

theorem IsMapping.unique {document : Document} {node : Node} {given given' : List (String × Node)}
    (h : IsMapping document node given) (h' : IsMapping document node given') :
    given = given' := by
  obtain ⟨props, entries, meant, named⟩ := h
  obtain ⟨_, _, meant', named'⟩ := h'
  cases meant.symm.trans meant'
  refine List.right_unique_forall₂' ?_ named named'
  rintro entry ⟨name, node⟩ ⟨name', node'⟩ ⟨⟨_, _, isText⟩, rfl⟩ ⟨⟨_, _, isText'⟩, rfl⟩
  cases isText.symm.trans isText'
  rfl

variable {document document' : Document} {node node' : Node}

namespace Reordered

theorem symm (h : Reordered document document' node node') :
    Reordered document' document node' node := by
  induction h with
  | scalar h h' tag => exact .scalar h' h tag.symm
  | mapping h h' names _ ih =>
    exact .mapping h' h names.symm fun name value value' there there' =>
      ih name value' value there' there

/-- The same entries, no two with one key, in another order. -/
theorem of_perm {given given' : List (String × Node)} (h : IsMapping document node given)
    (h' : IsMapping document' node' given') (perm : given.Perm given')
    (once : (given.map Prod.fst).Nodup)
    (same : ∀ entry ∈ given, Reordered document document' entry.2 entry.2) :
    Reordered document document' node node' := by
  have names := perm.map Prod.fst
  refine .mapping h h' names fun name value value' there there' => ?_
  rw [lookup_eq_some_iff once] at there
  rw [lookup_eq_some_iff (names.nodup_iff.1 once), ← perm.mem_iff,
    ← lookup_eq_some_iff once, (lookup_eq_some_iff once).2 there] at there'
  cases there'
  exact same _ there

theorem of_scalar (h : Reordered document document' node node') {props : Props} {style : Style}
    {text : String} (meant : document.meant node = .scalar props style text) :
    ∃ props', document'.meant node' = .scalar props' style text ∧ props'.tag = props.tag := by
  cases h with
  | scalar h h' tag =>
    cases h.symm.trans meant
    exact ⟨_, h', tag.symm⟩
  | mapping h =>
    obtain ⟨_, _, isMapping, -⟩ := h
    cases isMapping.symm.trans meant

theorem isText {text : String} (h : Reordered document document' node node')
    (isText : IsText document node text) : IsText document' node' text := by
  obtain ⟨props, style, meant⟩ := isText
  obtain ⟨props', meant', -⟩ := h.of_scalar meant
  exact ⟨props', style, meant'⟩

theorem isTruth {value : Bool} (h : Reordered document document' node node')
    (isTruth : IsTruth document node value) : IsTruth document' node' value := by
  obtain ⟨props, style, text, meant, typed, isTruth⟩ := isTruth
  obtain ⟨props', meant', tag⟩ := h.of_scalar meant
  refine ⟨props', style, text, meant', ?_, isTruth⟩
  rwa [Typed, tag]

theorem isNatural {limit n : Nat} (h : Reordered document document' node node')
    (isNatural : IsNatural document limit node n) : IsNatural document' limit node' n := by
  obtain ⟨props, style, text, meant, typed, isNatural⟩ := isNatural
  obtain ⟨props', meant', tag⟩ := h.of_scalar meant
  refine ⟨props', style, text, meant', ?_, isNatural⟩
  rwa [Typed, tag]

theorem lookup {given given' : List (String × Node)}
    (names : (given.map Prod.fst).Perm (given'.map Prod.fst))
    (values : ∀ name value value', given.lookup name = some value →
      given'.lookup name = some value' → Reordered document document' value value')
    (name : String) :
    Option.Rel (Reordered document document') (given.lookup name) (given'.lookup name) := by
  by_cases isName : name ∈ given.map Prod.fst
  · obtain ⟨value, there⟩ := exists_lookup isName
    obtain ⟨value', there'⟩ := exists_lookup (names.mem_iff.1 isName)
    rw [there, there']
    exact .some (values name value value' there there')
  · rw [lookup_eq_none isName, lookup_eq_none fun mem => isName (names.mem_iff.2 mem)]
    exact .none

/-- Where one of two nodes is a record, the other one is, and gives the same fields. -/
theorem record {names : List String} {given : List (String × Node)}
    (h : Reordered document document' node node') (record : Record document names node given) :
    ∃ given', Record document' names node' given' ∧
      (given.map Prod.fst).Perm (given'.map Prod.fst) ∧
      ∀ name, Option.Rel (Reordered document document') (given.lookup name) (given'.lookup name) := by
  obtain ⟨gives, known, once⟩ := record
  cases h with
  | scalar h h' =>
    cases gives with
    | mapping isMapping =>
      obtain ⟨_, _, isMapping, -⟩ := isMapping
      cases h.symm.trans isMapping
    | empty isEmpty =>
      cases h.symm.trans isEmpty
      exact ⟨[], ⟨.empty h', nofun, .nil⟩, .refl _, fun _ => .none⟩
  | @mapping _ _ _ given' h h' keys values =>
    cases gives with
    | mapping isMapping =>
      cases h.unique isMapping
      exact ⟨given', ⟨.mapping h', fun name mem => known name (keys.mem_iff.2 mem),
        keys.nodup_iff.1 once⟩, keys, lookup keys values⟩
    | empty isEmpty =>
      obtain ⟨_, _, isMapping, -⟩ := h
      cases isMapping.symm.trans isEmpty

end Reordered

theorem SameButOrder.symm (h : SameButOrder document document') : SameButOrder document' document :=
  ⟨h.alone.symm, h.content.symm⟩

variable {α : Type} {a : α}

theorem Takes.reordered {Is Is' : Node → α → Prop} {usual : α} {o o' : Option Node}
    (rel : Option.Rel (Reordered document document') o o')
    (is : ∀ {node node'}, Reordered document document' node node' → Is node a → Is' node' a)
    (h : Takes Is usual o a) : Takes Is' usual o' a := by
  cases h with
  | given h =>
    cases rel with
    | some reordered => exact .given (is reordered h)
  | absent =>
    cases rel with
    | none => exact .absent

theorem IsRecord.reordered {names : List String}
    {account account' : List (String × Node) → α → Prop}
    (reordered : Reordered document document' node node')
    (same : ∀ {given given'}, (∀ name, Option.Rel (Reordered document document')
      (given.lookup name) (given'.lookup name)) → account given a → account' given' a)
    (h : IsRecord document names account node a) : IsRecord document' names account' node' a := by
  obtain ⟨given, record, h⟩ := h
  obtain ⟨given', record', -, rel⟩ := reordered.record record
  exact ⟨given', record', same rel h⟩

end Hostlink.Yaml
