import Hostlink.Proofs.Except
import Hostlink.Proofs.Text.Integer
import Hostlink.Yaml.Record
/-!
What the nodes of a document are read as: a scalar as a text, a truth value or a natural number,
according to how it is written.
-/

namespace Hostlink.Yaml

open Text (IntegerRange Plus Spells)

/-- The text of a natural number, without a plus: digits that are not padded with zeros, or a base. -/
inductive Unsigned (text : List Char) (n : Nat) : Prop where
  | decimal (spells : Spells 10 text n) (unpadded : text.length = 1 ∨ text.head? ≠ some '0')
  | based {letter : Char} {base : Nat} {digits : List Char} (eq : text = '0' :: letter :: digits)
      (named : base? letter = some base) (spells : Spells base digits n)

/-- The text of a natural number. -/
def Natural (text : List Char) (n : Nat) : Prop :=
  ∃ unsigned, Plus text unsigned ∧ Unsigned unsigned n

section

variable {bits n : Nat} {w : Int} {text digits : List Char} {letter c : Char}

theorem base?_pos {base : Nat} (named : base? letter = some base) : 0 < base := by
  unfold base? at named
  split at named <;> cases named <;> decide

/-- A text that does not start with a sign is read as the number that it spells. -/
theorem read_unsigned_of_bare {base : Nat} (hbase : 0 < base)
    (bare : text.head? ≠ some '+') :
    ((IntegerRange.unsigned bits).read base text).toOption = some w ↔
      ∃ n, Spells base text n ∧ n < 1 <<< bits ∧ w = n := by
  rw [toOption_eq_some_iff, IntegerRange.read_unsigned_eq_ok_iff hbase]
  constructor
  · rintro ⟨digits, n, rfl | rfl, h⟩
    · exact ⟨n, h⟩
    · exact absurd rfl bare
  · rintro ⟨n, h⟩
    exact ⟨text, n, .inl rfl, h⟩

/-- Whether a text starts with a sign. -/
def isSigned (text : List Char) : Bool :=
  text.head?.any fun c => c == '+' || c == '-'

theorem not_isSigned {base : Nat} (spells : Spells base text n) : ¬ isSigned text = true := by
  cases text with
  | nil => exact absurd rfl spells.1
  | cons c rest =>
    have ne := spells.head_ne
    simp [isSigned, ne.1, ne.2]

theorem bare_of_not_isSigned (unsigned : ¬ isSigned text = true) : text.head? ≠ some '+' := by
  intro eq
  simp [isSigned, eq] at unsigned

theorem based?_eq_some_iff :
    based? (.unsigned bits) letter [] digits = some w ↔
      ∃ base n, base? letter = some base ∧ Spells base digits n ∧ n < 1 <<< bits ∧ w = n := by
  unfold based?
  cases named : base? letter with
  | none => simp
  | some base =>
    show (if isSigned digits then none else
      ((IntegerRange.unsigned bits).read base ([] ++ digits)).toOption) = some w ↔ _
    by_cases signed : isSigned digits = true
    · rw [if_pos signed]
      refine ⟨nofun, ?_⟩
      rintro ⟨_, n, eq, spells, -⟩
      exact absurd signed (not_isSigned spells)
    · rw [if_neg signed, List.nil_append,
        read_unsigned_of_bare (base?_pos named) (bare_of_not_isSigned signed)]
      simp

theorem isPadded_of_bare (bare : ¬ isSigned text = true) :
    isPadded text =
      (decide (1 < text.length) && text.head? == some '0' && text.all Char.isDigit) := by
  unfold isPadded
  split
  · simp [isSigned] at bare
  · simp [isSigned] at bare
  · rfl

theorem isPadded_iff (bare : ¬ isSigned text = true) :
    isPadded text = true ↔
      1 < text.length ∧ text.head? = some '0' ∧ text.all Char.isDigit = true := by
  rw [isPadded_of_bare bare]
  simp [and_assoc]

/-- How digits in front of which there is no sign are read. -/
def bareDecimal? (bits : Nat) (text : List Char) : Option Int :=
  if isSigned text then none
  else if isPadded text then none
  else ((IntegerRange.unsigned bits).read 10 text).toOption

theorem bareDecimal?_eq_some_iff :
    bareDecimal? bits text = some w ↔
      ∃ n, Spells 10 text n ∧ (text.length = 1 ∨ text.head? ≠ some '0') ∧
        n < 1 <<< bits ∧ w = n := by
  unfold bareDecimal?
  by_cases signed : isSigned text = true
  · rw [if_pos signed]
    refine ⟨nofun, ?_⟩
    rintro ⟨n, spells, -⟩
    exact absurd signed (not_isSigned spells)
  · rw [if_neg signed, Option.ite_none_left_eq_some, isPadded_iff signed,
      read_unsigned_of_bare (by decide) (bare_of_not_isSigned signed)]
    constructor
    · rintro ⟨unpadded, n, spells, h⟩
      refine ⟨n, spells, ?_, h⟩
      have length := List.length_pos_of_ne_nil spells.1
      by_cases zero : text.head? = some '0'
      · have short : ¬ 1 < text.length := fun long => unpadded ⟨long, zero, spells.all_isDigit⟩
        omega
      · exact .inr zero
    · rintro ⟨n, spells, unpadded, h⟩
      refine ⟨?_, n, spells, h⟩
      rintro ⟨length, zero, -⟩
      obtain one | other := unpadded
      · omega
      · exact other zero

/-- A text without the plus in front of it. -/
def stripPlus : List Char → List Char
  | '+' :: rest => rest
  | text => text

/-- How a text is read once there is no plus in front of it. -/
def readUnsigned? (bits : Nat) (text : List Char) : Option Int :=
  let based := match text with
    | '0' :: letter :: digits => based? (.unsigned bits) letter [] digits
    | _ => none
  based.orElse fun _ => bareDecimal? bits text

theorem bareDecimal?_stripPlus :
    bareDecimal? bits (stripPlus text) =
      if isSigned (stripPlus text) then none
      else if isPadded text then none
      else ((IntegerRange.unsigned bits).read 10 (stripPlus text)).toOption := by
  unfold bareDecimal?
  by_cases signed : isSigned (stripPlus text) = true
  · rw [if_pos signed, if_pos signed]
  · have same : isPadded text = isPadded (stripPlus text) := by
      unfold stripPlus at signed ⊢
      split at signed
      · rw [isPadded_of_bare signed]
        rfl
      · rfl
    rw [same]

theorem unsigned?_eq_readUnsigned? :
    unsigned? bits text = readUnsigned? bits (stripPlus text) := by
  unfold readUnsigned?
  rw [bareDecimal?_stripPlus]
  rfl

theorem readUnsigned?_eq_some_iff :
    readUnsigned? bits text = some w ↔ ∃ n, Unsigned text n ∧ n < 1 <<< bits ∧ w = n := by
  unfold readUnsigned?
  dsimp only
  rw [Option.orElse_eq_or, Option.or_eq_some_iff, bareDecimal?_eq_some_iff]
  split
  · next letter digits =>
    rw [based?_eq_some_iff]
    constructor
    · rintro (⟨base, n, named, spells, h⟩ | ⟨-, n, -, short | unpadded, -⟩)
      · exact ⟨n, .based rfl named spells, h⟩
      · simp at short
      · simp at unpadded
    · rintro ⟨n, ⟨spells, short | unpadded⟩ | ⟨eq, named, spells⟩, h⟩
      · simp at short
      · simp at unpadded
      · cases eq
        exact .inl ⟨_, n, named, spells, h⟩
  · next other =>
    constructor
    · rintro (⟨⟨⟩⟩ | ⟨-, n, spells, unpadded, h⟩)
      exact ⟨n, .decimal spells unpadded, h⟩
    · rintro ⟨n, ⟨spells, unpadded⟩ | ⟨eq, -, -⟩, h⟩
      · exact .inr ⟨rfl, n, spells, unpadded, h⟩
      · exact absurd eq (other _ _)

theorem Unsigned.head_ne_plus (h : Unsigned ('+' :: text) n) : False := by
  cases h with
  | decimal spells => exact spells.head_ne.1 rfl
  | based eq => cases eq

/-- A text is read as a number of so many bits just when it is the text of one. -/
theorem unsigned?_eq_some_iff :
    unsigned? bits text = some w ↔ ∃ n, Natural text n ∧ n < 1 <<< bits ∧ w = n := by
  have same : ∀ n, Natural text n ↔ Unsigned (stripPlus text) n := by
    intro n
    unfold stripPlus
    split
    · next rest =>
      constructor
      · rintro ⟨_, rfl | ⟨⟨⟩⟩, unsigned⟩
        · exact unsigned.head_ne_plus.elim
        · exact unsigned
      · exact fun unsigned => ⟨rest, .inr rfl, unsigned⟩
    · next noPlus =>
      constructor
      · rintro ⟨rest, rfl | rfl, unsigned⟩
        · exact unsigned
        · exact absurd rfl (noPlus rest)
      · exact fun unsigned => ⟨_, .inl rfl, unsigned⟩
  rw [unsigned?_eq_readUnsigned?, readUnsigned?_eq_some_iff]
  simp only [same]

end

/-- The texts of a truth value. -/
def truthTexts : Bool → List String
  | true => ["true", "True", "TRUE"]
  | false => ["false", "False", "FALSE"]

theorem bool?_eq_some_iff {text : String} {value : Bool} :
    bool? text = some value ↔ text ∈ truthTexts value := by
  unfold bool?
  cases value <;> simp only [truthTexts, List.mem_cons, List.not_mem_nil] <;> grind

/-- The node that is meant where a node stands: for an alias, the one with its anchor. -/
def Document.meant (document : Document) : Node → Node
  | .alias anchor => (document.anchored? anchor).getD .cut
  | node => node

/-- A scalar that may be more than a text: a plain one, or a literal block with the tag of a type. -/
def Typed (type : String) (props : Props) (style : Style) : Prop :=
  style = .plain ∨ style = .literal ∧ props.tag = some (commonTag type)

/-- A node that stands for a text: any scalar does. -/
def IsText (document : Document) (node : Node) (text : String) : Prop :=
  ∃ props style, document.meant node = .scalar props style text

/-- A node that stands for a truth value. -/
def IsTruth (document : Document) (node : Node) (value : Bool) : Prop :=
  ∃ props style text, document.meant node = .scalar props style text ∧
    Typed "bool" props style ∧ text ∈ truthTexts value

/-- A node that stands for a natural number up to a limit. -/
def IsNatural (document : Document) (limit : Nat) (node : Node) (n : Nat) : Prop :=
  ∃ props style text, document.meant node = .scalar props style text ∧
    Typed "int" props style ∧ Natural text.toList n ∧ n ≤ limit

theorem exists_scalar {document : Document} {node : Node} {props : Props} {style : Style}
    {text : String} {p : Props → Style → String → Prop}
    (target : document.meant node = .scalar props style text) :
    (∃ props style text, document.meant node = .scalar props style text ∧ p props style text) ↔
      p props style text := by
  simp only [target, Node.scalar.injEq]
  constructor
  · rintro ⟨_, _, _, ⟨rfl, rfl, rfl⟩, h⟩
    exact h
  · exact fun h => ⟨_, _, _, ⟨rfl, rfl, rfl⟩, h⟩

namespace Site

variable {site : Site} {wanted : String}

theorem target_eq_meant (site : Site) : site.target = site.document.meant site.node := by
  obtain ⟨document, path, node⟩ := site
  cases node <;> rfl

theorem mismatch_ne_ok {α : Type} {a : α} : site.mismatch wanted ≠ .ok a := by
  unfold mismatch
  split
  · split <;> nofun
  all_goals nofun

theorem isTyped_iff {type : String} {props : Props} {style : Style} :
    isTyped type props style = true ↔ Typed type props style := by
  simp [isTyped, Typed]

theorem text_eq_ok_iff {text : String} :
    site.text wanted = .ok text ↔ IsText site.document site.node text := by
  unfold Site.text IsText
  rw [target_eq_meant]
  split
  · next props style found target => simp [target]
  · next other =>
    exact iff_of_false mismatch_ne_ok fun ⟨_, _, target⟩ => other _ _ _ target

theorem bool_eq_ok_iff {value : Bool} :
    site.bool = .ok value ↔ IsTruth site.document site.node value := by
  unfold Site.bool IsTruth
  rw [target_eq_meant]
  split
  · next props style text target =>
    rw [exists_scalar target, ← isTyped_iff, ← bool?_eq_some_iff]
    cases bool? text with
    | none => simp [mismatch_ne_ok]
    | some other =>
      by_cases typed : isTyped "bool" props style = true
      · simp [typed]
      · simp [typed, mismatch_ne_ok]
  · next other =>
    exact iff_of_false mismatch_ne_ok fun ⟨_, _, _, target, _⟩ => other _ _ _ target

theorem natural_eq_ok_iff {limit n : Nat} (small : limit < 1 <<< 64) :
    site.natural limit wanted = .ok n ↔ IsNatural site.document limit site.node n := by
  unfold Site.natural IsNatural
  rw [target_eq_meant]
  split
  · next props style text target =>
    rw [exists_scalar target, ← isTyped_iff]
    have read : Natural text.toList n ∧ n ≤ limit → unsigned? 64 text.toList = some (n : Int) :=
      fun ⟨natural, le⟩ =>
        unsigned?_eq_some_iff.2 ⟨n, natural, Nat.lt_of_le_of_lt le small, rfl⟩
    cases found : unsigned? 64 text.toList with
    | none =>
      rw [found] at read
      simp only [mismatch_ne_ok, false_iff]
      exact fun ⟨_, h⟩ => nomatch read h
    | some value =>
      obtain ⟨m, natural, -, rfl⟩ := unsigned?_eq_some_iff.1 found
      simp only [found, Option.some.injEq, Int.natCast_inj] at read
      by_cases typed : isTyped "int" props style = true
      · simp only [typed, Bool.not_true, Bool.false_eq_true, if_false, true_and]
        by_cases le : m ≤ limit
        · rw [if_neg (by omega), Int.toNat_natCast, Except.ok.injEq]
          constructor
          · rintro rfl
            exact ⟨natural, le⟩
          · exact read
        · rw [if_pos (by omega)]
          refine ⟨nofun, fun h => ?_⟩
          cases read h
          exact absurd h.2 le
      · simp [typed, mismatch_ne_ok]
  · next other =>
    exact iff_of_false mismatch_ne_ok fun ⟨_, _, _, target, _⟩ => other _ _ _ target

end Site

end Hostlink.Yaml
