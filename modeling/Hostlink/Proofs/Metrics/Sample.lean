import Mathlib.Data.List.Basic
import Hostlink.Metrics.Registry
import Hostlink.Proofs.Json.Numeral
import Hostlink.Proofs.Text.Integer
/-!
Samples as they stand in the text of metrics: a name, labels in braces if there are any, and then a
value. They are read from left to right, and the line of a sample is read as that sample, whatever
the values of its labels are.
-/

namespace Hostlink.Metrics

/-- A sample: a name with labels, and a value. -/
structure Sample where
  name : String
  labels : Labels
  value : UInt64
deriving Repr, DecidableEq

namespace Sample

/-- The character that stands behind a backslash for another one, or for itself. -/
def unescaped? : Char → Option Char
  | '\\' => some '\\'
  | '"' => some '"'
  | 'n' => some '\n'
  | _ => none

/-- The value of a label up to the quote that ends it, and what follows. -/
def readValue : List Char → Option (List Char × List Char)
  | [] => none
  | '"' :: rest => some ([], rest)
  | '\\' :: c :: rest =>
    match unescaped? c with
    | none => none
    | some c => (readValue rest).map fun (value, rest) => (c :: value, rest)
  | c :: rest => (readValue rest).map fun (value, rest) => (c :: value, rest)

/-- A label, whose name ends in front of the sign for equality, and what follows. -/
def readLabel (chars : List Char) : Option ((String × String) × List Char) :=
  match chars.dropWhile (· != '=') with
  | '=' :: '"' :: rest => (readValue rest).map fun (value, rest) =>
    ((String.ofList (chars.takeWhile (· != '=')), String.ofList value), rest)
  | _ => none

theorem readValue_length_le {chars value rest : List Char}
    (h : readValue chars = some (value, rest)) : rest.length ≤ chars.length := by
  fun_induction readValue chars generalizing value rest with
  | case1 => cases h
  | case2 tail =>
    cases h
    exact Nat.le_succ _
  | case3 => cases h
  | case4 c tail c' escape ih =>
    obtain ⟨⟨value', rest'⟩, read, eq⟩ := Option.map_eq_some_iff.1 h
    cases eq
    have := ih read
    simp only [List.length_cons]
    omega
  | case5 c tail _ _ ih =>
    obtain ⟨⟨value', rest'⟩, read, eq⟩ := Option.map_eq_some_iff.1 h
    cases eq
    have := ih read
    simp only [List.length_cons]
    omega

theorem readLabel_length_lt {chars rest : List Char} {label : String × String}
    (h : readLabel chars = some (label, rest)) : rest.length < chars.length := by
  unfold readLabel at h
  split at h
  · next tail eq =>
    obtain ⟨⟨value, rest'⟩, read, eq'⟩ := Option.map_eq_some_iff.1 h
    cases eq'
    have le := readValue_length_le read
    have dropped := (List.dropWhile_sublist (· != '=') (l := chars)).length_le
    rw [eq] at dropped
    simp only [List.length_cons] at dropped
    omega
  · cases h

/-- Labels with commas between them up to the closing brace, and what follows. -/
def readLabels (chars : List Char) : Option (Labels × List Char) :=
  match _h : readLabel chars with
  | some (label, '\x7d' :: rest) => some ([label], rest)
  | some (label, ',' :: rest) =>
    (readLabels rest).map fun (labels, rest) => (label :: labels, rest)
  | _ => none
termination_by chars.length
decreasing_by
  have := readLabel_length_lt _h
  simp only [List.length_cons] at this
  omega

/-- A number of 64 bits. -/
def readNumber (chars : List Char) : Option UInt64 :=
  match (Text.IntegerRange.unsigned 64).read 10 chars with
  | .ok n => some (UInt64.ofNat n.toNat)
  | .error _ => none

/-- Whether a character belongs to the name of a sample, in front of its labels or its value. -/
def isOfName (c : Char) : Bool :=
  c != '\x7b' && c != ' '

/-- The sample of a line. -/
def ofLine? (line : List Char) : Option Sample :=
  let name := String.ofList (line.takeWhile isOfName)
  match line.dropWhile isOfName with
  | ' ' :: digits => (readNumber digits).map fun value => ⟨name, [], value⟩
  | '\x7b' :: rest =>
    match readLabels rest with
    | some (labels, ' ' :: digits) => (readNumber digits).map fun value => ⟨name, labels, value⟩
    | _ => none
  | _ => none

/-- The line of a sample. -/
def line (sample : Sample) : String :=
  sampleLine sample.name (labelsText sample.labels) sample.value

theorem escapeChar_plain {c : Char} (backslash : c ≠ '\\') (quote : c ≠ '"') (newline : c ≠ '\n') :
    escapeChar c = [c] := by
  simp [escapeChar]

theorem readValue_escapeChar (c : Char) (rest : List Char) :
    readValue (escapeChar c ++ rest) =
      (readValue rest).map fun (value, rest) => (c :: value, rest) := by
  by_cases backslash : c = '\\'
  · subst backslash; rfl
  by_cases quote : c = '"'
  · subst quote; rfl
  by_cases newline : c = '\n'
  · subst newline; rfl
  rw [escapeChar_plain backslash quote newline]
  simp [readValue, backslash]

theorem readValue_escaped (value rest : List Char) :
    readValue (value.flatMap escapeChar ++ '"' :: rest) = some (value, rest) := by
  induction value with
  | nil => rfl
  | cons c value ih =>
    rw [List.flatMap_cons, List.append_assoc, readValue_escapeChar, ih]
    rfl

/-- The characters of which none may stand in the name of a label. -/
def structural : List Char :=
  ['=', '"', ',', '\x7b', '\x7d', '\n']

/-- Whether a name is free of the characters that have a meaning around it. -/
def IsPlain (name : String) : Prop :=
  ∀ c ∈ name.toList, c ∉ structural

theorem toList_labelText (label : String × String) :
    (labelText label).toList =
      label.1.toList ++ '=' :: '"' :: (label.2.toList.flatMap escapeChar ++ ['"']) := by
  unfold labelText
  simp

theorem readLabel_labelText {label : String × String} (plain : IsPlain label.1)
    (rest : List Char) : readLabel ((labelText label).toList ++ rest) = some (label, rest) := by
  have name : ∀ c ∈ label.1.toList, (c != '=') = true := by
    intro c mem
    rw [bne_iff_ne]
    rintro rfl
    exact plain _ mem (by decide)
  have split : (labelText label).toList ++ rest =
      label.1.toList ++ '=' :: '"' :: (label.2.toList.flatMap escapeChar ++ '"' :: rest) := by
    simp [toList_labelText]
  unfold readLabel
  rw [split, List.dropWhile_append_of_pos name, List.takeWhile_append_of_pos name]
  simp [readValue_escaped]

theorem labelsText_cons_cons (first next : String × String) (rest : Labels) :
    (labelsText (first :: next :: rest)).toList =
      (labelText first).toList ++ ',' :: (labelsText (next :: rest)).toList := by
  unfold labelsText
  rw [List.map_cons, List.map_cons, String.intercalate_cons_cons]
  simp

theorem readLabels_labelsText {label : String × String} {labels : Labels}
    (plain : ∀ l ∈ label :: labels, IsPlain l.1) (rest : List Char) :
    readLabels ((labelsText (label :: labels)).toList ++ '\x7d' :: rest) =
      some (label :: labels, rest) := by
  induction labels generalizing label with
  | nil =>
    have first := readLabel_labelText (plain label List.mem_cons_self) ('\x7d' :: rest)
    have only : labelsText [label] = labelText label := String.intercalate_singleton
    rw [only, readLabels.eq_def, first]
    rfl
  | cons next labels ih =>
    have first := readLabel_labelText (plain label List.mem_cons_self)
      (',' :: ((labelsText (next :: labels)).toList ++ '\x7d' :: rest))
    rw [labelsText_cons_cons, List.append_assoc, List.cons_append, readLabels.eq_def, first]
    show (readLabels _).map _ = _
    rw [ih fun l mem => plain l (List.mem_cons_of_mem _ mem)]
    rfl

theorem digit?_of_isDigit {c : Char} (isDigit : c.isDigit = true) :
    Text.IntegerRange.digit? 10 c = some (c.toNat - 48) := by
  have range := isDigit
  simp only [Char.isDigit, Bool.and_eq_true, decide_eq_true_eq, ge_iff_le] at range
  have le : c.toNat ≤ 57 := UInt32.le_iff_toNat_le.1 range.2
  unfold Text.IntegerRange.digit?
  rw [if_pos isDigit]
  exact if_pos (by omega)

theorem spells_toDigits (n : Nat) : Text.Spells 10 (Nat.toDigits 10 n) n := by
  refine ⟨Nat.toDigits_ne_nil, (Nat.toDigits 10 n).map fun c => c.toNat - 48, ?_, ?_⟩
  · rw [List.forall₂_map_right_iff, List.forall₂_same]
    intro c mem
    exact digit?_of_isDigit (Json.Numeral.isDigit_toDigits n c mem)
  · unfold Text.ofDigits
    exact Json.Numeral.foldl_toDigits n

theorem read_toDigits {n : Nat} (fits : n < 1 <<< 64) :
    (Text.IntegerRange.unsigned 64).read 10 (Nat.toDigits 10 n) = .ok (n : Int) := by
  rw [Text.IntegerRange.read_unsigned_eq_ok_iff (by decide)]
  exact ⟨_, n, .inl rfl, spells_toDigits n, fits, rfl⟩

theorem readNumber_toString (value : UInt64) :
    readNumber (toString value).toList = some value := by
  have digits : (toString value).toList = Nat.toDigits 10 value.toNat := Nat.toList_repr
  unfold readNumber
  rw [digits, read_toDigits value.toNat_lt]
  show some (UInt64.ofNat value.toNat) = _
  rw [UInt64.ofNat_toNat]

theorem labelsText_isEmpty (labels : Labels) : (labelsText labels).isEmpty = labels.isEmpty := by
  cases labels with
  | nil => rfl
  | cons label labels =>
    rw [List.isEmpty_cons, String.isEmpty_eq_false_iff, ne_eq, ← String.toList_inj]
    cases labels with
    | nil =>
      have only : labelsText [label] = labelText label := String.intercalate_singleton
      simp [only, toList_labelText]
    | cons next labels => simp [labelsText_cons_cons, toList_labelText]

/-- Labels are read back from their text, so that no two lists of labels have the same text. -/
theorem labelsText_injective {a b : Labels} (plain : ∀ l ∈ a, IsPlain l.1)
    (plain' : ∀ l ∈ b, IsPlain l.1) (same : labelsText a = labelsText b) : a = b := by
  have empty : a.isEmpty = b.isEmpty := by rw [← labelsText_isEmpty, same, labelsText_isEmpty]
  cases a with
  | nil => exact (List.isEmpty_iff.1 empty.symm).symm
  | cons label labels =>
    cases b with
    | nil => contradiction
    | cons label' labels' =>
      -- either text is read in front of a brace, where it gives its own labels
      have read := readLabels_labelsText plain []
      rw [same, readLabels_labelsText plain' [], Option.some.injEq, Prod.mk.injEq] at read
      exact read.1.symm

/-- Whether a name is one of letters, digits and underscores. -/
def isIdentifier (name : String) : Bool :=
  !name.isEmpty && name.toList.all fun c => c.isAlphanum || c == '_'

theorem of_isIdentifier {name : String} (h : isIdentifier name = true) {c : Char}
    (mem : c ∈ name.toList) : isOfName c = true ∧ c ≠ '\n' ∧ c ≠ '#' := by
  unfold isIdentifier at h
  have either := List.all_eq_true.1 (Bool.and_eq_true_iff.1 h).2 c mem
  refine ⟨?_, ?_, ?_⟩
  · unfold isOfName
    rw [Bool.and_eq_true, bne_iff_ne, bne_iff_ne]
    constructor <;> (rintro rfl; contradiction)
  · rintro rfl
    contradiction
  · rintro rfl
    contradiction

/-- Whether a sample can be written so that it can be read back. -/
structure IsWritable (sample : Sample) : Prop where
  name : isIdentifier sample.name = true
  labels : ∀ l ∈ sample.labels, IsPlain l.1

theorem toList_sampleLine_bare (name : String) (value : UInt64) :
    (sampleLine name "" value).toList = name.toList ++ ' ' :: (toString value).toList := by
  simp [sampleLine]

theorem toList_sampleLine {labels : String} (some : labels.isEmpty = false) (name : String)
    (value : UInt64) : (sampleLine name labels value).toList =
      name.toList ++ '\x7b' :: (labels.toList ++ '\x7d' :: ' ' :: (toString value).toList) := by
  simp [sampleLine, some]

theorem ofLine?_line {sample : Sample} (writable : sample.IsWritable) :
    ofLine? sample.line.toList = some sample := by
  obtain ⟨title, labels, value⟩ := sample
  obtain ⟨identifier, plain⟩ := writable
  have name : ∀ c ∈ title.toList, isOfName c = true :=
    fun c mem => (of_isIdentifier identifier mem).1
  unfold line
  cases labels with
  | nil =>
    have bare : labelsText [] = "" := rfl
    rw [bare, toList_sampleLine_bare]
    unfold ofLine?
    rw [List.dropWhile_append_of_pos name, List.takeWhile_append_of_pos name]
    simp [isOfName, readNumber_toString]
  | cons label labels =>
    have some := labelsText_isEmpty (label :: labels)
    rw [toList_sampleLine some]
    unfold ofLine?
    rw [List.dropWhile_append_of_pos name, List.takeWhile_append_of_pos name]
    simp [isOfName, readNumber_toString, readLabels_labelsText plain]

theorem newline_not_mem_escapeChar (c : Char) : '\n' ∉ escapeChar c := by
  by_cases newline : c = '\n'
  · subst newline; decide
  · unfold escapeChar
    split <;> simp [Ne.symm newline]

theorem newline_not_mem_labelsText {labels : Labels} (plain : ∀ l ∈ labels, IsPlain l.1) :
    '\n' ∉ (labelsText labels).toList := by
  have one (label : String × String) (name : IsPlain label.1) :
      '\n' ∉ (labelText label).toList := by
    have inName : '\n' ∉ label.1.toList := fun mem => name _ mem (by decide)
    simp [toList_labelText, inName, newline_not_mem_escapeChar]
  induction labels with
  | nil => simp [labelsText]
  | cons first rest ih =>
    obtain ⟨name, names⟩ := List.forall_mem_cons.1 plain
    cases rest with
    | nil =>
      have only : labelsText [first] = labelText first := String.intercalate_singleton
      rw [only]
      exact one first name
    | cons next rest => simp [labelsText_cons_cons, one first name, ih names]

theorem newline_not_mem_line {sample : Sample} (writable : sample.IsWritable) :
    '\n' ∉ sample.line.toList := by
  have name : '\n' ∉ sample.name.toList :=
    fun mem => (of_isIdentifier writable.name mem).2.1 rfl
  have labels := newline_not_mem_labelsText writable.labels
  have value : '\n' ∉ (toString sample.value).toList := by
    have digits : (toString sample.value).toList = Nat.toDigits 10 sample.value.toNat :=
      Nat.toList_repr
    rw [digits]
    intro mem
    exact absurd (Json.Numeral.isDigit_toDigits _ _ mem) (by decide)
  unfold line sampleLine
  split <;> simp [name, labels, value]

/-- Whether a line holds a sample: it is not blank and no comment. -/
def isSampleLine (line : List Char) : Bool :=
  !line.isEmpty && line.head? != some '#'

theorem isSampleLine_line {sample : Sample} (writable : sample.IsWritable) :
    isSampleLine sample.line.toList = true := by
  have name := writable.name
  cases chars : sample.name.toList with
  | nil =>
    rw [String.toList_eq_nil_iff] at chars
    rw [chars] at name
    contradiction
  | cons c rest =>
    have mark := (of_isIdentifier name (chars ▸ List.mem_cons_self : c ∈ sample.name.toList)).2.2
    unfold line sampleLine isSampleLine
    split <;> simp [chars, mark]

/-- The samples of lines; a line that holds none and is neither blank nor a comment is a fault. -/
def ofLines? (lines : List (List Char)) : Option (List Sample) :=
  (lines.filter isSampleLine).mapM ofLine?

/-- The samples of a text. -/
def ofText? (text : String) : Option (List Sample) :=
  ofLines? (text.toList.splitOn '\n')

theorem ofLines?_append {first second : List (List Char)} {samples more : List Sample}
    (read : ofLines? first = some samples) (read' : ofLines? second = some more) :
    ofLines? (first ++ second) = some (samples ++ more) := by
  unfold ofLines? at read read' ⊢
  rw [List.filter_append, List.mapM_append, read, read']
  rfl

theorem ofLines?_skip {line : List Char} (skipped : isSampleLine line = false)
    (rest : List (List Char)) : ofLines? (line :: rest) = ofLines? rest := by
  unfold ofLines?
  rw [List.filter_cons_of_neg (by simp [skipped])]

theorem ofLines?_lines {samples : List Sample} (writable : ∀ sample ∈ samples, sample.IsWritable) :
    ofLines? (samples.map (·.line.toList)) = some samples := by
  induction samples with
  | nil => rfl
  | cons sample rest ih =>
    obtain ⟨first, others⟩ := List.forall_mem_cons.1 writable
    have read := ih others
    unfold ofLines? at read ⊢
    rw [List.map_cons, List.filter_cons_of_pos (isSampleLine_line first), List.mapM_cons,
      ofLine?_line first, read]
    rfl

/-- Lines that are free of line ends and each have one behind them are found by cutting there. -/
theorem splitOn_lines {lines : List String} (free : ∀ line ∈ lines, '\n' ∉ line.toList) :
    (String.join (lines.map (· ++ "\n"))).toList.splitOn '\n' =
      lines.map String.toList ++ [[]] := by
  have joined : (String.join (lines.map (· ++ "\n"))).toList =
      ['\n'].intercalate (lines.map String.toList ++ [[]]) := by
    clear free
    rw [String.toList_join]
    induction lines with
    | nil => rfl
    | cons line rest ih =>
      rw [List.map_cons, List.flatMap_cons, ih]
      cases rest <;> simp
  rw [joined, List.splitOn_intercalate]
  · intro line mem
    obtain mem | mem := List.mem_append.1 mem
    · obtain ⟨line, isLine, rfl⟩ := List.mem_map.1 mem
      exact free line isLine
    · rw [List.mem_singleton.1 mem]
      exact List.not_mem_nil
  · simp

end Sample
end Hostlink.Metrics
