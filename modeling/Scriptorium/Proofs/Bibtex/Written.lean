import Mathlib.Data.Bool.AllAny
import Scriptorium.Proofs.Bibtex.Content
import Scriptorium.Proofs.Text.Scan
import Scriptorium.Proofs.Text.Split
/-! # Entries as they are written

An entry is written with space between its parts (`Bibtex.Source`): its type, its key, and
fields with commas between them and perhaps behind the last (`Bibtex.Fields`), each with a value
in braces, in quotes or in digits (`Bibtex.Value`). The reader passes over the space, takes each
part whole and stops in front of the sign behind it (`Bibtex.field?_written`), so the fields of
an entry are read one after the other (`Bibtex.fields_written`), whatever follows the entry
(`Bibtex.parse?_source`).
-/

namespace Scriptorium

namespace Bibtex

/-! ## Parts of an entry -/

/-- The characters that may stand between the parts of an entry. -/
def spaces : List Char :=
  [' ', '\t', '\r', '\n']

/-- The signs that may stand in the key of an entry, beside letters and numbers. -/
def keySigns : List Char :=
  ['_', '-', ':', '.']

/-- The signs that may stand in the name of a field, beside letters and numbers. -/
def nameSigns : List Char :=
  ['_', '-']

/-- Characters of one class, perhaps none. -/
structure Run (p : Char → Prop) where
  text : Text
  inside : ∀ c ∈ text, p c

/-- Characters of one class, at least one. -/
structure Word (p : Char → Prop) extends Run p where
  nonempty : text ≠ []

/-- A text as a run of characters, where a test finds them all in the class. -/
def Run.ofText {p : Char → Prop} [DecidablePred p] (text : Text)
    (inside : text.all fun c => p c) : Run p where
  text := text
  inside := List.all_iff_forall_prop.mp inside

/-- A text as a word, where a test finds all of its characters in the class. -/
def Word.ofText {p : Char → Prop} [DecidablePred p] (text : Text)
    (inside : text.all fun c => p c) (nonempty : text ≠ []) : Word p where
  toRun := .ofText text inside
  nonempty := nonempty

/-- The space between two parts of an entry, perhaps none. -/
abbrev Gap :=
  Run (· ∈ spaces)

/-- Text in which each brace that opens is closed, and each that closes was opened. -/
inductive Balanced : Text → Prop
  | nil : Balanced []
  | plain {c : Char} {s : Text} : c ≠ '\x7b' → c ≠ '\x7d' → Balanced s → Balanced (c :: s)
  | group {inside s : Text} : Balanced inside → Balanced s →
      Balanced ('\x7b' :: (inside ++ '\x7d' :: s))

/-- A value as it is written. -/
inductive Value where
  | braced (text : Text) (balanced : Balanced text)
  | quoted (text : Text) (unquoted : '"' ∉ text)
  | number (digits : Word fun c => '0' ≤ c ∧ c ≤ '9')

/-- A field as it is written, with the space before and behind each of its parts. -/
structure Field where
  before : Gap
  name : Word fun c => isAlphanumeric c = true ∨ c ∈ nameSigns
  afterName : Gap
  beforeValue : Gap
  value : Value
  behind : Gap

/-- The fields of an entry as they are written, up to its closing brace: none, a last one without
a comma, or one with a comma and others behind it. -/
inductive Fields where
  | none (space : Gap)
  | last (field : Field)
  | more (field : Field) (others : Fields)

/-- An entry as it is written, with blank characters before it. -/
structure Source where
  indent : Run (isBlank · = true)
  entryType : Word (isAlphanumeric · = true)
  afterType : Gap
  beforeKey : Gap
  key : Word fun c => isAlphanumeric c = true ∨ c ∈ keySigns
  afterKey : Gap
  fields : Fields

/-! ## What is written and what it says -/

namespace Value

/-- The text of a value. -/
def written : Value → Text
  | braced text _ => '\x7b' :: (text ++ ['\x7d'])
  | quoted text _ => '"' :: (text ++ ['"'])
  | number digits => digits.text

/-- What a value says: its words without the braces, or its digits. -/
def Says : Value → Text → Prop
  | braced text _, said => IsCleaned text said
  | quoted text _, said => IsCleaned text said
  | number digits, said => said = digits.text

end Value

/-- The text of a field. -/
def Field.written (field : Field) : Text :=
  field.before.text ++ (field.name.text ++ (field.afterName.text ++
    '=' :: (field.beforeValue.text ++ (field.value.written ++ field.behind.text))))

namespace Fields

/-- The text of the fields. -/
def written : Fields → Text
  | none space => space.text
  | last field => field.written
  | more field others => field.written ++ ',' :: others.written

/-- What the fields say, one after the other: their names and what their values say. -/
inductive Says : Fields → List (Text × Text) → Prop
  | none (space : Gap) : Says (none space) []
  | last {field : Field} {value : Text} : field.value.Says value →
      Says (last field) [(field.name.text, value)]
  | more {field : Field} {others : Fields} {value : Text} {said : List (Text × Text)} :
      field.value.Says value → Says others said →
      Says (more field others) ((field.name.text, value) :: said)

end Fields

/-- The text of an entry. -/
def Source.written (source : Source) : Text :=
  source.indent.text ++ '@' :: (source.entryType.text ++ (source.afterType.text ++
    '\x7b' :: (source.beforeKey.text ++ (source.key.text ++ (source.afterKey.text ++
      ',' :: (source.fields.written ++ ['\x7d']))))))

/-- A value says one thing. -/
theorem Value.Says.unique {value : Value} {first second : Text} (one : value.Says first)
    (other : value.Says second) : first = second := by
  cases value with
  | braced _ _ => exact (isCleaned_iff.mp one).trans (isCleaned_iff.mp other).symm
  | quoted _ _ => exact (isCleaned_iff.mp one).trans (isCleaned_iff.mp other).symm
  | number _ => exact Eq.trans one (Eq.symm other)

/-- Fields say one thing. -/
theorem Fields.Says.unique {fields : Fields} {first second : List (Text × Text)}
    (one : fields.Says first) (other : fields.Says second) : first = second := by
  induction one generalizing second with
  | none _ => cases other; rfl
  | last value =>
    cases other with
    | last value' => rw [value.unique value']
  | more value _ ih =>
    cases other with
    | more value' others => rw [value.unique value', ih others]

/-! ## Space and words -/

section Reading

variable {p : Char → Bool} {q : Char → Prop} {c d : Char} {rest : Text}

private theorem isSpace_iff : isSpace c = true ↔ c ∈ spaces := by
  simp [isSpace, spaces, or_assoc]

private theorem isKeyChar_iff : isKeyChar c = true ↔ isAlphanumeric c = true ∨ c ∈ keySigns := by
  simp [isKeyChar, keySigns, or_assoc]

private theorem isNameChar_iff : isNameChar c = true ↔ isAlphanumeric c = true ∨ c ∈ nameSigns := by
  simp [isNameChar, nameSigns, or_assoc]

private theorem isAsciiDigit_iff : isAsciiDigit c = true ↔ '0' ≤ c ∧ c ≤ '9' := by
  simp [isAsciiDigit]

/-- Space is passed over. -/
theorem skipSpace_append (gap : Gap) (rest : Text) :
    skipSpace (gap.text ++ rest) = skipSpace rest :=
  List.dropWhile_append_of_pos fun c member => isSpace_iff.mpr (gap.inside c member)

/-- In front of a sign that is no space there is nothing to pass over. -/
theorem skipSpace_cons (stop : d ∉ spaces) (rest : Text) : skipSpace (d :: rest) = d :: rest :=
  List.dropWhile_cons_of_neg (mt isSpace_iff.mp stop)

/-- In front of a word there is nothing to pass over. -/
theorem skipSpace_word (word : Word q) (apart : ∀ c ∈ spaces, ¬ q c) (rest : Text) :
    skipSpace (word.text ++ rest) = word.text ++ rest := by
  obtain ⟨c, others, text⟩ := List.exists_cons_of_ne_nil word.nonempty
  have inside : q c := word.inside c (text ▸ List.mem_cons_self)
  rw [text, List.cons_append, skipSpace_cons fun space => apart c space inside]

/-- Behind a gap stands space or the sign behind it. -/
theorem head?_append (gap : Gap) (apart : ∀ c ∈ spaces, ¬ q c) (stop : ¬ q d) (rest : Text) :
    ∀ c ∈ (gap.text ++ d :: rest).head?, ¬ q c := by
  intro c first
  cases gapText : gap.text with
  | nil =>
    rw [gapText] at first
    exact Option.mem_some_iff.mp first ▸ stop
  | cons e gapRest =>
    rw [gapText] at first
    exact apart c (gap.inside c (gapText ▸ Option.mem_some_iff.mp first ▸ List.mem_cons_self))

/-- A word is read up to the sign behind it, space between them or not. -/
theorem run_word (reads : ∀ c, p c = true ↔ q c) (word : Word q) (gap : Gap)
    (apart : ∀ c ∈ spaces, ¬ q c) (stop : ¬ q d) (rest : Text) :
    Scanner.run p (word.text ++ (gap.text ++ d :: rest)) =
      some (word.text, gap.text ++ d :: rest) := by
  refine Scanner.run_append word.nonempty
    (fun c member => (reads c).mpr (word.inside c member)) fun c first => ?_
  exact Bool.eq_false_iff.mpr (mt (reads c).mp (head?_append gap apart stop rest c first))

private theorem literal_sign (d : Char) (rest : Text) :
    Scanner.literal [d] (d :: rest) = some ((), rest) :=
  Scanner.literal_append [d] rest

end Reading

/-! ## Values -/

private theorem closeBrace?_open (depth : Nat) (s : Text) : closeBrace? depth ('\x7b' :: s) =
    (closeBrace? (depth + 1) s).map fun (body, behind) => ('\x7b' :: body, behind) := by
  rw [closeBrace?.eq_def]
  rfl

private theorem closeBrace?_close (depth : Nat) (s : Text) : closeBrace? (depth + 2) ('\x7d' :: s) =
    (closeBrace? (depth + 1) s).map fun (body, behind) => ('\x7d' :: body, behind) := by
  rw [closeBrace?.eq_def]
  rfl

private theorem closeBrace?_last (s : Text) : closeBrace? 1 ('\x7d' :: s) = some ([], s) := by
  rw [closeBrace?.eq_def]
  rfl

private theorem closeBrace?_plain {c : Char} (noOpen : c ≠ '\x7b') (noClose : c ≠ '\x7d')
    (depth : Nat) (s : Text) : closeBrace? depth (c :: s) =
      (closeBrace? depth s).map fun (body, behind) => (c :: body, behind) := by
  rw [closeBrace?.eq_def]
  dsimp only
  rw [if_neg noClose, if_neg noOpen]

/-- Balanced text is passed over inside of braces. -/
theorem closeBrace?_append {text : Text} (balanced : Balanced text) (depth : Nat) (rest : Text) :
    closeBrace? (depth + 1) (text ++ rest) =
      (closeBrace? (depth + 1) rest).map fun (body, behind) => (text ++ body, behind) := by
  induction balanced generalizing depth rest with
  | nil => simp
  | plain noOpen noClose balanced ih =>
    rw [List.cons_append, closeBrace?_plain noOpen noClose, ih, Option.map_map]
    rfl
  | group inner balanced ihInside ih =>
    -- One brace deeper stands the inside, up to the brace that closes it.
    rw [List.cons_append, List.append_assoc, List.cons_append, closeBrace?_open, ihInside,
      closeBrace?_close, ih, Option.map_map, Option.map_map, Option.map_map]
    simp [Function.comp_def]

private theorem closeBrace?_balanced {text : Text} (balanced : Balanced text) (rest : Text) :
    closeBrace? 1 (text ++ '\x7d' :: rest) = some (text, rest) := by
  rw [closeBrace?_append balanced 0, closeBrace?_last]
  simp

/-- Text in which a field has just ended, with a comma or with the brace of the entry. -/
inductive EndsField : Text → Prop
  | comma (rest : Text) : EndsField (',' :: rest)
  | brace (rest : Text) : EndsField ('\x7d' :: rest)

/-- Where a field ends there is nothing to pass over. -/
theorem EndsField.skipSpace {s : Text} (ends : EndsField s) : skipSpace s = s := by
  cases ends with
  | comma rest => exact skipSpace_cons (by decide) rest
  | brace rest => exact skipSpace_cons (by decide) rest

/-- Digits are read up to the end of the field. -/
theorem value?_number (digits : Word fun c => '0' ≤ c ∧ c ≤ '9') (gap : Gap) {s : Text}
    (ends : EndsField s) : value? (digits.text ++ (gap.text ++ s)) = some (digits.text, s) := by
  have apart : ∀ c ∈ spaces, ¬ ('0' ≤ c ∧ c ≤ '9') := List.all_iff_forall_prop.mp (by decide)
  have read : Scanner.run isAsciiDigit (digits.text ++ (gap.text ++ s)) =
      some (digits.text, gap.text ++ s) := by
    cases ends with
    | comma rest => exact run_word (fun _ => isAsciiDigit_iff) digits gap apart (by decide) rest
    | brace rest => exact run_word (fun _ => isAsciiDigit_iff) digits gap apart (by decide) rest
  obtain ⟨c, others, text⟩ := List.exists_cons_of_ne_nil digits.nonempty
  have digit : '0' ≤ c ∧ c ≤ '9' := digits.inside c (text ▸ List.mem_cons_self)
  rw [text] at read ⊢
  rw [List.cons_append] at read ⊢
  rw [value?, read, Option.map_some]
  · dsimp only
    rw [skipSpace_append, ends.skipSpace]
  · rintro _ ⟨⟩
    exact absurd digit (by decide)
  · rintro _ ⟨⟩
    exact absurd digit (by decide)

/-- A value is read whole. The reader may stop in front of the space behind it. -/
theorem value?_written (value : Value) (gap : Gap) {s : Text} (ends : EndsField s) :
    ∃ said rest, value? (value.written ++ (gap.text ++ s)) = some (said, rest) ∧
      value.Says said ∧ skipSpace rest = s := by
  cases value with
  | braced text balanced =>
    refine ⟨cleanValue text, gap.text ++ s, ?_, isCleaned_iff.mpr rfl,
      (skipSpace_append gap s).trans ends.skipSpace⟩
    rw [Value.written, List.cons_append, List.append_assoc, List.singleton_append, value?,
      closeBrace?_balanced balanced]
    rfl
  | quoted text unquoted =>
    refine ⟨cleanValue text, gap.text ++ s, ?_, isCleaned_iff.mpr rfl,
      (skipSpace_append gap s).trans ends.skipSpace⟩
    rw [Value.written, List.cons_append, List.append_assoc, List.singleton_append, value?,
      Text.cut?_append_cons unquoted]
    rfl
  | number digits => exact ⟨digits.text, s, value?_number digits gap ends, rfl, ends.skipSpace⟩

/-- In front of a value there is nothing to pass over. -/
theorem skipSpace_value (value : Value) (rest : Text) :
    skipSpace (value.written ++ rest) = value.written ++ rest := by
  cases value with
  | braced text _ => exact skipSpace_cons (by decide) _
  | quoted text _ => exact skipSpace_cons (by decide) _
  | number digits => exact skipSpace_word digits (List.all_iff_forall_prop.mp (by decide)) rest

/-! ## Fields -/

/-- A field is read whole, up to the space behind it. -/
theorem field?_written (field : Field) {s : Text} (ends : EndsField s) :
    ∃ said rest, field? (field.written ++ s) = some ((field.name.text, said), rest) ∧
      field.value.Says said ∧ skipSpace rest = s := by
  obtain ⟨said, rest, value, told, behind⟩ := value?_written field.value field.behind ends
  refine ⟨said, rest, ?_, told, behind⟩
  have apart : ∀ c ∈ spaces, ¬ (isAlphanumeric c = true ∨ c ∈ nameSigns) :=
    List.all_iff_forall_prop.mp (by decide)
  have name : Scanner.run isNameChar (skipSpace (field.written ++ s)) =
      some (field.name.text, field.afterName.text ++ '=' :: (field.beforeValue.text ++
        (field.value.written ++ (field.behind.text ++ s)))) := by
    simp only [Field.written, List.append_assoc, List.cons_append]
    rw [skipSpace_append, skipSpace_word field.name apart]
    exact run_word (fun _ => isNameChar_iff) field.name field.afterName apart (by decide) _
  rw [field?, name]
  simp only [Option.bind_eq_bind, Option.bind_some]
  rw [skipSpace_append, skipSpace_cons (by decide)]
  simp only [literal_sign, Option.bind_some]
  rw [skipSpace_append, skipSpace_value, value]
  rfl

/-- Where an entry ends there is no field. -/
theorem field?_brace (gap : Gap) (rest : Text) : field? (gap.text ++ '\x7d' :: rest) = none := by
  rw [field?, skipSpace_append, skipSpace_cons (by decide)]
  rfl

/-- **The fields of an entry are read one after the other.** -/
theorem fields_written (written : Fields) (behind : Text) :
    ∃ said rest, fields (written.written ++ '\x7d' :: behind) = (said, rest) ∧
      written.Says said ∧ skipSpace rest = '\x7d' :: behind := by
  induction written with
  | none space =>
    refine ⟨[], space.text ++ '\x7d' :: behind, ?_, .none space, ?_⟩
    · rw [Fields.written, fields, field?_brace]
    · rw [skipSpace_append, skipSpace_cons (by decide)]
  | last field =>
    obtain ⟨value, rest, read, told, ends⟩ := field?_written field (EndsField.brace behind)
    refine ⟨[(field.name.text, value)], rest, ?_, .last told, ends⟩
    rw [Fields.written, fields, read]
    dsimp only
    rw [ends]
    rfl
  | more field others ih =>
    obtain ⟨said, last, readOthers, toldOthers, endsOthers⟩ := ih
    obtain ⟨value, rest, read, told, ends⟩ :=
      field?_written field (EndsField.comma (others.written ++ '\x7d' :: behind))
    refine ⟨(field.name.text, value) :: said, last, ?_, .more told toldOthers, endsOthers⟩
    rw [Fields.written, List.append_assoc, List.cons_append, fields, read]
    dsimp only
    rw [ends]
    change (if _ then _ else _) = _
    rw [if_pos (by simp; omega), readOthers]

/-! ## Entries -/

/-- The text of an entry behind the blank characters before it. -/
theorem trimStart_written (source : Source) (behind : Text) :
    (source.written ++ behind).trimStart =
      '@' :: (source.entryType.text ++ (source.afterType.text ++
        '\x7b' :: (source.beforeKey.text ++ (source.key.text ++ (source.afterKey.text ++
          ',' :: (source.fields.written ++ '\x7d' :: behind)))))) := by
  rw [Source.written, List.append_assoc,
    Text.trimStart_append_of_blank (Text.isAllBlank_iff.mpr source.indent.inside)]
  simp only [List.cons_append, List.append_assoc, List.nil_append]
  exact List.dropWhile_cons_of_neg (by decide)

/-- The start of an entry is read up to its fields. -/
theorem header?_written (source : Source) (behind : Text) :
    header? (source.written ++ behind).trimStart =
      some ((source.entryType.text, source.key.text),
        source.fields.written ++ '\x7d' :: behind) := by
  have entryType (rest : Text) : Scanner.run isAlphanumeric
      (source.entryType.text ++ (source.afterType.text ++ '\x7b' :: rest)) =
        some (source.entryType.text, source.afterType.text ++ '\x7b' :: rest) :=
    run_word (fun _ => Iff.rfl) _ _ (List.all_iff_forall_prop.mp (by decide)) (by decide) rest
  have apart : ∀ c ∈ spaces, ¬ (isAlphanumeric c = true ∨ c ∈ keySigns) :=
    List.all_iff_forall_prop.mp (by decide)
  have key (rest : Text) : Scanner.run isKeyChar
      (source.key.text ++ (source.afterKey.text ++ ',' :: rest)) =
        some (source.key.text, source.afterKey.text ++ ',' :: rest) :=
    run_word (fun _ => isKeyChar_iff) _ _ apart (by decide) rest
  rw [trimStart_written, header?]
  simp only [Option.bind_eq_bind, literal_sign, Option.bind_some, entryType]
  rw [skipSpace_append, skipSpace_cons (by decide)]
  simp only [literal_sign, Option.bind_some]
  rw [skipSpace_append, skipSpace_word source.key apart]
  simp only [key, Option.bind_some]
  rw [skipSpace_append, skipSpace_cons (by decide), literal_sign, Option.bind_some]

/-- **An entry is read as it is written**, whatever stands behind it. -/
theorem parse?_source (source : Source) (behind : Text) :
    ∃ said, parse? (source.written ++ behind) =
        some (ofFields source.entryType.text source.key.text said) ∧
      source.fields.Says said := by
  obtain ⟨said, rest, read, told, ends⟩ := fields_written source.fields behind
  refine ⟨said, ?_, told⟩
  rw [parse?, header?_written, Option.bind_eq_bind, Option.bind_some]
  dsimp only
  rw [read, ends, literal_sign]
  rfl

end Bibtex

end Scriptorium
