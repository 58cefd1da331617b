import Scriptorium.Latex.Repair
import Scriptorium.Proofs.Text.Rewriting
/-! # The delimiters of environments

The commands that open and close environments and those that start the items in them are a
lexicon (`Latex.delimiterLexicon`): each starts with a backslash and holds no other. So
whatever stands before a backslash, no delimiter reaches across it
(`Latex.delimiters_append_backslash`), and what a text adds to the delimiters of a longer
one is told by the text itself when it ends in no unfinished delimiter (`Latex.Writes`).
-/

namespace Scriptorium.Latex

/-- A command that opens or closes an environment, or that starts an item of a list or an
entry of a bibliography. -/
inductive Delimiter where
  | opens (name : Text)
  | closes (name : Text)
  | item
  | entry
  deriving DecidableEq, Repr

/-- Whether a character may stand in the name of an environment. -/
def isNameChar (c : Char) : Bool :=
  !"\\\x7b\x7d\n&".toList.contains c

namespace Delimiter

/-- What stands before the name in the opening of an environment. -/
def opensLead : Text := "\\begin\x7b".toList

/-- What stands before the name in the closing of an environment. -/
def closesLead : Text := "\\end\x7b".toList

/-- The command of an item, with the blank behind it. -/
def itemText : Text := "\\item ".toList

/-- The command of an entry, up to its name. -/
def entryText : Text := "\\bibitem\x7b".toList

/-- A delimiter as it is written. -/
def text : Delimiter → Text
  | opens name => opensLead ++ (name ++ ['\x7d'])
  | closes name => closesLead ++ (name ++ ['\x7d'])
  | item => itemText
  | entry => entryText

/-- What delimiters start with. -/
def leads : List Text := [opensLead, closesLead, itemText, entryText]

private theorem exists_lead (delimiter : Delimiter) : ∃ lead ∈ leads, lead <+: delimiter.text := by
  cases delimiter with
  | opens name => exact ⟨opensLead, by simp [leads], List.prefix_append _ _⟩
  | closes name => exact ⟨closesLead, by simp [leads], List.prefix_append _ _⟩
  | item => exact ⟨itemText, by simp [leads], List.prefix_rfl⟩
  | entry => exact ⟨entryText, by simp [leads], List.prefix_rfl⟩

/-- The names of environments are made of their characters. -/
def IsWord : Delimiter → Prop
  | opens name | closes name => ∀ c ∈ name, isNameChar c = true
  | item | entry => True

/-- The rest of a delimiter behind what it starts with. -/
def name? (make : Text → Delimiter) : Scanner Delimiter := fun s =>
  (Text.dropStart? ['\x7d'] (s.dropWhile isNameChar)).map fun rest =>
    (make (s.takeWhile isNameChar), rest)

/-- A delimiter. -/
def scan : Scanner Delimiter := fun s =>
  match Text.dropStart? opensLead s with
  | some rest => name? opens rest
  | none =>
    match Text.dropStart? closesLead s with
    | some rest => name? closes rest
    | none =>
      match Text.dropStart? itemText s with
      | some rest => some (item, rest)
      | none => (Text.dropStart? entryText s).map fun rest => (entry, rest)

variable {delimiter : Delimiter} {s rest name : Text}

/-- A name is read up to the brace behind it, and nothing else is. -/
theorem name?_eq_some_iff {make : Text → Delimiter} (injective : ∀ {a b}, make a = make b → a = b) :
    name? make s = some (make name, rest) ↔
      (∀ c ∈ name, isNameChar c = true) ∧ s = name ++ '\x7d' :: rest := by
  unfold name?
  rw [Option.map_eq_some_iff]
  constructor
  · rintro ⟨behind, closing, same⟩
    obtain ⟨named, rfl⟩ := Prod.mk.inj same
    have named := injective named
    subst named
    refine ⟨fun c member => List.all_eq_true.mp List.all_takeWhile c member, ?_⟩
    exact List.takeWhile_append_dropWhile.symm.trans
      (congrArg (s.takeWhile isNameChar ++ ·) (Text.dropStart?_eq_some_iff.mp closing))
  · rintro ⟨chars, rfl⟩
    have stop : isNameChar '\x7d' = false := by decide
    refine ⟨rest, ?_, ?_⟩
    · rw [List.dropWhile_append_of_pos chars, List.dropWhile_cons_of_neg (by rw [stop]; decide)]
      exact Text.dropStart?_eq_some_iff.mpr rfl
    · rw [List.takeWhile_append_of_pos chars, List.takeWhile_cons_of_neg (by rw [stop]; decide),
        List.append_nil]

private theorem name?_make {make : Text → Delimiter}
    (read : name? make s = some (delimiter, rest)) :
    ∃ name, delimiter = make name := by
  obtain ⟨_, _, same⟩ := Option.map_eq_some_iff.mp read
  exact ⟨_, (Prod.mk.inj same).1.symm⟩

/-- What is read as a delimiter is the text of one. -/
theorem eq_of_scan_eq_some (read : scan s = some (delimiter, rest)) :
    delimiter.IsWord ∧ s = delimiter.text ++ rest := by
  unfold scan at read
  split at read
  · rename_i behind opening
    obtain ⟨name, rfl⟩ := name?_make read
    obtain ⟨chars, whole⟩ := (name?_eq_some_iff (fun same => opens.inj same)).mp read
    rw [Text.dropStart?_eq_some_iff.mp opening, whole]
    exact ⟨chars, by simp [text]⟩
  · split at read
    · rename_i behind closing
      obtain ⟨name, rfl⟩ := name?_make read
      obtain ⟨chars, whole⟩ := (name?_eq_some_iff (fun same => closes.inj same)).mp read
      rw [Text.dropStart?_eq_some_iff.mp closing, whole]
      exact ⟨chars, by simp [text]⟩
    · split at read
      · rename_i behind start
        cases read
        exact ⟨trivial, Text.dropStart?_eq_some_iff.mp start⟩
      · obtain ⟨behind, start, same⟩ := Option.map_eq_some_iff.mp read
        cases same
        exact ⟨trivial, Text.dropStart?_eq_some_iff.mp start⟩

/-- A delimiter is read, whatever stands behind it. -/
theorem scan_text (isWord : delimiter.IsWord) (rest : Text) :
    scan (delimiter.text ++ rest) = some (delimiter, rest) := by
  have start : ∀ lead behind : Text, Text.dropStart? lead (lead ++ behind) = some behind :=
    fun lead behind => Text.dropStart?_eq_some_iff.mpr rfl
  cases delimiter with
  | opens name =>
    rw [text, List.append_assoc, List.append_assoc, scan, start]
    exact (name?_eq_some_iff (fun same => opens.inj same)).mpr ⟨isWord, rfl⟩
  | closes name =>
    rw [text, List.append_assoc, List.append_assoc, scan, start]
    exact (name?_eq_some_iff (fun same => closes.inj same)).mpr ⟨isWord, rfl⟩
  | item => rfl
  | entry => rfl

/-- A delimiter starts with a backslash and holds no other. -/
theorem exists_text_eq (isWord : delimiter.IsWord) :
    ∃ tail, delimiter.text = '\\' :: tail ∧ '\\' ∉ tail := by
  have named : ∀ name : Text, (∀ c ∈ name, isNameChar c = true) → ∀ lead : Text, '\\' ∉ lead →
      '\\' ∉ lead ++ (name ++ ['\x7d']) := by
    intro name chars lead plain member
    rcases List.mem_append.mp member with before | member
    · exact plain before
    · rcases List.mem_append.mp member with inside | closing
      · exact absurd (chars _ inside) (by decide)
      · exact absurd closing (by decide)
  cases delimiter with
  | opens name => exact ⟨_, rfl, named name isWord "begin\x7b".toList (by decide)⟩
  | closes name => exact ⟨_, rfl, named name isWord "end\x7b".toList (by decide)⟩
  | item => exact ⟨"item ".toList, rfl, by decide⟩
  | entry => exact ⟨"bibitem\x7b".toList, rfl, by decide⟩

end Delimiter

/-- **The delimiters as a lexicon.** -/
def delimiterLexicon : Lexicon Delimiter where
  scan := Delimiter.scan
  text := Delimiter.text
  IsWord := Delimiter.IsWord
  text_ne_nil delimiter := by cases delimiter <;> exact List.cons_ne_nil _ _
  scan_eq_some_iff := ⟨Delimiter.eq_of_scan_eq_some, fun ⟨isWord, whole⟩ =>
    whole ▸ Delimiter.scan_text isWord _⟩
  eq_text_of_suffix {word other part rest behind} isWord isOther nonempty suffix same := by
    obtain ⟨tail, whole, plain⟩ := Delimiter.exists_text_eq isWord
    obtain ⟨letters, spelled, -⟩ := Delimiter.exists_text_eq isOther
    cases part with
    | nil => exact absurd rfl nonempty
    | cons c part =>
      rw [spelled, List.cons_append] at same
      obtain ⟨rfl, -⟩ := List.cons_eq_cons.mp same
      rw [whole] at suffix ⊢
      rcases List.suffix_cons_iff.mp suffix with all | inside
      · exact all
      · exact absurd (inside.subset List.mem_cons_self) plain

/-- The delimiters in a text. -/
def delimiters (s : Text) : List Delimiter :=
  delimiterLexicon.words s

variable {s t front behind : Text} {c : Char}

@[simp]
theorem delimiters_nil : delimiters [] = [] :=
  Lexicon.words_nil

/-- Line feeds and ampersands stand in no delimiter. -/
theorem separates_delimiters (sign : c = '\n' ∨ c = '&') : delimiterLexicon.Separates c := by
  intro delimiter isWord member
  have named : ∀ name lead : Text, (∀ c ∈ name, isNameChar c = true) → c ∉ lead →
      c ∉ lead ++ (name ++ ['\x7d']) := by
    intro name lead chars plain member
    rcases List.mem_append.mp member with before | member
    · exact plain before
    · rcases List.mem_append.mp member with inside | closing
      · exact absurd (chars _ inside) (by rcases sign with rfl | rfl <;> decide)
      · rcases sign with rfl | rfl <;> exact absurd closing (by decide)
  cases delimiter with
  | opens name =>
    exact named name _ isWord (by rcases sign with rfl | rfl <;> decide) member
  | closes name =>
    exact named name _ isWord (by rcases sign with rfl | rfl <;> decide) member
  | item => rcases sign with rfl | rfl <;> exact absurd member (by decide)
  | entry => rcases sign with rfl | rfl <;> exact absurd member (by decide)

/-- No delimiter starts at another character than a backslash. -/
theorem delimiters_cons (other : c ≠ '\\') (s : Text) : delimiters (c :: s) = delimiters s := by
  refine Lexicon.words_of_none ?_
  cases read : delimiterLexicon.scan (c :: s) with
  | none => rfl
  | some found =>
    obtain ⟨isWord, whole⟩ := delimiterLexicon.scan_eq_some_iff.mp read
    obtain ⟨tail, spelled, -⟩ := Delimiter.exists_text_eq isWord
    have text : delimiterLexicon.text found.1 = '\\' :: tail := spelled
    rw [text] at whole
    exact absurd (List.cons_eq_cons.mp whole).1 other

/-- **No delimiter reaches across a backslash.** -/
theorem delimiters_append_backslash (front behind : Text) :
    delimiters (front ++ '\\' :: behind) = delimiters front ++ delimiters ('\\' :: behind) := by
  induction front using delimiterLexicon.word_induction with
  | nil => rw [delimiters_nil, List.nil_append, List.nil_append]
  | plain c cs absent ih =>
    have none : delimiterLexicon.scan (c :: (cs ++ '\\' :: behind)) = none := by
      cases read : delimiterLexicon.scan (c :: (cs ++ '\\' :: behind)) with
      | none => rfl
      | some found =>
        exfalso
        obtain ⟨word, rest⟩ := found
        obtain ⟨isWord, whole⟩ := delimiterLexicon.scan_eq_some_iff.mp read
        rw [← List.cons_append] at whole
        rcases List.append_eq_append_iff.mp whole with ⟨part, reached, across⟩ | ⟨part, inside, -⟩
        · cases part with
          | nil =>
            rw [List.append_nil] at reached
            have start : delimiterLexicon.scan (delimiterLexicon.text word ++ []) = _ :=
              Lexicon.scan_text isWord
            rw [List.append_nil, reached, absent] at start
            cases start
          | cons d part =>
            -- A delimiter that goes on would hold a second backslash.
            obtain ⟨tail, spelled, plain⟩ := Delimiter.exists_text_eq isWord
            obtain ⟨rfl, -⟩ := List.cons_eq_cons.mp across
            have text : delimiterLexicon.text word = '\\' :: tail := spelled
            rw [text, List.cons_append] at reached
            apply plain
            rw [(List.cons_eq_cons.mp reached).2]
            exact List.mem_append_right _ List.mem_cons_self
        · rw [inside, Lexicon.scan_text isWord] at absent
          cases absent
    exact (Lexicon.words_of_none none).trans
      (ih.trans (congrArg (· ++ _) (Lexicon.words_of_none absent).symm))
  | word word rest isWord ih =>
    have first : ∀ rest : Text, delimiters (delimiterLexicon.text word ++ rest) =
        word :: delimiters rest := fun rest => Lexicon.words_text_append isWord
    rw [List.append_assoc, first, first, ih, List.cons_append]

/-- No delimiter reaches across an ampersand. -/
theorem delimiters_append_ampersand (front behind : Text) :
    delimiters (front ++ '&' :: behind) = delimiters front ++ delimiters behind :=
  Lexicon.words_append_cons (separates_delimiters (.inr rfl)) front behind

/-! ## What a text adds -/

/-- A text writes delimiters, whatever stands behind it. -/
def Writes (s : Text) (written : List Delimiter) : Prop :=
  ∀ behind, delimiters (s ++ behind) = written ++ delimiters behind

/-- A text writes no delimiter. -/
def Quiet (s : Text) : Prop :=
  Writes s []

namespace Writes

variable {written written' : List Delimiter} {delimiter : Delimiter}

/-- Two texts write what each of them writes. -/
theorem append (first : Writes s written) (second : Writes t written') :
    Writes (s ++ t) (written ++ written') := by
  intro behind
  rw [List.append_assoc, first, second, List.append_assoc]

/-- What a text writes are its delimiters. -/
theorem delimiters_eq (writes : Writes s written) : delimiters s = written := by
  have whole := writes []
  rwa [List.append_nil, delimiters_nil, List.append_nil] at whole

/-- The text of a delimiter writes that delimiter. -/
theorem ofWord (delimiter : Delimiter) (isWord : delimiter.IsWord) :
    Writes delimiter.text [delimiter] := by
  intro behind
  change delimiterLexicon.words (delimiterLexicon.text delimiter ++ behind) = _
  exact Lexicon.words_text_append isWord

variable {α : Type} {parts : List α} {write : α → Text} {writtenFor : α → List Delimiter}

/-- Parts write together what each of them writes. -/
theorem flatMap (each : ∀ part ∈ parts, Writes (write part) (writtenFor part)) :
    Writes (parts.flatMap write) (parts.flatMap writtenFor) := by
  induction parts with
  | nil => exact fun _ => rfl
  | cons part parts ih =>
    obtain ⟨here, later⟩ := List.forall_mem_cons.mp each
    rw [List.flatMap_cons, List.flatMap_cons]
    exact here.append (ih later)

/-- Parts with quiet text between each two write what each of them writes. -/
theorem join {separator : Text} (between : Writes separator [])
    (each : ∀ part ∈ parts, Writes (write part) (writtenFor part)) :
    Writes (Text.join separator (parts.map write)) (parts.flatMap writtenFor) := by
  unfold Text.join
  induction parts with
  | nil => exact fun _ => rfl
  | cons part parts ih =>
    obtain ⟨here, later⟩ := List.forall_mem_cons.mp each
    rw [List.map_cons, List.flatMap_cons]
    cases parts with
    | nil =>
      rw [List.map_nil, List.intercalate_singleton, List.flatMap_nil, List.append_nil]
      exact here
    | cons next parts =>
      rw [List.map_cons, List.intercalate_cons_cons, ← List.append_nil (writtenFor part)]
      exact (here.append between).append (ih later)

end Writes

namespace Quiet

/-- The empty text is quiet. -/
theorem nil : Quiet [] :=
  fun _ => rfl

/-- Two quiet texts are quiet one behind the other. -/
theorem append (first : Quiet s) (second : Quiet t) : Quiet (s ++ t) :=
  Writes.append first second

/-- A character that is no backslash may stand before a quiet text. -/
theorem cons (other : c ≠ '\\') (quiet : Quiet s) : Quiet (c :: s) := by
  intro behind
  rw [List.cons_append, delimiters_cons other, quiet]

/-- A text without backslashes writes nothing. -/
theorem of_not_mem (plain : '\\' ∉ s) : Quiet s := by
  induction s with
  | nil => exact nil
  | cons c s ih =>
    obtain ⟨other, later⟩ := List.ne_and_not_mem_of_not_mem_cons plain
    exact cons (Ne.symm other) (ih later)

/-- The start of a command that no delimiter starts like writes nothing. -/
theorem ofLead {lead : Text} (plain : '\\' ∉ lead)
    (other : Delimiter.leads.all (fun start =>
      !start.isPrefixOf ('\\' :: lead) && !('\\' :: lead).isPrefixOf start) = true) :
    Quiet ('\\' :: lead) := by
  intro behind
  have absent : delimiterLexicon.scan ('\\' :: (lead ++ behind)) = none := by
    cases read : delimiterLexicon.scan ('\\' :: (lead ++ behind)) with
    | none => rfl
    | some found =>
      exfalso
      obtain ⟨-, whole⟩ := Delimiter.eq_of_scan_eq_some read
      obtain ⟨start, listed, isStart⟩ := found.1.exists_lead
      have check := List.all_eq_true.mp other start listed
      simp only [Bool.and_eq_true, Bool.not_eq_true', Bool.eq_false_iff, ne_eq,
        List.isPrefixOf_iff_prefix] at check
      have within : start <+: '\\' :: lead ++ behind := by
        rw [List.cons_append, whole]
        exact isStart.trans (List.prefix_append _ _)
      exact (List.prefix_or_prefix_of_prefix within (List.prefix_append _ _)).elim check.1 check.2
  exact (Lexicon.words_of_none absent).trans (of_not_mem plain behind)

/-- A command that no delimiter starts like adds what its argument adds. -/
theorem command {name argument : Text} (plain : '\\' ∉ name)
    (other : Delimiter.leads.all (fun start => !start.isPrefixOf ('\\' :: (name ++ ['\x7b'])) &&
      !('\\' :: (name ++ ['\x7b'])).isPrefixOf start) = true)
    (quiet : Quiet argument) : Quiet (Latex.command name argument) := by
  have opening : Quiet ('\\' :: (name ++ ['\x7b'])) := ofLead (by simpa using plain) other
  have whole := (opening.append quiet).append (of_not_mem (s := ['\x7d']) (by decide))
  simpa only [Latex.command, List.append_assoc, List.cons_append, List.nil_append] using whole

/-- Parts that are written quietly are quiet together. -/
theorem flatMap {α : Type} {parts : List α} {write : α → Text}
    (each : ∀ part ∈ parts, Quiet (write part)) : Quiet (parts.flatMap write) := by
  have whole := Writes.flatMap each
  rwa [List.flatMap_eq_nil_iff.mpr fun _ _ => rfl] at whole

/-- Quiet parts are quiet with quiet text between each two. -/
theorem join {separator : Text} (between : Quiet separator) {parts : List Text}
    (each : ∀ part ∈ parts, Quiet part) : Quiet (Text.join separator parts) := by
  have whole : Writes (Text.join separator (parts.map id)) (parts.flatMap fun _ => []) :=
    Writes.join between each
  rwa [List.flatMap_eq_nil_iff.mpr fun _ _ => rfl, List.map_id] at whole

end Quiet

end Scriptorium.Latex
