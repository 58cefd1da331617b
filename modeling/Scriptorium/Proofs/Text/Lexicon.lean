import Scriptorium.Proofs.Text.Scan
/-! # Words that stand for other texts

A lexicon is a set of words none of which starts inside of another, with the scanner
that finds them wherever they stand (`Lexicon.mem_words_iff`). In a text that a longer
one was abbreviated to, every word of the lexicon is either one that was put there or
one that the longer text holds too (`Lexicon.Abbreviates.split`). So expanding the words
gives the longer text back (`Lexicon.Abbreviates.replaceAll`), and abbreviating brings
in no words but those that are put there (`Lexicon.Abbreviates.absent`).
-/

namespace Scriptorium

/-- A text that ends with `back` after a word ends inside of `back`, or with a part of
the word and `back`. -/
theorem Text.suffix_append_cases {ending word back : Text} (suffix : ending <:+ word ++ back) :
    ending <:+ back ∨ ∃ part, part ≠ [] ∧ part <:+ word ∧ ending = part ++ back := by
  obtain ⟨front, whole⟩ := suffix
  rcases List.append_eq_append_iff.mp whole with ⟨part, rfl, rfl⟩ | ⟨part, rfl, rfl⟩
  · by_cases empty : part = []
    · subst empty
      exact .inl List.suffix_rfl
    · exact .inr ⟨part, empty, List.suffix_append front part, rfl⟩
  · exact .inl (List.suffix_append part ending)

/-- Words that a scanner finds wherever they stand. -/
structure Lexicon (α : Type) where
  scan : Scanner α
  text : α → Text
  IsWord : α → Prop
  text_ne_nil (word : α) : text word ≠ []
  scan_eq_some_iff {s rest : Text} {word : α} :
    scan s = some (word, rest) ↔ IsWord word ∧ s = text word ++ rest
  /-- No word starts inside of another. -/
  eq_text_of_suffix {word other : α} {part rest behind : Text} : IsWord word → IsWord other →
    part ≠ [] → part <:+ text word → part ++ rest = text other ++ behind → part = text word

namespace Lexicon

variable {α : Type} (lexicon : Lexicon α) {word other : α} {s rest behind : Text}

/-- A text holds a word. -/
def Holds (s : Text) (word : α) : Prop :=
  lexicon.IsWord word ∧ lexicon.text word <:+: s

variable {lexicon}

/-- A word of a lexicon is read, whatever follows it. -/
theorem scan_text (isWord : lexicon.IsWord word) :
    lexicon.scan (lexicon.text word ++ rest) = some (word, rest) :=
  lexicon.scan_eq_some_iff.mpr ⟨isWord, rfl⟩

/-- What is behind a word is shorter than the text it stands in. -/
theorem length_lt_of_scan (read : lexicon.scan s = some (word, rest)) :
    rest.length < s.length := by
  obtain ⟨-, rfl⟩ := lexicon.scan_eq_some_iff.mp read
  have := List.length_pos_iff.mpr (lexicon.text_ne_nil word)
  rw [List.length_append]
  omega

/-- Induction along the words of a text and the characters between them. -/
@[elab_as_elim]
theorem word_induction (lexicon : Lexicon α) {motive : Text → Prop} (nil : motive [])
    (plain : ∀ c cs, lexicon.scan (c :: cs) = none → motive cs → motive (c :: cs))
    (word : ∀ word rest, lexicon.IsWord word → motive rest →
      motive (lexicon.text word ++ rest)) (s : Text) : motive s := by
  have shorter : ∀ s value rest, lexicon.scan s = some (value, rest) → rest.length < s.length :=
    fun s value rest read => length_lt_of_scan read
  induction s using Scanner.match_induction shorter with
  | nil => exact nil
  | plain c cs absent ih => exact plain c cs absent ih
  | found s value rest read _ ih =>
    obtain ⟨isWord, rfl⟩ := lexicon.scan_eq_some_iff.mp read
    exact word value rest isWord ih

/-- Two words at the start of one text are the same. -/
theorem eq_of_append_eq (isWord : lexicon.IsWord word) (isOther : lexicon.IsWord other)
    (same : lexicon.text word ++ rest = lexicon.text other ++ behind) :
    word = other ∧ rest = behind := by
  have first : lexicon.scan (lexicon.text word ++ rest) = some (word, rest) := scan_text isWord
  rw [same, scan_text isOther] at first
  cases first
  exact ⟨rfl, rfl⟩

/-- A word that stands behind the start of another stands behind its end. -/
theorem apart {front : Text} (isWord : lexicon.IsWord word) (isOther : lexicon.IsWord other)
    (same : lexicon.text word ++ rest = front ++ (lexicon.text other ++ behind)) :
    front = [] ∨ lexicon.text word <+: front := by
  rcases List.append_eq_append_iff.mp same with ⟨later, rfl, -⟩ | ⟨part, whole, inside⟩
  · exact .inr (List.prefix_append _ later)
  · by_cases empty : part = []
    · subst empty
      rw [List.append_nil] at whole
      exact .inr (whole ▸ List.prefix_rfl)
    · left
      have all := lexicon.eq_text_of_suffix isWord isOther empty ⟨front, whole.symm⟩ inside.symm
      rw [all] at whole
      exact List.append_left_eq_self.mp whole.symm

/-- A word stands in a text with any front. -/
theorem Holds.append_right (holds : lexicon.Holds s word) (front : Text) :
    lexicon.Holds (front ++ s) word :=
  ⟨holds.1, holds.2.trans (List.suffix_append front s).isInfix⟩

private theorem holds_text_append (isWord : lexicon.IsWord word) :
    lexicon.Holds (lexicon.text word ++ rest) word :=
  ⟨isWord, (List.prefix_append _ _).isInfix⟩

/-! ## The words of a text -/

variable (lexicon) in
/-- The words of a text, in order. -/
def words (s : Text) : List α :=
  (Scanner.pieces lexicon.scan s).filterMap fun
    | .plain _ => none
    | .found word => some word

@[simp]
theorem words_nil : lexicon.words [] = [] := by
  simp [words, Scanner.pieces]

/-- The words of a text are the one it begins with and those behind it. -/
theorem words_text_append (isWord : lexicon.IsWord word) :
    lexicon.words (lexicon.text word ++ rest) = word :: lexicon.words rest := by
  have read : lexicon.scan (lexicon.text word ++ rest) = some (word, rest) := scan_text isWord
  rw [words, Scanner.pieces_of_some read (length_lt_of_scan read)]
  rfl

/-- A character that no word begins with is passed over. -/
theorem words_of_none {c : Char} {cs : Text} (absent : lexicon.scan (c :: cs) = none) :
    lexicon.words (c :: cs) = lexicon.words cs := by
  rw [words, Scanner.pieces_of_none absent]
  rfl

/-- A word at the start of a text is replaced, and replacing goes on behind it. -/
theorem replaceAll_text_append {write : α → Text} (isWord : lexicon.IsWord word) :
    Scanner.replaceAll lexicon.scan write (lexicon.text word ++ rest) =
      write word ++ Scanner.replaceAll lexicon.scan write rest :=
  Scanner.replaceAll_of_some (scan_text isWord) (length_lt_of_scan (scan_text isWord))

private theorem not_holds_nil : ¬ lexicon.Holds [] word :=
  fun holds => lexicon.text_ne_nil word (List.infix_nil.mp holds.2)

/-- What stands in a word and a text behind it is the word, or stands in the text. -/
theorem holds_text_append_iff (isWord : lexicon.IsWord word) :
    lexicon.Holds (lexicon.text word ++ rest) other ↔ other = word ∨ lexicon.Holds rest other := by
  constructor
  · rintro ⟨isOther, front, behind, whole⟩
    rw [List.append_assoc] at whole
    rcases apart isWord isOther whole.symm with rfl | ⟨later, rfl⟩
    · exact .inl (eq_of_append_eq isOther isWord whole).1
    · rw [List.append_assoc] at whole
      exact .inr ⟨isOther, later, behind, by
        rw [List.append_assoc, List.append_cancel_left whole]⟩
  · rintro (rfl | holds)
    · exact holds_text_append isWord
    · exact holds.append_right _

/-- Where no word begins, a word stands behind the next character. -/
theorem holds_cons_iff_of_none {c : Char} {cs : Text} (absent : lexicon.scan (c :: cs) = none) :
    lexicon.Holds (c :: cs) word ↔ lexicon.Holds cs word := by
  constructor
  · rintro ⟨isWord, front, behind, whole⟩
    cases front with
    | nil =>
      rw [← whole, List.nil_append, scan_text isWord] at absent
      cases absent
    | cons d front =>
      cases whole
      exact ⟨isWord, front, behind, rfl⟩
  · exact fun holds => holds.append_right [c]

/-- **The words of a text** are those that stand anywhere in it. -/
theorem mem_words_iff : word ∈ lexicon.words s ↔ lexicon.Holds s word := by
  induction s using lexicon.word_induction with
  | nil => simp [not_holds_nil]
  | plain c cs absent ih => rw [words_of_none absent, holds_cons_iff_of_none absent, ih]
  | word first rest isWord ih =>
    rw [words_text_append isWord, List.mem_cons, ih, holds_text_append_iff isWord]

/-! ## Abbreviations -/

/-- The second text is the first one with words of the class `P` in the place of what
they stand for. -/
inductive Abbreviates (lexicon : Lexicon α) (expand : α → Text) (P : α → Prop) :
    Text → Text → Prop where
  | nil : Abbreviates lexicon expand P [] []
  | keep (c : Char) {long short : Text} : Abbreviates lexicon expand P long short →
      Abbreviates lexicon expand P (c :: long) (c :: short)
  | word (word : α) {long short : Text} : lexicon.IsWord word → P word →
      Abbreviates lexicon expand P long short →
      Abbreviates lexicon expand P (expand word ++ long) (lexicon.text word ++ short)

namespace Abbreviates

variable {expand : α → Text} {P : α → Prop} {long short : Text}

/-- A text abbreviates itself. -/
theorem refl (s : Text) : Abbreviates lexicon expand P s s := by
  induction s with
  | nil => exact .nil
  | cons c s ih => exact .keep c ih

/-- Two abbreviations abbreviate the texts one behind the other. -/
theorem append {long' short' : Text} (first : Abbreviates lexicon expand P long short)
    (second : Abbreviates lexicon expand P long' short') :
    Abbreviates lexicon expand P (long ++ long') (short ++ short') := by
  induction first with
  | nil => exact second
  | keep c _ ih => exact .keep c ih
  | word word isWord inP _ ih =>
    simp only [List.append_assoc]
    exact .word word isWord inP ih

/-- Only the empty text is abbreviated to nothing. -/
theorem eq_nil (abbreviates : Abbreviates lexicon expand P long []) : long = [] := by
  generalize empty : ([] : Text) = short at abbreviates
  cases abbreviates with
  | nil => rfl
  | keep c _ => cases empty
  | word word isWord inP _ =>
    exact absurd (List.append_eq_nil_iff.mp empty.symm).1 (lexicon.text_ne_nil word)

/-- A character that no word starts with was kept. -/
theorem eq_cons {c : Char} {cs : Text} (abbreviates : Abbreviates lexicon expand P long (c :: cs))
    (absent : lexicon.scan (c :: cs) = none) :
    ∃ long', long = c :: long' ∧ Abbreviates lexicon expand P long' cs := by
  generalize whole : c :: cs = short at abbreviates
  cases abbreviates with
  | nil => cases whole
  | @keep d long' short' tail =>
    cases whole
    exact ⟨long', rfl, tail⟩
  | word word isWord inP tail =>
    rw [whole, scan_text isWord] at absent
    cases absent

/-- A start of the short text in which no word begins is a start of the long one. -/
theorem split_free {front : Text} (abbreviates : Abbreviates lexicon expand P long (front ++ rest))
    (free : ∀ (word : α) (lead behind : Text), lexicon.IsWord word →
      front ++ rest = lead ++ (lexicon.text word ++ behind) → front <+: lead) :
    ∃ long', long = front ++ long' ∧ Abbreviates lexicon expand P long' rest := by
  generalize whole : front ++ rest = short at abbreviates
  induction abbreviates generalizing front with
  | nil =>
    obtain ⟨rfl, rfl⟩ := List.append_eq_nil_iff.mp whole
    exact ⟨[], rfl, .nil⟩
  | @keep c long short tail ih =>
    cases front with
    | nil =>
      cases whole
      exact ⟨c :: long, rfl, .keep c tail⟩
    | cons d front =>
      cases whole
      have later : ∀ (word : α) (lead behind : Text), lexicon.IsWord word →
          front ++ rest = lead ++ (lexicon.text word ++ behind) → front <+: lead := by
        intro word lead behind isWord same
        have shifted := free word (c :: lead) behind isWord (by rw [List.cons_append, same]; rfl)
        exact List.prefix_cons_inj c |>.mp shifted
      obtain ⟨long', rfl, tail'⟩ := ih later rfl
      exact ⟨long', rfl, tail'⟩
  | @word word long short isWord inP tail _ =>
    have start := free word [] short isWord whole
    obtain rfl := List.prefix_nil.mp start
    rw [List.nil_append] at whole
    exact ⟨_, rfl, whole ▸ .word word isWord inP tail⟩

/-- **A word of the short text** is either one that was put in, or stands in the long
text too. -/
theorem split (abbreviates : Abbreviates lexicon expand P long (lexicon.text word ++ rest))
    (isWord : lexicon.IsWord word) :
    (P word ∧ ∃ long', long = expand word ++ long' ∧ Abbreviates lexicon expand P long' rest) ∨
      ∃ long', long = lexicon.text word ++ long' ∧ Abbreviates lexicon expand P long' rest := by
  generalize whole : lexicon.text word ++ rest = short at abbreviates
  cases abbreviates with
  | nil => exact absurd (List.append_eq_nil_iff.mp whole).1 (lexicon.text_ne_nil word)
  | word other isOther inP tail =>
    obtain ⟨rfl, rfl⟩ := eq_of_append_eq isWord isOther whole
    exact .inl ⟨inP, _, rfl, tail⟩
  | @keep c long short tail =>
    right
    -- Behind its first character the word is free of other words.
    cases spelled : lexicon.text word with
    | nil => exact absurd spelled (lexicon.text_ne_nil word)
    | cons d letters =>
      rw [spelled] at whole
      cases whole
      obtain ⟨long', rfl, tail'⟩ := tail.split_free (fun other lead behind isOther same => by
        have placed :
            lexicon.text word ++ rest = (c :: lead) ++ (lexicon.text other ++ behind) := by
          rw [spelled, List.cons_append, same]
          rfl
        rcases apart isWord isOther placed with start | before
        · cases start
        · rw [spelled] at before
          exact List.prefix_cons_inj c |>.mp before)
      exact ⟨long', rfl, tail'⟩

/-- **Expanding gives the long text back** when the words that the long text itself
holds are kept. -/
theorem replaceAll {write : α → Text} (abbreviates : Abbreviates lexicon expand P long short)
    (expanded : ∀ word, lexicon.IsWord word → P word → write word = expand word)
    (kept : ∀ word, lexicon.Holds long word → write word = lexicon.text word) :
    Scanner.replaceAll lexicon.scan write short = long := by
  induction short using lexicon.word_induction generalizing long with
  | nil => rw [Scanner.replaceAll_nil, abbreviates.eq_nil]
  | plain c cs absent ih =>
    obtain ⟨long', rfl, tail⟩ := abbreviates.eq_cons absent
    rw [Scanner.replaceAll_of_none absent,
      ih tail fun word holds => kept word (holds.append_right [c])]
  | word word rest isWord ih =>
    rw [replaceAll_text_append isWord]
    rcases abbreviates.split isWord with ⟨inP, long', rfl, tail⟩ | ⟨long', rfl, tail⟩
    · rw [expanded word isWord inP, ih tail fun word holds => kept word (holds.append_right _)]
    · rw [kept word (holds_text_append isWord),
        ih tail fun word holds => kept word (holds.append_right _)]

/-- **Abbreviating brings in no other words.** -/
theorem absent (abbreviates : Abbreviates lexicon expand P long short) (outside : ¬ P word)
    (absent : ¬ lexicon.Holds long word) : ¬ lexicon.Holds short word := by
  rintro ⟨isWord, lead, behind, whole⟩
  simp only [List.append_assoc] at whole
  induction abbreviates generalizing lead with
  | nil =>
    exact lexicon.text_ne_nil word
      (List.append_eq_nil_iff.mp (List.append_eq_nil_iff.mp whole).2).1
  | @keep c long short tail ih =>
    cases lead with
    | nil =>
      have here : Abbreviates lexicon expand P (c :: long) (lexicon.text word ++ behind) := by
        rw [List.nil_append] at whole
        rw [whole]
        exact .keep c tail
      rcases here.split isWord with ⟨inP, -⟩ | ⟨long', same, -⟩
      · exact outside inP
      · rw [same] at absent
        exact absent (holds_text_append isWord)
    | cons d lead =>
      cases whole
      exact ih (fun holds => absent (holds.append_right [c])) lead rfl
  | @word other long short isOther inP tail ih =>
    rcases apart isOther isWord whole.symm with start | ⟨lead', rfl⟩
    · subst start
      obtain ⟨rfl, -⟩ := eq_of_append_eq isWord isOther whole
      exact outside inP
    · rw [List.append_assoc] at whole
      exact ih (fun holds => absent (holds.append_right _)) lead' (List.append_cancel_left whole)

end Abbreviates

end Lexicon

end Scriptorium
