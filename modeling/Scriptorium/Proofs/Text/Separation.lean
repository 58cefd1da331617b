import Scriptorium.Proofs.Text.Lexicon
import Scriptorium.Proofs.Text.Split
import Scriptorium.Text.Blank
import Scriptorium.Text.Lines
/-! # Characters between words

A character that stands in no word of a lexicon keeps the words on its two sides apart.
So a text may be cut at such a character without cutting a word (`Lexicon.pieces_append`),
and what a word is replaced by brings in its own words and no others
(`Lexicon.pieces_replaceAll`).
-/

namespace Scriptorium.Lexicon

variable {α β : Type} {lexicon : Lexicon α} {front behind s t : Text} {c : Char}

/-- A character that stands in no word. -/
def Separates (lexicon : Lexicon α) (c : Char) : Prop :=
  ∀ word, lexicon.IsWord word → c ∉ lexicon.text word

/-- Texts that no word reaches across, since one ends or the other starts with a
character that stands in none. -/
def Apart (lexicon : Lexicon α) (front behind : Text) : Prop :=
  (∀ c ∈ front.getLast?, lexicon.Separates c) ∨ ∀ c ∈ behind.head?, lexicon.Separates c

/-- The words of a text and the characters between them. -/
def pieces (lexicon : Lexicon α) (s : Text) : List (Piece α) :=
  Scanner.pieces lexicon.scan s

@[simp]
theorem pieces_nil : lexicon.pieces [] = [] := by
  rw [pieces, Scanner.pieces]

/-- A character that no word begins with is plain. -/
theorem pieces_of_none {cs : Text} (absent : lexicon.scan (c :: cs) = none) :
    lexicon.pieces (c :: cs) = .plain c :: lexicon.pieces cs :=
  Scanner.pieces_of_none absent

/-- A word is a piece, and so are those behind it. -/
theorem pieces_text_append {word : α} (isWord : lexicon.IsWord word) (rest : Text) :
    lexicon.pieces (lexicon.text word ++ rest) = .found word :: lexicon.pieces rest :=
  Scanner.pieces_of_some (scan_text isWord) (length_lt_of_scan (scan_text isWord))

/-- No word reaches across a place when less stands before it. -/
theorem Apart.tail {rest : Text} (apart : lexicon.Apart (front ++ rest) behind) :
    lexicon.Apart rest behind := by
  apply apart.imp_left
  intro last c member
  apply last c
  rw [List.getLast?_append, Option.mem_def.mp member]
  rfl

/-- No word reaches across a character that stands in none. -/
theorem Apart.cons (separates : lexicon.Separates c) (front behind : Text) :
    lexicon.Apart front (c :: behind) :=
  .inr fun d member => by
    rw [List.head?_cons] at member
    exact Option.mem_some_iff.mp member ▸ separates

/-- A word that starts in the first of two texts apart ends in it. -/
theorem Apart.scan_eq_none (apart : lexicon.Apart (c :: front) behind)
    (absent : lexicon.scan (c :: front) = none) : lexicon.scan (c :: (front ++ behind)) = none := by
  cases read : lexicon.scan (c :: (front ++ behind)) with
  | none => rfl
  | some found =>
    obtain ⟨word, rest⟩ := found
    obtain ⟨isWord, whole⟩ := lexicon.scan_eq_some_iff.mp read
    have start : lexicon.scan (c :: front) ≠ none := by
      rw [← List.cons_append] at whole
      rcases List.append_eq_append_iff.mp whole with ⟨part, reached, across⟩ | ⟨part, inside, -⟩
      · cases part with
        | nil =>
          rw [List.append_nil] at reached
          rw [← reached, ← List.append_nil (lexicon.text word), scan_text isWord]
          exact Option.some_ne_none _
        | cons d part =>
          exfalso
          rcases apart with last | first
          · have ends := List.getLast?_eq_some_getLast (List.cons_ne_nil c front)
            apply last _ ends word isWord
            rw [reached]
            exact List.mem_append_left _ (List.getLast_mem _)
          · rw [across] at first
            apply first d rfl word isWord
            rw [reached]
            exact List.mem_append_right _ List.mem_cons_self
      · rw [inside, scan_text isWord]
        exact Option.some_ne_none _
    exact absurd absent start

/-- **Cutting between words.** The pieces of two texts apart are the pieces of the one
and those of the other. -/
theorem pieces_append (apart : lexicon.Apart front behind) :
    lexicon.pieces (front ++ behind) = lexicon.pieces front ++ lexicon.pieces behind := by
  induction front using lexicon.word_induction with
  | nil => rw [List.nil_append, pieces_nil, List.nil_append]
  | plain c cs absent ih =>
    have apart' : lexicon.Apart cs behind := Apart.tail (List.singleton_append ▸ apart)
    rw [List.cons_append, pieces_of_none (apart.scan_eq_none absent), pieces_of_none absent,
      ih apart', List.cons_append]
  | word word rest isWord ih =>
    rw [List.append_assoc, pieces_text_append isWord, pieces_text_append isWord, ih apart.tail,
      List.cons_append]

/-- A word in a text is one of its pieces, whatever stands on its two sides. -/
theorem pieces_append_text {word : α} (isWord : lexicon.IsWord word) (front behind : Text) :
    lexicon.pieces (front ++ (lexicon.text word ++ behind)) =
      lexicon.pieces front ++ .found word :: lexicon.pieces behind := by
  induction front using lexicon.word_induction with
  | nil => rw [List.nil_append, pieces_text_append isWord, pieces_nil, List.nil_append]
  | plain c cs absent ih =>
    have none : lexicon.scan (c :: (cs ++ (lexicon.text word ++ behind))) = none := by
      cases read : lexicon.scan (c :: (cs ++ (lexicon.text word ++ behind))) with
      | none => rfl
      | some found =>
        exfalso
        obtain ⟨other, rest⟩ := found
        obtain ⟨isOther, whole⟩ := lexicon.scan_eq_some_iff.mp read
        rw [← List.cons_append] at whole
        -- A word that starts in the front ends in it, where none was found.
        obtain empty | ⟨later, within⟩ := Lexicon.apart isOther isWord whole.symm
        · cases empty
        · rw [← within, scan_text isOther] at absent
          cases absent
    rw [List.cons_append, pieces_of_none none, pieces_of_none absent, ih, List.cons_append]
  | word other rest isOther ih =>
    rw [List.append_assoc, pieces_text_append isOther, pieces_text_append isOther, ih,
      List.cons_append]

/-- The word that a piece is, if it is one. -/
def wordOf? : Piece α → Option α
  | .plain _ => none
  | .found word => some word

/-- The words of a text are those among its pieces. -/
theorem words_eq (s : Text) : lexicon.words s = (lexicon.pieces s).filterMap wordOf? := by
  unfold words pieces
  congr

/-- The words of two texts are those of each when none reaches across. -/
theorem words_append (apart : lexicon.Apart front behind) :
    lexicon.words (front ++ behind) = lexicon.words front ++ lexicon.words behind := by
  simp only [words_eq, pieces_append apart, List.filterMap_append]

/-- A word between two texts stands between their words. -/
theorem words_append_text {word : α} (isWord : lexicon.IsWord word) (front behind : Text) :
    lexicon.words (front ++ (lexicon.text word ++ behind)) =
      lexicon.words front ++ word :: lexicon.words behind := by
  rw [words_eq, words_eq, words_eq, pieces_append_text isWord, List.filterMap_append]
  rfl

/-- No word begins with a character that stands in none. -/
theorem scan_eq_none_of_separates (separates : lexicon.Separates c) (behind : Text) :
    lexicon.scan (c :: behind) = none := by
  cases read : lexicon.scan (c :: behind) with
  | none => rfl
  | some found =>
    obtain ⟨word, rest⟩ := found
    obtain ⟨isWord, whole⟩ := lexicon.scan_eq_some_iff.mp read
    refine absurd ?_ (separates word isWord)
    cases spelled : lexicon.text word with
    | nil => exact absurd spelled (lexicon.text_ne_nil word)
    | cons d letters =>
      rw [spelled] at whole
      cases whole
      exact List.mem_cons_self

/-- A character that stands in no word parts the words on its two sides. -/
theorem words_append_cons (separates : lexicon.Separates c) (front behind : Text) :
    lexicon.words (front ++ c :: behind) = lexicon.words front ++ lexicon.words behind := by
  rw [words_append (.cons separates front behind),
    words_of_none (scan_eq_none_of_separates separates behind)]

/-- A character that stands in no word may stand in front of a text. -/
theorem words_cons (separates : lexicon.Separates c) (behind : Text) :
    lexicon.words (c :: behind) = lexicon.words behind :=
  words_of_none (scan_eq_none_of_separates separates behind)

/-- A text without a character of every word holds no word. -/
theorem words_eq_nil_of_not_mem (every : ∀ word, lexicon.IsWord word → c ∈ lexicon.text word)
    (absent : c ∉ s) : lexicon.words s = [] := by
  apply List.eq_nil_iff_forall_not_mem.mpr
  intro word member
  obtain ⟨isWord, inside⟩ := mem_words_iff.mp member
  exact absent (inside.subset (every word isWord))

/-! ## Replacing words -/

/-- A text that no word reaches into or out of. -/
structure Delimited (lexicon : Lexicon α) (s : Text) : Prop where
  nonempty : s ≠ []
  first : ∀ c ∈ s.head?, lexicon.Separates c
  last : ∀ c ∈ s.getLast?, lexicon.Separates c

/-- No word reaches out of a text that is delimited. -/
theorem Delimited.apart_right (delimited : lexicon.Delimited s) (behind : Text) :
    lexicon.Apart s behind :=
  .inl delimited.last

/-- The words around and in a delimited text. -/
theorem Delimited.words_between (delimited : lexicon.Delimited s) (front behind : Text) :
    lexicon.words (front ++ (s ++ behind)) =
      lexicon.words front ++ (lexicon.words s ++ lexicon.words behind) := by
  rw [← words_append (delimited.apart_right behind), words_append (.inr fun c member => ?_)]
  cases whole : s with
  | nil => exact absurd whole delimited.nonempty
  | cons d letters =>
    rw [whole, List.cons_append, List.head?_cons] at member
    exact delimited.first c (whole ▸ member)

/-- A text that starts like a delimited one starts with a separating character. -/
theorem Delimited.separates_of_prefix {t behind : Text} (delimited : lexicon.Delimited s)
    (start : c :: t <+: s ++ behind) : lexicon.Separates c := by
  cases whole : s with
  | nil => exact absurd whole delimited.nonempty
  | cons d letters =>
    rw [whole, List.cons_append] at start
    obtain ⟨rfl, -⟩ := List.cons_prefix_cons.mp start
    apply delimited.first c
    rw [whole]
    rfl

/-- The pieces of a text without words are its characters. -/
theorem pieces_of_words_eq_nil (none : lexicon.words s = []) :
    lexicon.pieces s = s.map .plain := by
  induction s using lexicon.word_induction with
  | nil => exact pieces_nil
  | plain c cs absent ih =>
    rw [words_of_none absent] at none
    rw [pieces_of_none absent, ih none, List.map_cons]
  | word word rest isWord ih =>
    rw [words_text_append isWord] at none
    cases none

/-- The pieces of what a piece is replaced by. -/
def replacedPieces (lexicon : Lexicon α) (write : α → Text) : Piece α → List (Piece α)
  | .plain c => [.plain c]
  | .found word => lexicon.pieces (write word)

variable {write : α → Text}

/-- Where words stay or become delimited texts, no text without separating characters is
put together. -/
theorem prefix_of_prefix_replaceAll (solid : ∀ c ∈ t, ¬ lexicon.Separates c)
    (allowed : ∀ word ∈ lexicon.words s,
      write word = lexicon.text word ∨ lexicon.Delimited (write word))
    (start : t <+: Scanner.replaceAll lexicon.scan write s) : t <+: s := by
  induction s using lexicon.word_induction generalizing t with
  | nil => rwa [Scanner.replaceAll_nil] at start
  | plain c cs absent ih =>
    rw [Scanner.replaceAll_of_none absent] at start
    rw [words_of_none absent] at allowed
    cases t with
    | nil => exact List.nil_prefix
    | cons d t =>
      obtain ⟨rfl, behind⟩ := List.cons_prefix_cons.mp start
      have later : ∀ c ∈ t, ¬ lexicon.Separates c :=
        fun c member => solid c (List.mem_cons_of_mem d member)
      exact List.cons_prefix_cons.mpr ⟨rfl, ih later allowed behind⟩
  | word word rest isWord ih =>
    rw [replaceAll_text_append isWord] at start
    rw [words_text_append isWord, List.forall_mem_cons] at allowed
    rcases allowed.1 with same | delimited
    · rw [same] at start
      rcases List.prefix_or_prefix_of_prefix start (List.prefix_append _ _) with inside | ⟨t, rfl⟩
      · exact inside.trans (List.prefix_append _ _)
      · rw [List.prefix_append_right_inj] at start ⊢
        have later : ∀ c ∈ t, ¬ lexicon.Separates c :=
          fun c member => solid c (List.mem_append_right _ member)
        exact ih later allowed.2 start
    · cases t with
      | nil => exact List.nil_prefix
      | cons d t => exact absurd (delimited.separates_of_prefix start) (solid d List.mem_cons_self)

/-- **What words are replaced by.** Where words stay or become delimited texts, the pieces
of the new text are those of what each piece was replaced by. -/
theorem pieces_replaceAll (allowed : ∀ word ∈ lexicon.words s,
      write word = lexicon.text word ∨ lexicon.Delimited (write word)) :
    lexicon.pieces (Scanner.replaceAll lexicon.scan write s) =
      (lexicon.pieces s).flatMap (lexicon.replacedPieces write) := by
  induction s using lexicon.word_induction with
  | nil => rw [Scanner.replaceAll_nil, pieces_nil, List.flatMap_nil]
  | plain c cs absent ih =>
    rw [Scanner.replaceAll_of_none absent, pieces_of_none absent, List.flatMap_cons,
      ← ih (words_of_none absent ▸ allowed)]
    apply pieces_of_none
    cases again : lexicon.scan (c :: Scanner.replaceAll lexicon.scan write cs) with
    | none => rfl
    | some found =>
      exfalso
      obtain ⟨word, rest⟩ := found
      obtain ⟨isWord, whole⟩ := lexicon.scan_eq_some_iff.mp again
      have start : lexicon.text word <+: Scanner.replaceAll lexicon.scan write (c :: cs) := by
        rw [Scanner.replaceAll_of_none absent, whole]
        exact List.prefix_append _ _
      obtain ⟨behind, here⟩ := prefix_of_prefix_replaceAll
        (fun d member separates => separates word isWord member) allowed start
      rw [← here, scan_text isWord] at absent
      cases absent
  | word word rest isWord ih =>
    rw [words_text_append isWord, List.forall_mem_cons] at allowed
    rw [replaceAll_text_append isWord, pieces_text_append isWord, List.flatMap_cons,
      ← ih allowed.2]
    rcases allowed.1 with same | delimited
    · have alone : lexicon.pieces (lexicon.text word) = [.found word] := by
        rw [← List.append_nil (lexicon.text word), pieces_text_append isWord, pieces_nil]
      rw [same, pieces_text_append isWord, replacedPieces, same, alone]
      rfl
    · rw [pieces_append (delimited.apart_right _)]
      rfl

/-- The words of the new text are those of what each word was replaced by. -/
theorem words_replaceAll (allowed : ∀ word ∈ lexicon.words s,
      write word = lexicon.text word ∨ lexicon.Delimited (write word)) :
    lexicon.words (Scanner.replaceAll lexicon.scan write s) =
      (lexicon.words s).flatMap fun word => lexicon.words (write word) := by
  rw [words_eq, pieces_replaceAll allowed, words_eq]
  generalize lexicon.pieces s = parts
  induction parts with
  | nil => rfl
  | cons part parts ih =>
    rw [List.flatMap_cons, List.filterMap_append, ih]
    cases part with
    | plain c => rfl
    | found word => rw [replacedPieces, ← words_eq]; rfl

/-- Replacing twice replaces the words in what the words were replaced by. -/
theorem replaceAll_replaceAll {again : α → Text} (allowed : ∀ word ∈ lexicon.words s,
      write word = lexicon.text word ∨ lexicon.Delimited (write word)) :
    Scanner.replaceAll lexicon.scan again (Scanner.replaceAll lexicon.scan write s) =
      Scanner.replaceAll lexicon.scan
        (fun word => Scanner.replaceAll lexicon.scan again (write word)) s := by
  rw [Scanner.replaceAll, ← pieces, pieces_replaceAll allowed, Scanner.replaceAll, ← pieces]
  generalize lexicon.pieces s = parts
  induction parts with
  | nil => rfl
  | cons part parts ih =>
    rw [List.flatMap_cons, List.flatMap_append, ih, List.flatMap_cons]
    cases part with
    | plain c => rfl
    | found word => rfl

end Scriptorium.Lexicon
