import Scriptorium.Proofs.Text.Lines
import Scriptorium.Proofs.Text.Separation
/-! # Rewriting between words

What is done to a text between the words of a lexicon leaves the words as they are: to
write other texts for the characters that stand in no word (`Lexicon.words_flatMap_eq`) or
for stretches that no word reaches into (`Lexicon.words_rewrite`), to drop such characters
at the ends (`Lexicon.words_dropWhile`), and to cut a text there (`Lexicon.words_join`).
Replacing some words of a lexicon is replacing all of them, the others by themselves
(`Lexicon.replaceAll_pick`).
-/

namespace Scriptorium.Lexicon

variable {α β : Type} {lexicon : Lexicon α} {s : Text} {c : Char}

/-- Writing other texts for characters that stand in no word leaves the words alone. -/
theorem words_flatMap_eq {write : Char → Text}
    (rewrites : ∀ c, write c = [c] ∨
      lexicon.Separates c ∧ lexicon.Delimited (write c) ∧ lexicon.words (write c) = [])
    (s : Text) : lexicon.words (s.flatMap write) = lexicon.words s := by
  suffices general : ∀ front, lexicon.words (front ++ s.flatMap write) =
      lexicon.words (front ++ s) from general []
  induction s with
  | nil => exact fun front => rfl
  | cons c s ih =>
    intro front
    rw [List.flatMap_cons]
    rcases rewrites c with same | ⟨separates, delimited, none⟩
    · rw [same, ← List.append_assoc, ih, List.append_assoc]
      rfl
    · have later := ih []
      simp only [List.nil_append] at later
      rw [words_append_cons separates, delimited.words_between, none, later, List.nil_append]

/-- Where other texts are written for characters that stand in no word, no text without
such characters is put together. -/
theorem prefix_of_prefix_flatMap {t : Text} {write : Char → Text}
    (rewrites : ∀ c, write c = [c] ∨ lexicon.Delimited (write c))
    (solid : ∀ c ∈ t, ¬ lexicon.Separates c) (start : t <+: s.flatMap write) : t <+: s := by
  induction s generalizing t with
  | nil => exact start
  | cons c s ih =>
    rw [List.flatMap_cons] at start
    cases t with
    | nil => exact List.nil_prefix
    | cons d t =>
      rcases rewrites c with same | delimited
      · rw [same, List.singleton_append] at start
        obtain ⟨rfl, behind⟩ := List.cons_prefix_cons.mp start
        have later : ∀ c ∈ t, ¬ lexicon.Separates c :=
          fun c member => solid c (List.mem_cons_of_mem d member)
        exact List.cons_prefix_cons.mpr ⟨rfl, ih later behind⟩
      · exact absurd (delimited.separates_of_prefix start) (solid d List.mem_cons_self)

/-- A text stays when each of its characters does. -/
theorem flatMap_eq_self {write : Char → Text} (same : ∀ c ∈ s, write c = [c]) :
    s.flatMap write = s := by
  induction s with
  | nil => rfl
  | cons c s ih =>
    obtain ⟨here, later⟩ := List.forall_mem_cons.mp same
    rw [List.flatMap_cons, here, ih later, List.singleton_append]

/-- What a piece becomes when other texts are written for the characters between words. -/
def writtenPieces (write : Char → Text) : Piece α → List (Piece α)
  | .plain c => (write c).map .plain
  | .found word => [.found word]

/-- **Writing between the words.** Where other texts are written for characters that stand
in no word, the words stay where they are. -/
theorem pieces_flatMap {write : Char → Text}
    (rewrites : ∀ c, write c = [c] ∨
      lexicon.Separates c ∧ lexicon.Delimited (write c) ∧ lexicon.words (write c) = [])
    (s : Text) :
    lexicon.pieces (s.flatMap write) = (lexicon.pieces s).flatMap (writtenPieces write) := by
  have weaker : ∀ c, write c = [c] ∨ lexicon.Delimited (write c) :=
    fun c => (rewrites c).imp_right fun rewrites => rewrites.2.1
  induction s using lexicon.word_induction with
  | nil => rw [List.flatMap_nil, pieces_nil, List.flatMap_nil]
  | plain c cs absent ih =>
    rw [pieces_of_none absent, List.flatMap_cons, List.flatMap_cons, ← ih, writtenPieces]
    rcases rewrites c with same | ⟨-, delimited, none⟩
    · rw [same, List.singleton_append, List.map_singleton, List.singleton_append]
      apply pieces_of_none
      cases again : lexicon.scan (c :: cs.flatMap write) with
      | none => rfl
      | some found =>
        exfalso
        obtain ⟨word, rest⟩ := found
        obtain ⟨isWord, whole⟩ := lexicon.scan_eq_some_iff.mp again
        have start : lexicon.text word <+: (c :: cs).flatMap write := by
          rw [List.flatMap_cons, same, List.singleton_append, whole]
          exact List.prefix_append _ _
        obtain ⟨behind, here⟩ := prefix_of_prefix_flatMap weaker
          (fun d member separates => separates word isWord member) start
        rw [← here, scan_text isWord] at absent
        cases absent
    · rw [pieces_append (delimited.apart_right _), pieces_of_words_eq_nil none]
  | word word rest isWord ih =>
    have kept : (lexicon.text word).flatMap write = lexicon.text word := by
      apply flatMap_eq_self
      intro c member
      exact (rewrites c).resolve_right fun rewrites => rewrites.1 word isWord member
    rw [List.flatMap_append, kept, pieces_text_append isWord, pieces_text_append isWord, ih,
      List.flatMap_cons]
    rfl

/-- Writing other texts for stretches leaves the words alone when it does so for each
stretch, whatever stands around it. -/
theorem words_rewrite {scan : Scanner β} {write : β → Text}
    (rewrites : ∀ s value rest, scan s = some (value, rest) → ∃ stretch, s = stretch ++ rest ∧
      ∀ front behind, lexicon.words (front ++ (write value ++ behind)) =
        lexicon.words (front ++ (stretch ++ behind)))
    (s : Text) : lexicon.words (Scanner.replaceAll scan write s) = lexicon.words s :=
  Scanner.replaceAll_invariant rewrites s

/-! ## Cutting and joining -/

/-- Parts with a text of no words between each two hold the words of all parts. -/
theorem words_join {separator : Text} (delimited : lexicon.Delimited separator)
    (none : lexicon.words separator = []) (parts : List Text) :
    lexicon.words (Text.join separator parts) = parts.flatMap lexicon.words := by
  unfold Text.join
  induction parts with
  | nil => exact words_nil
  | cons part parts ih =>
    cases parts with
    | nil => rw [List.intercalate_singleton, List.flatMap_singleton]
    | cons next parts =>
      rw [List.intercalate_cons_cons, List.append_assoc, delimited.words_between, none, ih]
      rfl

/-- The words of parts are those of each, with a character between them that stands in no word. -/
theorem words_join_char (separates : lexicon.Separates c) (parts : List Text) :
    lexicon.words (Text.join [c] parts) = parts.flatMap lexicon.words := by
  have single : ∀ d ∈ some c, lexicon.Separates d :=
    fun d member => Option.mem_some_iff.mp member ▸ separates
  refine words_join ⟨List.cons_ne_nil c [], single, single⟩ ?_ parts
  rw [words_cons separates, words_nil]

/-- The words of a text are those of its parts between characters that stand in none. -/
theorem flatMap_words_splitOn (separates : lexicon.Separates c) (s : Text) :
    (s.splitOn c).flatMap lexicon.words = lexicon.words s := by
  rw [← words_join_char separates, Text.join_splitOn]

/-- Characters that stand in no word may stand in front of a text. -/
theorem words_append_of_all {front : Text} (separates : ∀ c ∈ front, lexicon.Separates c)
    (behind : Text) : lexicon.words (front ++ behind) = lexicon.words behind := by
  induction front with
  | nil => rfl
  | cons c front ih =>
    rw [List.cons_append, words_cons (separates c List.mem_cons_self),
      ih fun d member => separates d (List.mem_cons_of_mem c member)]

/-- A character that stands in no word may stand behind a text. -/
theorem words_concat (separates : lexicon.Separates c) (front : Text) :
    lexicon.words (front ++ [c]) = lexicon.words front := by
  rw [words_append_cons separates, words_nil, List.append_nil]

private theorem words_append_all {behind : Text} (separates : ∀ c ∈ behind, lexicon.Separates c)
    (front : Text) : lexicon.words (front ++ behind) = lexicon.words front := by
  induction behind generalizing front with
  | nil => rw [List.append_nil]
  | cons c behind ih =>
    rw [← List.singleton_append (x := c), ← List.append_assoc,
      ih (fun d member => separates d (List.mem_cons_of_mem c member)),
      words_concat (separates c List.mem_cons_self)]

variable {p : Char → Bool}

/-- Characters that stand in no word may be dropped in front of a text. -/
theorem words_dropWhile (separates : ∀ c, p c = true → lexicon.Separates c) (s : Text) :
    lexicon.words (s.dropWhile p) = lexicon.words s := by
  have dropped : ∀ c ∈ s.takeWhile p, lexicon.Separates c :=
    fun c member => separates c (List.all_eq_true.mp List.all_takeWhile c member)
  rw [← words_append_of_all dropped, List.takeWhile_append_dropWhile]

/-- Characters that stand in no word may be dropped at the end of a text. -/
theorem words_dropEndWhile (separates : ∀ c, p c = true → lexicon.Separates c) (s : Text) :
    lexicon.words (Text.dropEndWhile p s) = lexicon.words s := by
  have split := Text.dropEndWhile_append_takeWhile p s
  have dropped : ∀ c ∈ (s.reverse.takeWhile p).reverse, lexicon.Separates c :=
    fun c member => separates c
      (List.all_eq_true.mp List.all_takeWhile c (List.mem_reverse.mp member))
  exact (words_append_all dropped _).symm.trans (congrArg lexicon.words split)

/-- Characters that stand in no word may be dropped at the ends of a text. -/
theorem words_stripWhere (separates : ∀ c, p c = true → lexicon.Separates c) (s : Text) :
    lexicon.words (Text.stripWhere p s) = lexicon.words s := by
  rw [Text.stripWhere, words_dropEndWhile separates, words_dropWhile separates]

/-- The words of a text are those of its lines. -/
theorem words_lines (newline : lexicon.Separates '\n') (carriage : lexicon.Separates '\r')
    (s : Text) : s.lines.flatMap lexicon.words = lexicon.words s := by
  induction s using Text.line_induction with
  | last s whole =>
    cases s with
    | nil => exact words_nil.symm
    | cons c s =>
      rw [Text.lines_of_not_mem whole (List.cons_ne_nil c s), List.flatMap_singleton]
  | line front rest whole ih =>
    rw [Text.lines_append_cons whole, List.flatMap_cons, ih, words_append_cons newline]
    congr 1
    unfold Text.withoutReturn
    cases cut : Text.dropEnd? ['\r'] front with
    | none => rfl
    | some body => rw [Option.getD_some, Text.eq_of_dropEnd?_eq_some cut, words_concat carriage]

/-! ## Some words of a lexicon -/

variable {write again : α → Text}

variable (lexicon) in
/-- A text with other texts for its words and for the characters between them. -/
def rewrite (plain : Char → Text) (found : α → Text) (s : Text) : Text :=
  (lexicon.pieces s).flatMap fun
    | .plain c => plain c
    | .found word => found word

/-- Replacing the words behind writing between them is both at once. -/
theorem replaceAll_flatMap {plain : Char → Text} {found : α → Text}
    (rewrites : ∀ c, plain c = [c] ∨
      lexicon.Separates c ∧ lexicon.Delimited (plain c) ∧ lexicon.words (plain c) = [])
    (s : Text) :
    Scanner.replaceAll lexicon.scan found (s.flatMap plain) = lexicon.rewrite plain found s := by
  rw [Scanner.replaceAll, ← pieces, pieces_flatMap rewrites, List.flatMap_assoc, rewrite]
  congr 1
  funext piece
  cases piece with
  | plain c =>
    simp only [writtenPieces, List.flatMap_map]
    exact List.flatMap_singleton' (plain c)
  | found word => exact List.flatMap_singleton ..

/-- What a rewritten text holds of some characters, when only the texts for words bring
any in. -/
theorem filter_rewrite {plain : Char → Text} {found : α → Text} {p : Char → Bool}
    (none : ∀ c ∈ s, (plain c).filter p = []) :
    (lexicon.rewrite plain found s).filter p =
      (lexicon.words s).flatMap fun word => (found word).filter p := by
  unfold rewrite
  induction s using lexicon.word_induction with
  | nil => rw [pieces_nil, words_nil, List.flatMap_nil, List.flatMap_nil, List.filter_nil]
  | plain c cs absent ih =>
    obtain ⟨here, later⟩ := List.forall_mem_cons.mp none
    rw [pieces_of_none absent, words_of_none absent, List.flatMap_cons, List.filter_append, here,
      ih later, List.nil_append]
  | word word rest isWord ih =>
    have later : ∀ c ∈ rest, (plain c).filter p = [] :=
      fun c member => none c (List.mem_append_right _ member)
    rw [pieces_text_append isWord, words_text_append isWord, List.flatMap_cons,
      List.flatMap_cons, List.filter_append, ih later]

/-- Words are replaced in two texts on their own when none reaches across. -/
theorem replaceAll_append {front behind : Text} {write : α → Text}
    (apart : lexicon.Apart front behind) :
    Scanner.replaceAll lexicon.scan write (front ++ behind) =
      Scanner.replaceAll lexicon.scan write front ++
        Scanner.replaceAll lexicon.scan write behind := by
  rw [Scanner.replaceAll, ← pieces, pieces_append apart, List.flatMap_append]
  rfl

/-- What words are replaced by matters for the words of the text only. -/
theorem replaceAll_congr (same : ∀ word ∈ lexicon.words s, write word = again word) :
    Scanner.replaceAll lexicon.scan write s = Scanner.replaceAll lexicon.scan again s := by
  induction s using lexicon.word_induction with
  | nil => rw [Scanner.replaceAll_nil, Scanner.replaceAll_nil]
  | plain c cs absent ih =>
    rw [words_of_none absent] at same
    rw [Scanner.replaceAll_of_none absent, Scanner.replaceAll_of_none absent, ih same]
  | word word rest isWord ih =>
    rw [words_text_append isWord] at same
    obtain ⟨here, later⟩ := List.forall_mem_cons.mp same
    rw [replaceAll_text_append isWord, replaceAll_text_append isWord, here, ih later]

/-- A word alone is replaced. -/
theorem replaceAll_text {word : α} (isWord : lexicon.IsWord word) :
    Scanner.replaceAll lexicon.scan write (lexicon.text word) = write word := by
  rw [← List.append_nil (lexicon.text word), replaceAll_text_append isWord, Scanner.replaceAll_nil,
    List.append_nil]

/-- The text of a word holds that word and no other. -/
theorem words_text {word : α} (isWord : lexicon.IsWord word) :
    lexicon.words (lexicon.text word) = [word] := by
  have words := words_append_text isWord [] []
  rwa [List.nil_append, List.append_nil, words_nil, List.nil_append] at words

/-- A text without words stays. -/
theorem replaceAll_of_words_eq_nil (none : lexicon.words s = []) :
    Scanner.replaceAll lexicon.scan write s = s := by
  have kept : Scanner.replaceAll lexicon.scan lexicon.text s = s :=
    Scanner.replaceAll_eq_self (fun _ _ _ read => (lexicon.scan_eq_some_iff.mp read).2) s
  rw [← kept]
  apply (congrArg _ kept).trans
  apply replaceAll_congr
  intro word member
  rw [none] at member
  cases member

/-- Replacing the words that are picked is replacing all words, the others by
themselves. -/
theorem replaceAll_pick {scan : Scanner β} {pick : α → Option β} {write : β → Text}
    (picks : ∀ s, scan s = (lexicon.scan s).bind fun found =>
      (pick found.1).map fun picked => (picked, found.2)) (s : Text) :
    Scanner.replaceAll scan write s = Scanner.replaceAll lexicon.scan
      (fun word => ((pick word).map write).getD (lexicon.text word)) s := by
  induction s using lexicon.word_induction with
  | nil => rw [Scanner.replaceAll_nil, Scanner.replaceAll_nil]
  | plain c cs absent ih =>
    have noneToo : scan (c :: cs) = none := by rw [picks, absent]; rfl
    rw [Scanner.replaceAll_of_none noneToo, Scanner.replaceAll_of_none absent, ih]
  | word word rest isWord ih =>
    rw [replaceAll_text_append isWord, ← ih]
    cases picked : pick word with
    | some value =>
      have here : scan (lexicon.text word ++ rest) = some (value, rest) := by
        rw [picks, scan_text isWord, Option.bind_some, picked]
        rfl
      rw [Scanner.replaceAll_of_some here (length_lt_of_scan (scan_text isWord))]
      rfl
    | none =>
      -- No word that is picked starts inside of one that is not.
      have absent : ∀ part, part ≠ [] → part <:+ lexicon.text word →
          scan (part ++ rest) = none := by
        intro part nonempty suffix
        rw [picks]
        cases inside : lexicon.scan (part ++ rest) with
        | none => rfl
        | some found =>
          obtain ⟨isOther, same⟩ := lexicon.scan_eq_some_iff.mp inside
          have whole := lexicon.eq_text_of_suffix isWord isOther nonempty suffix same
          rw [whole] at same
          rw [Option.bind_some, ← (eq_of_append_eq isWord isOther same).1, picked]
          rfl
      exact Scanner.replaceAll_append_of_none absent

end Scriptorium.Lexicon
