import Scriptorium.Latex.Template
import Scriptorium.Proofs.Latex.Written
/-! # Repairs keep words

Putting a paper right touches commands, ampersands, line feeds and comments. Taking out line
feeds leaves alone what does not count empty lines (`Latex.IgnoresEmptyLines`). The words of a
lexicon are left alone when none of them holds a line feed or reaches into an ampersand
(`Latex.Spares`). So a paper holds the same marks before and after (`Latex.marks_repair`).
A template without marks adds none, unless one is put together at its placeholder
(`Latex.marks_assemble`).
-/

namespace Scriptorium.Latex

variable {s rest : Text}

/-! ## Between lines -/

/-- What a function gives for a text is what it gives for each line. -/
structure LineWise {β : Type} (f : Text → List β) : Prop where
  empty : f [] = []
  newline : ∀ front behind, f (front ++ '\n' :: behind) = f front ++ f behind

/-- A function does not tell one line feed from two. -/
def IgnoresEmptyLines {β : Type} (f : Text → β) : Prop :=
  ∀ front behind, f (front ++ '\n' :: '\n' :: behind) = f (front ++ '\n' :: behind)

/-- What is told line by line does not depend on empty lines. -/
theorem LineWise.ignoresEmptyLines {β : Type} {f : Text → List β} (lineWise : LineWise f) :
    IgnoresEmptyLines f := by
  intro front behind
  have empty := lineWise.newline [] behind
  rw [lineWise.empty, List.nil_append, List.nil_append] at empty
  rw [lineWise.newline, lineWise.newline, empty]

private theorem eq_of_sectioningName?_eq_some {name : Text}
    (read : sectioningName? s = some (name, rest)) : s = name ++ '\x7b' :: rest := by
  obtain ⟨found, -, read⟩ := List.exists_of_findSome?_eq_some read
  split at read
  · rename_i behind start
    cases read
    rw [Text.dropStart?_eq_some_iff.mp start, List.append_assoc]
    rfl
  · cases read

/-- A heading before a comment stands at the start, with a blank line behind it. -/
theorem eq_of_headingThenComment?_eq_some {heading : Text}
    (read : headingThenComment? s = some (heading, rest)) :
    s = heading ++ '\n' :: '\n' :: '%' :: rest := by
  simp only [headingThenComment?, Option.bind_eq_bind, Option.bind_eq_some_iff, Prod.exists] at read
  obtain ⟨_, _, opening, name, behind, named, _, _, closing, same⟩ := read
  cases same
  have cut : behind = behind.takeWhile isTitleChar ++ '\x7d' :: '\n' :: '\n' :: '%' :: rest :=
    List.takeWhile_append_dropWhile.symm.trans
      (congrArg (behind.takeWhile isTitleChar ++ ·) (Scanner.literal_eq_some_iff.mp closing))
  rw [Scanner.literal_eq_some_iff.mp opening, eq_of_sectioningName?_eq_some named, command]
  simpa only [List.append_assoc, List.cons_append, List.nil_append] using
    congrArg ('\\' :: name ++ '\x7b' :: ·) cut

namespace IgnoresEmptyLines

variable {β : Type} {f : Text → β}

/-- A line feed is dropped behind another one only. -/
theorem limitLineFeeds (ignores : IgnoresEmptyLines f) (count : Nat) (front s : Text)
    (behind : 0 < count → ∃ earlier, front = earlier ++ ['\n']) :
    f (front ++ limitLineFeeds count s) = f (front ++ s) := by
  fun_induction Latex.limitLineFeeds count s generalizing front with
  | case1 => rfl
  | case2 count cs few ih =>
    rw [List.append_cons, ih _ fun _ => ⟨front, rfl⟩, ← List.append_cons]
  | case3 count cs many ih =>
    obtain ⟨earlier, rfl⟩ := behind (by omega)
    rw [ih _ fun _ => ⟨earlier, rfl⟩, List.append_assoc, List.append_assoc, List.singleton_append,
      List.singleton_append, ignores]
  | case4 count c cs other ih =>
    rw [List.append_cons, ih _ fun positive => absurd positive (by decide), ← List.append_cons]

/-- Comments that are joined to their headings keep what does not depend on empty lines. -/
theorem joinHeadingComments (ignores : IgnoresEmptyLines f) (s : Text) :
    f (joinHeadingComments s) = f s := by
  refine Scanner.replaceAll_invariant (fun s heading rest read => ?_) s
  refine ⟨heading ++ ['\n', '\n', '%'], ?_, fun front behind => ?_⟩
  · rw [eq_of_headingThenComment?_eq_some read, List.append_assoc]
    rfl
  · have same := ignores (front ++ heading) ('%' :: behind)
    simpa only [List.append_assoc, List.cons_append, List.nil_append] using same.symm

/-- Taking line feeds out leaves alone what empty lines do not count for. -/
theorem tidied (ignores : IgnoresEmptyLines f) (s : Text) :
    f (Latex.joinHeadingComments (Latex.limitLineFeeds 0 s)) = f s := by
  rw [ignores.joinHeadingComments]
  exact ignores.limitLineFeeds 0 [] s fun positive => absurd positive (by decide)

end IgnoresEmptyLines

/-- The lines of a text that hold characters. -/
def writtenLines (s : Text) : List Text :=
  (s.splitOn '\n').filter (!·.isEmpty)

/-- The lines that are written are told line by line. -/
theorem lineWise_writtenLines : LineWise writtenLines where
  empty := rfl
  newline front behind := by
    rw [writtenLines, Text.splitOn_append_cons, List.filter_append]
    rfl

/-! ## Between words -/

/-- No word of a lexicon holds a line feed, and none tells an ampersand from an escaped
one. -/
structure Spares {α : Type} (lexicon : Lexicon α) : Prop where
  newline : lexicon.Separates '\n'
  ampersand : ∀ front behind, lexicon.words (front ++ '\\' :: '&' :: behind) =
    lexicon.words (front ++ '&' :: behind)

namespace Spares

variable {α : Type} {lexicon : Lexicon α}

private theorem words_escapeAmpersandsAfter (spares : Spares lexicon) (front s : Text) :
    lexicon.words (front ++ escapeAmpersandsAfter s) = lexicon.words (front ++ s) := by
  fun_induction escapeAmpersandsAfter s generalizing front with
  | case1 => rfl
  | case2 => rfl
  | case3 rest ih =>
    rw [List.append_cons, ih, ← List.append_cons]
  | case4 c rest other ih =>
    rw [List.append_cons, spares.ampersand, List.append_cons, ih, ← List.append_cons,
      ← List.append_cons]
  | case5 c d rest other ih =>
    rw [List.append_cons, ih, ← List.append_cons]

/-- Escaping ampersands keeps the words of a lexicon that spares them. -/
theorem words_escapeAmpersands (spares : Spares lexicon) (line : Text) :
    lexicon.words (escapeAmpersands line) = lexicon.words line := by
  unfold escapeAmpersands
  split
  · rename_i rest
    exact (spares.ampersand [] _).trans (spares.words_escapeAmpersandsAfter ['&'] rest)
  · exact spares.words_escapeAmpersandsAfter [] line

private theorem flatMap_words_repairLines (spares : Spares lexicon) (inVerbatim : Bool)
    (lines : List Text) :
    (repairLines inVerbatim lines).flatMap lexicon.words = lines.flatMap lexicon.words := by
  induction lines generalizing inVerbatim with
  | nil => rfl
  | cons line lines ih =>
    rw [repairLines, List.flatMap_cons, List.flatMap_cons, ih]
    congr 1
    split
    · rfl
    · exact spares.words_escapeAmpersands line

private theorem words_repairAmpersands (spares : Spares lexicon) (s : Text) :
    lexicon.words (repairAmpersands s) = lexicon.words s := by
  rw [repairAmpersands, Lexicon.words_join_char spares.newline,
    spares.flatMap_words_repairLines, Lexicon.flatMap_words_splitOn spares.newline]

/-- The words of a lexicon that spares line feeds are told line by line. -/
theorem lineWise (spares : Spares lexicon) : LineWise lexicon.words where
  empty := Lexicon.words_nil
  newline := Lexicon.words_append_cons spares.newline

/-- What is done behind the merging of repeated commands. -/
theorem words_repaired (spares : Spares lexicon) (s : Text) :
    lexicon.words (joinHeadingComments (limitLineFeeds 0 (repairAmpersands s))) =
      lexicon.words s := by
  rw [spares.lineWise.ignoresEmptyLines.tidied, spares.words_repairAmpersands]

end Spares

/-! ## Marks -/

/-- A command that is read twice stands at both sides of blank characters. -/
theorem eq_of_twice?_eq_some {repeated : Text} (read : twice? repeated s = some ((), rest)) :
    ∃ between, between.all isBlank = true ∧ s = repeated ++ (between ++ (repeated ++ rest)) := by
  simp only [twice?, Option.bind_eq_bind, Option.bind_eq_some_iff, Prod.exists] at read
  obtain ⟨_, behind, first, second⟩ := read
  refine ⟨behind.takeWhile isBlank, List.all_takeWhile, ?_⟩
  rw [Scanner.literal_eq_some_iff.mp first, ← Scanner.literal_eq_some_iff.mp second]
  exact congrArg (repeated ++ ·) List.takeWhile_append_dropWhile.symm

private theorem marks_mergeTwice {repeated : Text} (delimited : Mark.lexicon.Delimited repeated)
    (none : marks repeated = []) (s : Text) : marks (mergeTwice repeated s) = marks s := by
  refine Lexicon.words_rewrite (fun s value rest read => ?_) s
  obtain ⟨between, blank, whole⟩ := eq_of_twice?_eq_some read
  refine ⟨repeated ++ (between ++ repeated), ?_, fun front behind => ?_⟩
  · rw [whole]
    simp only [List.append_assoc]
  · change marks (front ++ (repeated ++ behind)) =
      marks (front ++ (repeated ++ (between ++ repeated) ++ behind))
    simp only [List.append_assoc, marks_between delimited, none, marks_of_isAllBlank blank,
      List.nil_append]

/-- Marks spare line feeds and ampersands. -/
theorem spares_marks : Spares Mark.lexicon where
  newline := Mark.separates Mark.isMarkChar_newline
  ampersand front behind := by
    have ampersand : Mark.lexicon.Separates '&' := Mark.separates (by decide)
    rw [Lexicon.words_append_cons (Mark.separates Mark.isMarkChar_backslash),
      Lexicon.words_append_cons ampersand, Lexicon.words_cons ampersand]

/-- Repairing a document keeps its marks. -/
theorem marks_repair (s : Text) : marks (repair s) = marks s := by
  have opening : ∀ s, marks (mergeTwice (openEnvironment "quote") s) = marks s :=
    marks_mergeTwice (delimited_command _ _) (marks_openEnvironment (by decide))
  have closing : ∀ s, marks (mergeTwice (closeEnvironment "quote") s) = marks s :=
    marks_mergeTwice (delimited_command _ _) (marks_closeEnvironment (by decide))
  exact (spares_marks.words_repaired _).trans ((closing _).trans (opening s))

/-! ## The template -/

/-- A text is empty or starts with a character that stands in no mark. -/
def startsApart : Text → Bool
  | [] => true
  | c :: _ => !isMarkChar c

private theorem not_isMarkChar_of_startsApart {c : Char} (apart : startsApart s = true)
    (member : c ∈ s.head?) : isMarkChar c = false := by
  cases s with
  | nil => cases member
  | cons d s =>
    cases Option.mem_some_iff.mp member
    simpa [startsApart] using apart

/-- Whether a template has a placeholder, with no characters of marks directly at its
sides. -/
def hasPlace (template : Text) : Bool :=
  match Text.cut? placeholder template with
  | none => false
  | some (before, behind) => startsApart before.reverse && startsApart behind

/-- A paper holds the marks of its body. -/
theorem marks_assemble {template : Text} (none : marks template = [])
    (place : hasPlace template = true) (body : Text) :
    marks (assemble template body) = marks body := by
  obtain ⟨before, behind, cut, ends, starts⟩ : ∃ before behind,
      Text.cut? placeholder template = some (before, behind) ∧
        startsApart before.reverse = true ∧ startsApart behind = true := by
    unfold hasPlace at place
    split at place
    · cases place
    · exact ⟨_, _, ‹_›, Bool.and_eq_true_iff.mp place⟩
  have whole := Text.eq_of_cut?_eq_some cut
  have first : marks before = [] :=
    marks_eq_nil_of_within ⟨[], placeholder ++ behind, by rw [whole]; simp⟩ none
  have last : marks behind = [] :=
    marks_eq_nil_of_within ⟨before ++ placeholder, [], by rw [whole]; simp⟩ none
  have apart : Mark.lexicon.Apart before (body.trimEnd ++ behind) :=
    .inl fun c member => Mark.separates (not_isMarkChar_of_startsApart ends
      (List.head?_reverse.trans member))
  have apart' : Mark.lexicon.Apart body.trimEnd behind :=
    .inr fun c member => Mark.separates (not_isMarkChar_of_startsApart starts member)
  rw [assemble, Text.replaceFirst, cut]
  dsimp only
  rw [List.append_assoc]
  refine (Lexicon.words_append apart).trans ?_
  change marks before ++ marks (body.trimEnd ++ behind) = marks body
  rw [first, show marks (body.trimEnd ++ behind) = marks body.trimEnd ++ marks behind from
    Lexicon.words_append apart', last, marks_trimEnd, List.append_nil, List.nil_append]

end Scriptorium.Latex
