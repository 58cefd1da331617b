import Scriptorium.Proofs.Latex.Escape
import Scriptorium.Proofs.Latex.Merging
import Scriptorium.Proofs.Line
/-! # Ampersands behind backslashes

An ampersand is looked at together with the character before it, and that character belongs to
no other. So of two that stand side by side the second is passed over, unless a backslash stands
before the first. In the lines of a paper that are set as text all ampersands are escaped exactly
when no line has such a pair (`Latex.isEscaped_setLines_iff`).
-/

namespace Scriptorium.Latex

variable {s line : Text} {previous : Char}

/-- The lines that are set as text: those outside of verbatim blocks that are no comments. -/
def setLines (inVerbatim : Bool) : List Text → List Text
  | [] => []
  | line :: lines =>
    let inVerbatim := verbatimFrom inVerbatim line
    if inVerbatim || Line.isComment line then setLines inVerbatim lines
    else line :: setLines inVerbatim lines

/-- Two ampersands stand side by side on a line, and no backslash before them. -/
def Crowded (line : Text) : Prop :=
  ∃ front behind, line = front ++ '&' :: '&' :: behind ∧ front.getLast? ≠ some '\\'

/-! ## One line -/

/-- Whether a text behind a character starts with another one that no backslash escapes. -/
def startsBare (lead : Text) (previous : Char) (s : Text) : Bool :=
  s.startsWith lead && previous != '\\'

/-- Whether a text behind a character holds another one that no backslash escapes. -/
def holdsBare (lead : Text) (previous : Char) : Text → Bool
  | [] => false
  | c :: s => startsBare lead previous (c :: s) || holdsBare lead c s

/-- A text behind a character with a backslash before each bare ampersand. -/
def guarded (previous : Char) : Text → Text
  | [] => []
  | c :: s =>
    if startsBare ['&'] previous (c :: s) then '\\' :: c :: guarded c s else c :: guarded c s

private theorem startsBare_iff {lead : Text} : startsBare lead previous s = true ↔
    (∃ behind, s = lead ++ behind) ∧ previous ≠ '\\' := by
  rw [startsBare, Bool.and_eq_true, Text.startsWith, List.isPrefixOf_iff_prefix, bne_iff_ne]
  exact and_congr_left' ⟨fun ⟨behind, whole⟩ => ⟨behind, whole.symm⟩,
    fun ⟨behind, whole⟩ => ⟨behind, whole.symm⟩⟩

private theorem startsBare_cons (lead behind : Text) (c d : Char) :
    startsBare (c :: lead) previous (d :: behind) =
      (c == d && startsBare lead previous behind) := by
  rw [startsBare, startsBare, Text.startsWith, Text.startsWith, List.isPrefixOf, Bool.and_assoc]

private theorem startsBare_empty (c : Char) (lead : Text) :
    startsBare (c :: lead) previous [] = false :=
  rfl

private theorem startsBare_nil (s : Text) : startsBare [] previous s = (previous != '\\') :=
  Bool.true_and _

private theorem startsBare_congr {c d : Char} (first : c ≠ '\\') (second : d ≠ '\\')
    (lead s : Text) :
    startsBare lead c s = startsBare lead d s := by
  rw [startsBare, startsBare, bne_iff_ne.mpr first, bne_iff_ne.mpr second]

/-- A text holds what no backslash escapes where it stands behind another character, and the first
place is behind the one given. -/
theorem holdsBare_iff {lead : Text} (nonempty : lead ≠ []) : holdsBare lead previous s = true ↔
    ∃ front behind, s = front ++ (lead ++ behind) ∧ front.getLast?.getD previous ≠ '\\' := by
  induction s generalizing previous with
  | nil =>
    refine iff_of_false Bool.false_ne_true ?_
    rintro ⟨front, behind, whole, -⟩
    exact nonempty (List.append_eq_nil_iff.mp (List.append_eq_nil_iff.mp whole.symm).2).1
  | cons c s ih =>
    rw [holdsBare, Bool.or_eq_true, startsBare_iff, ih]
    constructor
    · rintro (⟨⟨behind, whole⟩, bare⟩ | ⟨front, behind, rfl, bare⟩)
      · exact ⟨[], behind, whole, bare⟩
      · exact ⟨c :: front, behind, rfl, by rwa [List.getLast?_cons]⟩
    · rintro ⟨front, behind, whole, bare⟩
      cases front with
      | nil => exact .inl ⟨⟨behind, whole⟩, bare⟩
      | cons d front =>
        obtain ⟨rfl, rfl⟩ := List.cons.inj whole
        exact .inr ⟨front, behind, rfl, by rwa [List.getLast?_cons] at bare⟩

/-- The start of a line is no backslash. -/
theorem getLast?_getD_newline_iff (front : Text) :
    front.getLast?.getD '\n' = '\\' ↔ front.getLast? = some '\\' := by
  cases front.getLast? with
  | none => exact iff_of_false (by decide) (by decide)
  | some c => rw [Option.getD_some, Option.some_inj]

private theorem isEscaped_ampersand_iff :
    IsEscaped (· == '&') line ↔ holdsBare ['&'] '\n' line = false := by
  rw [← Bool.not_eq_true, holdsBare_iff (List.cons_ne_nil _ _)]
  simp only [ne_eq, getLast?_getD_newline_iff]
  constructor
  · rintro escaped ⟨front, behind, whole, bare⟩
    exact bare (escaped front '&' behind whole rfl)
  · intro none front c behind whole ampersand
    by_contra bare
    exact none ⟨front, behind, beq_iff_eq.mp ampersand ▸ whole, bare⟩

/-- Two ampersands crowd a line where it holds a pair that no backslash escapes. -/
theorem crowded_iff : Crowded line ↔ holdsBare ['&', '&'] '\n' line = true := by
  rw [holdsBare_iff (List.cons_ne_nil _ _)]
  simp only [ne_eq, getLast?_getD_newline_iff]
  rfl

/-- Behind its first character a text keeps a bare ampersand where two stood. -/
theorem holdsBare_escapeAmpersandsAfter (previous : Char) (s : Text) :
    holdsBare ['&'] previous (escapeAmpersandsAfter s) =
      (startsBare ['&'] previous s || holdsBare ['&', '&'] previous s) := by
  fun_induction escapeAmpersandsAfter s generalizing previous with
  | case1 => rfl
  | case2 c => simp [holdsBare, startsBare_cons, startsBare_empty]
  | case3 rest ih => simp [holdsBare, ih, startsBare_cons, startsBare_nil]
  | case4 c rest other ih =>
    have same := startsBare_congr other (show '&' ≠ '\\' by decide) ['&'] rest
    simp [holdsBare, ih, startsBare_cons, startsBare_nil, same]
  | case5 c d rest other ih =>
    have solid : ('&' == d) = false := beq_eq_false_iff_ne.mpr fun same => other same.symm
    simp [holdsBare, ih, startsBare_cons, startsBare_nil, solid]

/-- Behind its first character a text without such a pair has its bare ampersands escaped. -/
theorem escapeAmpersandsAfter_eq (first : startsBare ['&'] previous s = false)
    (roomy : holdsBare ['&', '&'] previous s = false) :
    escapeAmpersandsAfter s = guarded previous s := by
  fun_induction escapeAmpersandsAfter s generalizing previous with
  | case1 => rfl
  | case2 c => rw [guarded, if_neg (by rw [first]; decide), guarded]
  | case3 rest ih =>
    obtain ⟨-, later⟩ := Bool.or_eq_false_iff.mp roomy
    rw [guarded, if_neg (by rw [first]; decide), ih _ later]
    rw [startsBare_cons, startsBare_nil]
    decide
  | case4 c rest other ih =>
    obtain ⟨-, later⟩ := Bool.or_eq_false_iff.mp roomy
    obtain ⟨next, later⟩ := Bool.or_eq_false_iff.mp later
    have bare : startsBare ['&'] c ('&' :: rest) = true :=
      startsBare_iff.mpr ⟨⟨rest, rfl⟩, other⟩
    rw [startsBare_cons, BEq.rfl, Bool.true_and,
      startsBare_congr other (show '&' ≠ '\\' by decide)] at next
    rw [guarded, if_neg (by rw [first]; decide), guarded, if_pos bare, ih next later]
  | case5 c d rest other ih =>
    obtain ⟨-, later⟩ := Bool.or_eq_false_iff.mp roomy
    rw [guarded, if_neg (by rw [first]; decide), ih _ later]
    rw [startsBare_cons, beq_eq_false_iff_ne.mpr fun same => other same.symm, Bool.false_and]

/-- The start of a line is taken for a character of its own. -/
theorem escapeAmpersandsAfter_newline (line : Text) :
    escapeAmpersandsAfter ('\n' :: line) = '\n' :: escapeAmpersands line := by
  cases line with
  | nil => rfl
  | cons c rest =>
    by_cases ampersand : c = '&'
    · subst ampersand
      rfl
    · rw [escapeAmpersandsAfter, escapeAmpersands]
      · exact fun rest same => ampersand (List.cons.inj same).1
      · exact ampersand

/-- **One line.** The ampersands of a line come to stand behind backslashes unless it is
crowded. -/
theorem isEscaped_escapeAmpersands_iff (line : Text) :
    IsEscaped (· == '&') (escapeAmpersands line) ↔ ¬ Crowded line := by
  have whole := holdsBare_escapeAmpersandsAfter '\\' ('\n' :: line)
  rw [escapeAmpersandsAfter_newline] at whole
  rw [isEscaped_ampersand_iff, crowded_iff, Bool.not_eq_true]
  simpa [holdsBare, startsBare] using whole

/-- On a line that is not crowded just the bare ampersands change. -/
theorem escapeAmpersands_eq_guarded (roomy : ¬ Crowded line) :
    escapeAmpersands line = guarded '\n' line := by
  rw [crowded_iff, Bool.not_eq_true] at roomy
  have whole : escapeAmpersandsAfter ('\n' :: line) = guarded '\\' ('\n' :: line) := by
    apply escapeAmpersandsAfter_eq
    · rfl
    · rw [holdsBare, roomy]
      rfl
  rw [escapeAmpersandsAfter_newline] at whole
  exact (List.cons.inj whole).2

/-! ## The lines of a paper -/

private theorem mem_escapeAmpersandsAfter_iff {c : Char} (other : c ≠ '\\') :
    c ∈ escapeAmpersandsAfter s ↔ c ∈ s := by
  fun_induction escapeAmpersandsAfter s with
  | case1 => rfl
  | case2 => rfl
  | case3 rest ih => rw [List.mem_cons, ih, ← List.mem_cons]
  | case4 d rest solid ih => simp only [List.mem_cons, ih, other, false_or]
  | case5 d e rest solid ih => rw [List.mem_cons, ih, ← List.mem_cons]

/-- Escaping the ampersands of a line adds no characters but backslashes, and takes none away. -/
theorem mem_escapeAmpersands_iff {c : Char} (other : c ≠ '\\') :
    c ∈ escapeAmpersands line ↔ c ∈ line := by
  unfold escapeAmpersands
  split
  · simp only [List.mem_cons, mem_escapeAmpersandsAfter_iff other, other, false_or]
  · exact mem_escapeAmpersandsAfter_iff other

private theorem sublist_escapeAmpersandsAfter (s : Text) : s.Sublist (escapeAmpersandsAfter s) := by
  fun_induction escapeAmpersandsAfter s with
  | case1 => exact List.Sublist.refl []
  | case2 c => exact List.Sublist.refl [c]
  | case3 rest ih => exact ih.cons_cons _
  | case4 c rest other ih => exact ((ih.cons_cons '&').cons '\\').cons_cons c
  | case5 c d rest other ih => exact ih.cons_cons c

/-- Nothing is taken off a line. -/
theorem sublist_escapeAmpersands (line : Text) : line.Sublist (escapeAmpersands line) := by
  unfold escapeAmpersands
  split
  · exact ((sublist_escapeAmpersandsAfter _).cons_cons '&').cons '\\'
  · exact sublist_escapeAmpersandsAfter line

private theorem escapeAmpersandsAfter_of_not_mem (absent : '&' ∉ s) :
    escapeAmpersandsAfter s = s := by
  fun_induction escapeAmpersandsAfter s with
  | case1 => rfl
  | case2 => rfl
  | case3 rest ih => exact absurd (List.mem_cons_of_mem _ List.mem_cons_self) absent
  | case4 c rest other ih => exact absurd (List.mem_cons_of_mem _ List.mem_cons_self) absent
  | case5 c d rest other ih => rw [ih (List.not_mem_of_not_mem_cons absent)]

/-- A line without ampersands stays. -/
theorem escapeAmpersands_of_not_mem (absent : '&' ∉ line) : escapeAmpersands line = line := by
  unfold escapeAmpersands
  split
  · exact absurd List.mem_cons_self absent
  · exact escapeAmpersandsAfter_of_not_mem absent

/-- Escaping ampersands neither makes a line a comment nor keeps it from being one. -/
theorem isComment_escapeAmpersandsAfter (s : Text) :
    Line.isComment (escapeAmpersandsAfter s) = Line.isComment s := by
  fun_induction escapeAmpersandsAfter s with
  | case1 => rfl
  | case2 => rfl
  | case3 rest ih =>
    rw [Line.isComment_cons_of_solid (by decide), Line.isComment_cons_of_solid (by decide)]
  | case4 c rest other ih =>
    cases blank : isBlank c with
    | true =>
      rw [Line.isComment_cons_of_blank blank, Line.isComment_cons_of_blank blank,
        Line.isComment_cons_of_solid (by decide), Line.isComment_cons_of_solid (by decide)]
      rfl
    | false => rw [Line.isComment_cons_of_solid blank, Line.isComment_cons_of_solid blank]
  | case5 c d rest other ih =>
    cases blank : isBlank c with
    | true => rw [Line.isComment_cons_of_blank blank, Line.isComment_cons_of_blank blank, ih]
    | false => rw [Line.isComment_cons_of_solid blank, Line.isComment_cons_of_solid blank]

private theorem isComment_escapeAmpersands (line : Text) :
    Line.isComment (escapeAmpersands line) = Line.isComment line := by
  have newline : isBlank '\n' = true := by decide
  rw [← Line.isComment_cons_of_blank newline, ← escapeAmpersandsAfter_newline,
    isComment_escapeAmpersandsAfter, Line.isComment_cons_of_blank newline]

private theorem verbatimFrom_escapeAmpersands (inVerbatim : Bool) (line : Text) :
    verbatimFrom inVerbatim (escapeAmpersands line) = verbatimFrom inVerbatim line := by
  by_cases member : '&' ∈ line
  · have solid : isBlank '&' = false := by decide
    rw [verbatimFrom_of_mem solid (by decide) member,
      verbatimFrom_of_mem solid (by decide) ((mem_escapeAmpersands_iff (by decide)).mpr member)]
  · rw [escapeAmpersands_of_not_mem member]

private theorem setLines_repairLines (inVerbatim : Bool) (lines : List Text) :
    setLines inVerbatim (repairLines inVerbatim lines) =
      (setLines inVerbatim lines).map escapeAmpersands := by
  induction lines generalizing inVerbatim with
  | nil => rfl
  | cons line lines ih =>
    rw [repairLines, setLines, setLines]
    cases kept : verbatimFrom inVerbatim line || Line.isComment line with
    | true => simp only [↓reduceIte, kept, ih]
    | false =>
      simp only [Bool.false_eq_true, ↓reduceIte, verbatimFrom_escapeAmpersands,
        isComment_escapeAmpersands, kept, ih, List.map_cons]

/-- Empty lines may be dropped before or after the lines are set. -/
theorem setLines_filter (inVerbatim : Bool) (lines : List Text) :
    setLines inVerbatim (lines.filter (!·.isEmpty)) =
      (setLines inVerbatim lines).filter (!·.isEmpty) := by
  induction lines generalizing inVerbatim with
  | nil => rfl
  | cons line lines ih =>
    cases line with
    | nil =>
      rw [List.filter_cons_of_neg (by decide), ih, setLines]
      change _ = (if inVerbatim || Line.isComment [] then _ else _ : List Text).filter _
      cases inVerbatim with
      | true => rfl
      | false => rfl
    | cons c line =>
      rw [List.filter_cons_of_pos (by rfl), setLines, setLines]
      split
      · exact ih _
      · rw [ih, List.filter_cons_of_pos (by rfl)]

private theorem newline_not_mem_repairLines {lines : List Text}
    (whole : ∀ line ∈ lines, '\n' ∉ line)
    (inVerbatim : Bool) : ∀ line ∈ repairLines inVerbatim lines, '\n' ∉ line := by
  induction lines generalizing inVerbatim with
  | nil => exact fun line member => absurd member List.not_mem_nil
  | cons line lines ih =>
    obtain ⟨here, later⟩ := List.forall_mem_cons.mp whole
    rw [repairLines]
    refine List.forall_mem_cons.mpr ⟨?_, ih later _⟩
    split
    · exact here
    · exact (mem_escapeAmpersands_iff (by decide)).not.mpr here

/-- Repairing lines leaves some where there were some. -/
theorem repairLines_ne_nil {lines : List Text} (nonempty : lines ≠ []) (inVerbatim : Bool) :
    repairLines inVerbatim lines ≠ [] := by
  cases lines with
  | nil => exact absurd rfl nonempty
  | cons line lines =>
    rw [repairLines]
    exact List.cons_ne_nil _ _

private theorem splitOn_repairAmpersands (s : Text) :
    (repairAmpersands s).splitOn '\n' = repairLines false (s.splitOn '\n') :=
  Text.splitOn_join (repairLines_ne_nil (Text.splitOn_ne_nil _ _) _)
    (newline_not_mem_repairLines (fun _ => Text.not_mem_of_mem_splitOn) _)

/-- The lines of a paper that are set as text are those of the text before, with their
ampersands looked at. -/
theorem setLines_writtenLines_repair (s : Text) :
    setLines false (writtenLines (repair s)) =
      ((setLines false ((mergeQuotes s).splitOn '\n')).map escapeAmpersands).filter
        (!·.isEmpty) := by
  rw [← setLines_repairLines, ← setLines_filter, ← splitOn_repairAmpersands]
  exact congrArg (setLines false) (lineWise_writtenLines.ignoresEmptyLines.tidied _)

/-- **Ampersands of a paper.** In the lines of a repaired paper that are set as text a backslash
stands before every ampersand exactly when no line that is set is crowded, once quotes that
follow each other directly are one. -/
theorem isEscaped_setLines_iff (s : Text) :
    (∀ line ∈ setLines false ((repair s).splitOn '\n'), IsEscaped (· == '&') line) ↔
      ∀ line ∈ setLines false ((mergeQuotes s).splitOn '\n'), ¬ Crowded line := by
  have written (lines : List Text) : (∀ line ∈ lines, IsEscaped (· == '&') line) ↔
      ∀ line ∈ lines.filter (!·.isEmpty), IsEscaped (· == '&') line := by
    refine ⟨fun all line member => all line (List.mem_filter.mp member).1, ?_⟩
    intro all line member
    cases line with
    | nil => exact isEscaped_nil
    | cons c line => exact all _ (List.mem_filter.mpr ⟨member, rfl⟩)
  rw [written, ← setLines_filter]
  change (∀ line ∈ setLines false (writtenLines (repair s)), _) ↔ _
  rw [setLines_writtenLines_repair, ← written, List.forall_mem_map]
  exact forall₂_congr fun line _ => isEscaped_escapeAmpersands_iff line

/-- Of two ampersands in a row the second is left bare. -/
theorem not_isEscaped_pair :
    repair "a && b".toList = "a \\&& b".toList ∧
      ¬ ∀ line ∈ setLines false ((repair "a && b".toList).splitOn '\n'),
        IsEscaped (· == '&') line := by
  have repaired : repair "a && b".toList = "a \\&& b".toList := by decide +kernel
  refine ⟨repaired, fun escaped => ?_⟩
  have line := escaped "a \\&& b".toList (by rw [repaired]; decide)
  exact absurd (line "a \\&".toList '&' " b".toList rfl rfl) (by decide)

end Scriptorium.Latex
