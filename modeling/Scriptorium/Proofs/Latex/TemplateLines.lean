import Scriptorium.Proofs.Latex.Citations
import Scriptorium.Proofs.Latex.Cutting
/-! # The lines of a template in a paper

A paper is put right as a whole, its template with it. A line of the template is kept where it
shows something and no quote command meets another one on it (`Latex.Kept`). It is printed as it
is when it is a comment or verbatim, and else with its bare ampersands behind backslashes
(`Latex.shownLine`). At such a line the paper falls into what is printed of the lines in front of
it and of those behind it (`Latex.printed_append_line`), so the kept lines stand in order in front
of the body and behind it (`Latex.exists_filledLines_paper`).
-/

namespace Scriptorium.Latex

variable {front behind line part s : Text} {inVerbatim : Bool}

/-- The lines of a text that show something. -/
def filledLines (s : Text) : List Text :=
  (s.splitOn '\n').filter (!·.isAllBlank)

/-- The lines that are printed of a stretch of an assembled paper, the lines before it being
verbatim or not. -/
def printed (inVerbatim : Bool) (s : Text) : List Text :=
  filledLines (resolveTokens (repairFrom inVerbatim s))

/-- Lines, each with a line feed behind it. -/
def linesAbove (lines : List Text) : Text :=
  lines.flatMap (· ++ ['\n'])

/-- Lines, each behind a line feed. -/
def linesBelow (lines : List Text) : Text :=
  lines.flatMap ('\n' :: ·)

/-- A line of a paper shows something, no quote command on it has another one of its kind next to
it, and it is verbatim, a comment or holds no two ampersands in a row. -/
structure Kept (inVerbatim : Bool) (front line behind : Text) : Prop where
  visible : line.isAllBlank = false
  alone : Alone front line behind
  roomy : inVerbatim = false → Line.isComment line = false → ¬ Crowded line

/-- A kept line as it is printed. -/
def shownLine (inVerbatim : Bool) (line : Text) : Text :=
  if inVerbatim || Line.isComment line then line else guarded '\n' line

/-! ## Whether a line is kept can be computed -/

instance (repeated front behind : Text) : Decidable (Meets repeated front behind) :=
  inferInstanceAs (Decidable (_ ∧ _))

private theorem alone_iff : Alone front line behind ↔ ∀ repeated ∈ quoteCommands,
    ∀ n ∈ List.range (line.length + 1),
      ¬ Meets repeated (front ++ line.take n) (line.drop n ++ behind) := by
  constructor
  · intro alone repeated member n _
    exact alone repeated member _ _ (List.take_append_drop n line).symm
  · rintro apart repeated member first second rfl
    have here := apart repeated member first.length
      (List.mem_range.mpr (by rw [List.length_append]; omega))
    rwa [List.take_left, List.drop_left] at here

instance : Decidable (Alone front line behind) :=
  decidable_of_iff _ alone_iff.symm

instance : Decidable (Crowded line) :=
  decidable_of_iff _ crowded_iff.symm

private theorem kept_iff : Kept inVerbatim front line behind ↔ line.isAllBlank = false ∧
    Alone front line behind ∧
      (inVerbatim = false → Line.isComment line = false → ¬ Crowded line) :=
  ⟨fun kept => ⟨kept.visible, kept.alone, kept.roomy⟩, fun ⟨visible, alone, roomy⟩ =>
    ⟨visible, alone, roomy⟩⟩

instance : Decidable (Kept inVerbatim front line behind) :=
  decidable_of_iff _ kept_iff.symm

/-- The lines that are kept of some, as they are printed. The text in front of the lines and
behind them is given, and whether the first of them is verbatim. -/
def keptLines (inVerbatim : Bool) (front behind : Text) : List Text → List Text
  | [] => []
  | line :: lines =>
    let inVerbatim := verbatimFrom inVerbatim line
    let later := keptLines inVerbatim (front ++ (line ++ ['\n'])) behind lines
    if Kept inVerbatim front line (linesBelow lines ++ behind) then
      shownLine inVerbatim line :: later
    else later

/-! ## Line by line -/

private theorem lineWise_filledLines : LineWise filledLines where
  empty := rfl
  newline front behind := by
    rw [filledLines, Text.splitOn_append_cons, List.filter_append]
    rfl

/-- What is told line by line is told of a line between others on its own. -/
theorem LineWise.append_line {β : Type} {f : Text → List β} (lineWise : LineWise f)
    (ends : EndsLine front) (starts : StartsLine behind) (line : Text) :
    f (front ++ (line ++ behind)) = f front ++ (f line ++ f behind) := by
  have first (s : Text) : f (front ++ s) = f front ++ f s := by
    rcases ends.eq_nil_or with rfl | ⟨earlier, rfl⟩
    · rw [lineWise.empty]
      rfl
    · rw [List.append_assoc, List.singleton_append, lineWise.newline, lineWise.newline,
        lineWise.empty, List.append_nil]
  rw [first]
  rcases starts.eq_nil_or with rfl | ⟨rest, rfl⟩
  · rw [lineWise.empty, List.append_nil, List.append_nil]
  · have below := lineWise.newline [] rest
    rw [lineWise.empty, List.nil_append, List.nil_append] at below
    rw [lineWise.newline, below]

private theorem replaceAll_scan_append_cons (write : Mark → Text) (front behind : Text) :
    Scanner.replaceAll Mark.lexicon.scan write (front ++ '\n' :: behind) =
      Scanner.replaceAll Mark.lexicon.scan write front ++ '\n' ::
        Scanner.replaceAll Mark.lexicon.scan write behind := by
  have separates : Mark.lexicon.Separates '\n' := Mark.separates Mark.isMarkChar_newline
  rw [Lexicon.replaceAll_append (.cons separates front behind),
    Scanner.replaceAll_of_none (Lexicon.scan_eq_none_of_separates separates behind)]

/-- Tokens are given back line by line. -/
theorem resolveTokens_append_cons (front behind : Text) :
    resolveTokens (front ++ '\n' :: behind) =
      resolveTokens front ++ '\n' :: resolveTokens behind := by
  simp only [resolveTokens, resolveLatex_eq, Math.decode, Math.decodeKind_eq,
    replaceAll_scan_append_cons]

private theorem resolveTokens_of_marks_eq_nil (none : marks s = []) : resolveTokens s = s := by
  have kept (write : Mark → Text) : Scanner.replaceAll Mark.lexicon.scan write s = s :=
    Lexicon.replaceAll_of_words_eq_nil none
  simp only [resolveTokens, resolveLatex_eq, Math.decode, Math.decodeKind_eq, kept]

private theorem lineWise_filledLines_resolveTokens :
    LineWise fun s => filledLines (resolveTokens s) where
  empty := by
    rw [resolveTokens_of_marks_eq_nil marks_nil]
    rfl
  newline front behind := by
    rw [resolveTokens_append_cons, lineWise_filledLines.newline]

private theorem printed_eq (inVerbatim : Bool) (s : Text) : printed inVerbatim s =
    filledLines (resolveTokens (repairAmpersandsFrom inVerbatim (mergeQuotes s))) :=
  lineWise_filledLines_resolveTokens.ignoresEmptyLines.tidied _

/-! ## Cutting a paper at kept lines -/

/-- A line that is kept below some lines is kept below the last of them. -/
theorem Kept.of_suffix (kept : Kept inVerbatim front line behind) (suffix : part <:+ front) :
    Kept inVerbatim part line behind where
  visible := kept.visible
  alone repeated member first second whole meets := by
    refine kept.alone repeated member first second whole
      (meets.mono (solid_of_mem_quoteCommands member).nonempty ?_)
    exact List.suffix_append_self_iff.mpr suffix
  roomy := kept.roomy

/-- A line that is kept is repaired by showing it. -/
theorem Kept.repairedLine_eq (kept : Kept inVerbatim front line behind) :
    repairedLine inVerbatim line = shownLine inVerbatim line := by
  unfold repairedLine shownLine
  split
  · rfl
  · rename_i set
    obtain ⟨notVerbatim, noComment⟩ := not_or.mp (Bool.or_eq_true _ _ ▸ set)
    exact escapeAmpersands_eq_guarded (kept.roomy (Bool.eq_false_iff.mpr notVerbatim)
      (Bool.eq_false_iff.mpr noComment))

private theorem isAllBlank_escapeAmpersands (visible : line.isAllBlank = false) :
    (escapeAmpersands line).isAllBlank = false := by
  obtain ⟨c, member, solid⟩ := List.all_eq_false.mp visible
  exact List.all_eq_false.mpr ⟨c, (sublist_escapeAmpersands line).subset member, solid⟩

/-- A kept line is printed by itself. -/
theorem Kept.filledLines_eq (kept : Kept inVerbatim front line behind) (whole : '\n' ∉ line)
    (none : marks line = []) :
    filledLines (resolveTokens (repairedLine inVerbatim line)) = [shownLine inVerbatim line] := by
  have unmarked := repairedLine_cases (p := fun s => marks s = []) none
    ((spares_marks.words_escapeAmpersands line).trans none) inVerbatim
  have single := repairedLine_cases (p := fun s => '\n' ∉ s) whole
    ((mem_escapeAmpersands_iff (by decide)).not.mpr whole) inVerbatim
  have shown := repairedLine_cases (p := fun s => s.isAllBlank = false) kept.visible
    (isAllBlank_escapeAmpersands kept.visible) inVerbatim
  rw [resolveTokens_of_marks_eq_nil unmarked, filledLines, Text.splitOn_of_not_mem single,
    List.filter_cons_of_pos (by rw [shown]; rfl), List.filter_nil, kept.repairedLine_eq]

/-- **Cutting at a line.** A line that is kept is printed between what is printed of the text in
front of it and what is printed of the text behind it. -/
theorem printed_append_line (ends : EndsLine front) (starts : StartsLine behind)
    (whole : '\n' ∉ line) (none : marks line = [])
    (kept : Kept (verbatimFrom (verbatimBehind inVerbatim front) line) front line behind) :
    printed inVerbatim (front ++ (line ++ behind)) = printed inVerbatim front ++
      shownLine (verbatimFrom (verbatimBehind inVerbatim front) line) line ::
        printed (verbatimFrom (verbatimBehind inVerbatim front) line) behind := by
  have cut := repairAmpersandsFrom_append_line ends.mergeQuotes starts.mergeQuotes whole inVerbatim
  rw [verbatimBehind_mergeQuotes] at cut
  have ends' := ends.mergeQuotes.repairAmpersandsFrom inVerbatim
  have starts' := starts.mergeQuotes.repairAmpersandsFrom
    (verbatimFrom (verbatimBehind inVerbatim front) line)
  have split := lineWise_filledLines_resolveTokens.append_line ends' starts'
    (repairedLine (verbatimFrom (verbatimBehind inVerbatim front) line) line)
  rw [printed_eq, mergeQuotes_append_line ends starts kept.alone, cut, split,
    kept.filledLines_eq whole none, printed_eq, printed_eq]
  rfl

/-! ## The lines in front of the body and behind it -/

private theorem cons_linesAbove (lines : List Text) (s : Text) :
    '\n' :: (linesAbove lines ++ s) = linesBelow lines ++ '\n' :: s := by
  induction lines with
  | nil => rfl
  | cons line lines ih =>
    rw [linesAbove, linesBelow, List.flatMap_cons, List.flatMap_cons, ← linesAbove, ← linesBelow]
    simp only [List.append_assoc, List.cons_append, List.nil_append, ih]

private theorem startsLine_linesBelow (lines : List Text) : StartsLine (linesBelow lines) := by
  cases lines with
  | nil => exact fun c first => absurd first (by simp [linesBelow])
  | cons line lines => exact startsLine_cons _

/-- Lines of a template: none holds a mark. -/
def Plain (lines : List Text) : Prop :=
  ∀ line ∈ lines, '\n' ∉ line ∧ marks line = []

private theorem linesAbove_cons_append (line : Text) (lines : List Text) (behind : Text) :
    linesAbove (line :: lines) ++ behind = line ++ '\n' :: (linesAbove lines ++ behind) := by
  simp [linesAbove]

private theorem linesBelow_cons_append (line : Text) (lines : List Text) (behind : Text) :
    linesBelow (line :: lines) ++ behind = '\n' :: (line ++ (linesBelow lines ++ behind)) := by
  simp [linesBelow]

/-- **Lines in front of the body.** The kept ones of some lines are printed in order, in front of
what is printed of the text from somewhere in the lines on. -/
theorem exists_printed_front {lines : List Text} (plain : Plain lines) (pending front : Text)
    (ends : EndsLine pending) (suffix : pending <:+ front) (inVerbatim : Bool) (behind : Text) :
    ∃ above rest later,
      printed inVerbatim (pending ++ (linesAbove lines ++ behind)) =
        above ++ printed later (rest ++ behind) ∧
      (keptLines (verbatimBehind inVerbatim pending) front ('\n' :: behind) lines).Sublist above ∧
      rest <:+ pending ++ linesAbove lines ∧
      ∀ s, verbatimBehind later (rest ++ s) =
        verbatimBehind inVerbatim (pending ++ (linesAbove lines ++ s)) := by
  induction lines generalizing pending front inVerbatim with
  | nil =>
    exact ⟨[], pending, inVerbatim, rfl, List.Sublist.refl [], ⟨[], by simp [linesAbove]⟩,
      fun _ => rfl⟩
  | cons line lines ih =>
    obtain ⟨⟨whole, none⟩, plain⟩ := List.forall_mem_cons.mp plain
    have suffix' : pending ++ (line ++ ['\n']) <:+ front ++ (line ++ ['\n']) :=
      List.suffix_append_self_iff.mpr suffix
    by_cases kept : Kept (verbatimFrom (verbatimBehind inVerbatim pending) line) front line
        (linesBelow lines ++ '\n' :: behind)
    · obtain ⟨above, rest, later, print, sublist, ending, state⟩ := ih plain ['\n']
        (front ++ (line ++ ['\n'])) (endsLine_concat [])
        ((List.suffix_append _ _).trans ((List.suffix_append _ _).trans suffix'))
        (verbatimFrom (verbatimBehind inVerbatim pending) line)
      rw [verbatimBehind_cons, verbatimBehind_nil] at sublist
      refine ⟨printed inVerbatim pending ++
        shownLine (verbatimFrom (verbatimBehind inVerbatim pending) line) line :: above,
        rest, later, ?_, ?_, ?_, fun s => ?_⟩
      · rw [← cons_linesAbove] at kept
        rw [linesAbove_cons_append, printed_append_line ends (startsLine_cons _) whole none
          (kept.of_suffix suffix), List.append_assoc]
        exact congrArg (fun later => _ ++ _ :: later) print
      · rw [keptLines, if_pos kept]
        exact (sublist.cons_cons _).trans (List.sublist_append_right _ _)
      · rw [← List.append_nil (linesAbove (line :: lines)), linesAbove_cons_append,
          List.append_nil, ← List.append_assoc]
        exact ending.trans (List.suffix_append _ _)
      · rw [state, linesAbove_cons_append, ends.verbatimBehind_append, verbatimBehind_append_cons,
          verbatimBehind_of_not_mem whole]
        exact verbatimBehind_cons _ _
    · have ends' : EndsLine (pending ++ (line ++ ['\n'])) := by
        rw [← List.append_assoc]
        exact endsLine_concat _
      have regrouped (s : Text) : pending ++ (line ++ ['\n']) ++ (linesAbove lines ++ s) =
          pending ++ (linesAbove (line :: lines) ++ s) := by
        rw [linesAbove_cons_append]
        simp only [List.append_assoc, List.cons_append, List.nil_append]
      obtain ⟨above, rest, later, print, sublist, ending, state⟩ := ih plain
        (pending ++ (line ++ ['\n'])) (front ++ (line ++ ['\n'])) ends' suffix' inVerbatim
      rw [regrouped] at print
      rw [ends.verbatimBehind_append, verbatimBehind_append_cons, verbatimBehind_nil,
        verbatimBehind_of_not_mem whole] at sublist
      refine ⟨above, rest, later, print, ?_, ?_, fun s => by rw [state, regrouped]⟩
      · rwa [keptLines, if_neg kept]
      · have same := regrouped []
        rw [List.append_nil, List.append_nil] at same
        rwa [same] at ending

/-- **Lines behind the body.** The kept ones of some lines are printed in order, behind what is
printed of the text up to somewhere in the lines. -/
theorem exists_printed_back {lines : List Text} (plain : Plain lines) (pending front : Text)
    (suffix : pending <:+ front) (inVerbatim : Bool) :
    ∃ rest below,
      printed inVerbatim (pending ++ linesBelow lines) =
        printed inVerbatim (pending ++ rest) ++ below ∧
      (keptLines (verbatimBehind inVerbatim pending) (front ++ ['\n']) [] lines).Sublist below ∧
      rest <+: linesBelow lines := by
  induction lines generalizing pending front inVerbatim with
  | nil => exact ⟨[], [], (List.append_nil _).symm, List.Sublist.refl [], List.prefix_rfl⟩
  | cons line lines ih =>
    obtain ⟨⟨whole, none⟩, plain⟩ := List.forall_mem_cons.mp plain
    have suffix' : pending ++ ['\n'] <:+ front ++ ['\n'] := List.suffix_append_self_iff.mpr suffix
    have split : pending ++ linesBelow (line :: lines) =
        (pending ++ ['\n']) ++ (line ++ linesBelow lines) := by
      simp [linesBelow]
    have state : verbatimBehind inVerbatim (pending ++ ['\n']) =
        verbatimBehind inVerbatim pending := by
      rw [verbatimBehind_append_cons, verbatimBehind_nil]
    have same : front ++ ['\n'] ++ (line ++ ['\n']) = front ++ '\n' :: line ++ ['\n'] := by
      simp only [List.append_assoc, List.cons_append, List.nil_append]
    by_cases kept : Kept (verbatimFrom (verbatimBehind inVerbatim pending) line)
        (front ++ ['\n']) line (linesBelow lines ++ [])
    · obtain ⟨rest, below, print, sublist, start⟩ := ih plain [] (front ++ '\n' :: line)
        List.nil_suffix (verbatimFrom (verbatimBehind inVerbatim pending) line)
      rw [verbatimBehind_nil] at sublist
      rw [List.nil_append] at print
      refine ⟨['\n'], shownLine (verbatimFrom (verbatimBehind inVerbatim pending) line) line ::
        (printed (verbatimFrom (verbatimBehind inVerbatim pending) line) rest ++ below), ?_, ?_, ?_⟩
      · have kept' := (List.append_nil (linesBelow lines) ▸ kept).of_suffix suffix'
        rw [← state] at kept'
        rw [split, printed_append_line (endsLine_concat pending) (startsLine_linesBelow lines) whole
          none kept', state, print]
        rfl
      · rw [keptLines, if_pos kept, same]
        exact (sublist.trans (List.sublist_append_right _ _)).cons_cons _
      · exact ⟨line ++ linesBelow lines, by simp [linesBelow]⟩
    · obtain ⟨rest, below, print, sublist, start⟩ := ih plain (pending ++ '\n' :: line)
        (front ++ '\n' :: line) (List.suffix_append_self_iff.mpr suffix) inVerbatim
      rw [verbatimBehind_append_cons, verbatimBehind_of_not_mem whole] at sublist
      refine ⟨'\n' :: (line ++ rest), below, ?_, ?_, ?_⟩
      · have print' : printed inVerbatim ((pending ++ ['\n']) ++ (line ++ linesBelow lines)) =
            printed inVerbatim (pending ++ '\n' :: (line ++ rest)) ++ below := by
          simpa only [List.append_assoc, List.cons_append, List.nil_append] using print
        rw [split, print']
      · rwa [keptLines, if_neg kept, same]
      · obtain ⟨tail, whole'⟩ := start
        exact ⟨tail, by simpa [linesBelow] using whole'⟩

/-! ## The paper -/

/-- The lines of an assembled paper: those of the template above the placeholder's own, what
stands in place of that line, and those of the template below it. -/
structure Assembled where
  above : List Text
  own : Text
  below : List Text

namespace Assembled

/-- A body between the two halves of a template. -/
def ofBody (before after body : Text) : Assembled where
  above := (before.splitOn '\n').dropLast
  own := (before.splitOn '\n').getLastD [] ++ (body.trimEnd ++ (after.splitOn '\n').headD [])
  below := (after.splitOn '\n').tail

/-- The text of an assembled paper. -/
def text (paper : Assembled) : Text :=
  linesAbove paper.above ++ (paper.own ++ linesBelow paper.below)

/-- The lines that are kept above the body. -/
def keptAbove (paper : Assembled) : List Text :=
  keptLines false [] ('\n' :: (paper.own ++ linesBelow paper.below)) paper.above

/-- The lines that are kept below the body. -/
def keptBelow (paper : Assembled) : List Text :=
  keptLines (verbatimBehind false (linesAbove paper.above ++ paper.own))
    (linesAbove paper.above ++ paper.own ++ ['\n']) [] paper.below

/-- What is printed of the body, with lines next to it that it is printed together with. -/
def PrintsOwn (paper : Assembled) (printedLines : List Text) : Prop :=
  ∃ inVerbatim above below, above <:+ linesAbove paper.above ∧ below <+: linesBelow paper.below ∧
    printedLines = printed inVerbatim (above ++ (paper.own ++ below))

/-- A template around a body is put together with the body in it. -/
theorem text_ofBody (before after body : Text) :
    (ofBody before after body).text = before ++ (body.trimEnd ++ after) := by
  have above : linesAbove (before.splitOn '\n').dropLast ++ (before.splitOn '\n').getLastD [] =
      before := by
    have whole := Text.flatMap_splitOn '\n' before
    rcases List.eq_nil_or_concat (before.splitOn '\n') with none | ⟨lines, last, cut⟩
    · exact absurd none (Text.splitOn_ne_nil _ _)
    · rw [cut, List.concat_eq_append] at whole ⊢
      rw [List.flatMap_append, List.flatMap_singleton, ← List.append_assoc] at whole
      rw [List.dropLast_concat, List.getLastD_concat]
      exact List.append_cancel_right whole
  have below : (after.splitOn '\n').headD [] ++ linesBelow (after.splitOn '\n').tail = after := by
    have whole := cons_linesAbove (after.splitOn '\n') []
    rw [List.append_nil, linesAbove, Text.flatMap_splitOn] at whole
    cases cut : after.splitOn '\n' with
    | nil => exact absurd cut (Text.splitOn_ne_nil _ _)
    | cons first lines =>
      rw [cut, linesBelow_cons_append, List.cons_inj_right, ← List.append_assoc] at whole
      exact (List.append_cancel_right whole).symm
  rw [text, ofBody]
  simp only [List.append_assoc]
  rw [← List.append_assoc, above, below]

/-- The paper is printed in three parts, the kept lines of its template in the first and the
last. -/
theorem exists_printed (paper : Assembled) (plainAbove : Plain paper.above)
    (plainBelow : Plain paper.below) : ∃ front middle behind,
      printed false paper.text = front ++ (middle ++ behind) ∧
        paper.keptAbove.Sublist front ∧ paper.keptBelow.Sublist behind ∧
        paper.PrintsOwn middle := by
  obtain ⟨front, above, inVerbatim, first, keptAbove, ending, state⟩ :=
    exists_printed_front plainAbove [] [] (fun c last => absurd last (by simp)) List.suffix_rfl
      false (paper.own ++ linesBelow paper.below)
  have suffix : above ++ paper.own <:+ linesAbove paper.above ++ paper.own :=
    List.suffix_append_self_iff.mpr ending
  obtain ⟨below, behind, second, keptBelow, start⟩ :=
    exists_printed_back plainBelow (above ++ paper.own) _ suffix inVerbatim
  rw [verbatimBehind_nil] at keptAbove
  rw [state] at keptBelow
  refine ⟨front, _, behind, ?_, keptAbove, keptBelow, inVerbatim, above, below, ending, start, rfl⟩
  rw [List.nil_append, ← List.append_assoc above, second, List.append_assoc above] at first
  exact first

end Assembled

variable {template before after : Text}

/-- The assembled paper of a document. -/
def assembled (config : Config) (before after markdown : Text) : Assembled :=
  .ofBody before after (body config (documentOf markdown))

private theorem plain_of_splitOn (none : marks s = []) : Plain (s.splitOn '\n') :=
  fun _ member => ⟨Text.not_mem_of_mem_splitOn member,
    marks_eq_nil_of_within (Text.infix_of_mem_splitOn member) none⟩

/-- **A template in a paper.** The lines of a template that are kept come out in order, those
above the placeholder in front of what is printed of the body and those below it behind. -/
theorem exists_filledLines_paper (cut : Text.cut? placeholder template = some (before, after))
    (none : marks template = []) (config : Config) (markdown : Text) :
    ∃ front middle behind,
      filledLines (paper config template markdown) = front ++ (middle ++ behind) ∧
        (assembled config before after markdown).keptAbove.Sublist front ∧
        (assembled config before after markdown).keptBelow.Sublist behind ∧
        (assembled config before after markdown).PrintsOwn middle := by
  have whole := Text.eq_of_cut?_eq_some cut
  have first : marks before = [] :=
    marks_eq_nil_of_within ⟨[], placeholder ++ after, by rw [whole]; simp⟩ none
  have last : marks after = [] :=
    marks_eq_nil_of_within ⟨before ++ placeholder, [], by rw [whole]; simp⟩ none
  have text : assemble template (body config (documentOf markdown)) =
      (assembled config before after markdown).text := by
    rw [assembled, Assembled.text_ofBody, assemble, Text.replaceFirst, cut]
    exact List.append_assoc _ _ _
  have filled : filledLines (paper config template markdown) =
      printed false (assembled config before after markdown).text := by
    rw [← text]
    rfl
  rw [filled]
  refine Assembled.exists_printed _ (fun line member => ?_) (fun line member => ?_)
  · exact plain_of_splitOn first line ((List.dropLast_sublist _).subset member)
  · exact plain_of_splitOn last line (List.mem_of_mem_tail member)

/-- A template with ampersands in a comment and in a title. -/
def titledTemplate : Text :=
  "% Notes & more\n\\title\x7bA & B\x7d\n%%CONTENT%%\n\\end\x7bdocument\x7d".toList

/-- The lines of this template stand in the paper, in their order. -/
theorem exists_filledLines_paper_titledTemplate :
    let before := "% Notes & more\n\\title\x7bA & B\x7d\n".toList
    let after := "\n\\end\x7bdocument\x7d".toList
    let paperLines := assembled Config.standard before after "x".toList
    Text.cut? placeholder titledTemplate = some (before, after) ∧ marks titledTemplate = [] ∧
      paperLines.keptAbove =
        ["% Notes & more".toList, "\\title\x7bA \\& B\x7d".toList] ∧
      paperLines.keptBelow = ["\\end\x7bdocument\x7d".toList] ∧
      ∃ front middle behind,
        filledLines (paper Config.standard titledTemplate "x".toList) =
          front ++ (middle ++ behind) ∧
        paperLines.keptAbove.Sublist front ∧ paperLines.keptBelow.Sublist behind ∧
        paperLines.PrintsOwn middle := by
  intro before after paperLines
  have cut : Text.cut? placeholder titledTemplate = some (before, after) := by decide
  have none : marks titledTemplate = [] := by decide +kernel
  exact ⟨cut, none, by decide +kernel, by decide +kernel,
    exists_filledLines_paper cut none Config.standard "x".toList⟩

/-- An ampersand of a template is escaped, and quotes that a template opens one in the other
are one. -/
theorem paper_changedTemplate :
    paper Config.standard "a & b\n%%CONTENT%%".toList "x".toList = "a \\& b\nx".toList ∧
      "a & b".toList ∉
        filledLines (paper Config.standard "a & b\n%%CONTENT%%".toList "x".toList) ∧
      paper Config.standard
          "\\begin\x7bquote\x7d\n\\begin\x7bquote\x7d\n%%CONTENT%%".toList "x".toList =
        "\\begin\x7bquote\x7d\nx".toList := by
  have escaped : paper Config.standard "a & b\n%%CONTENT%%".toList "x".toList =
      "a \\& b\nx".toList := by
    decide +kernel
  refine ⟨escaped, ?_, by decide +kernel⟩
  rw [escaped]
  decide

end Scriptorium.Latex
