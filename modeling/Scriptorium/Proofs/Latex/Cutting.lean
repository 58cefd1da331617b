import Scriptorium.Proofs.Latex.Ampersand
/-! # Cutting a paper at a line

A line of a paper that no quote command meets in (`Latex.Alone`) is put right on its own: what
stands in front of it and what stands behind it are put right without it
(`Latex.mergeQuotes_append_line`, `Latex.repairAmpersandsFrom_append_line`). All that is handed
on from the front is whether a verbatim block is open.
-/

namespace Scriptorium.Latex

variable {front behind line part s repeated : Text}

/-- A text is empty or ends a line. -/
def EndsLine (front : Text) : Prop :=
  ∀ c ∈ front.getLast?, c = '\n'

/-- A text is empty or starts behind a line. -/
def StartsLine (behind : Text) : Prop :=
  ∀ c ∈ behind.head?, c = '\n'

/-- A text that ends a line is empty or ends in a line feed. -/
theorem EndsLine.eq_nil_or (ends : EndsLine front) :
    front = [] ∨ ∃ earlier, front = earlier ++ ['\n'] := by
  rcases List.eq_nil_or_concat front with none | ⟨earlier, c, rfl⟩
  · exact .inl none
  · rw [List.concat_eq_append] at ends ⊢
    obtain rfl := ends c List.getLast?_concat
    exact .inr ⟨earlier, rfl⟩

/-- The end of a text that ends a line ends one too. -/
theorem EndsLine.of_suffix (ends : EndsLine front) (suffix : part <:+ front) : EndsLine part := by
  obtain ⟨earlier, rfl⟩ := suffix
  intro c last
  refine ends c ?_
  rw [List.getLast?_append, Option.mem_def.mp last, Option.some_or]
  rfl

/-- A text that starts a line is empty or starts with a line feed. -/
theorem StartsLine.eq_nil_or (starts : StartsLine behind) :
    behind = [] ∨ ∃ rest, behind = '\n' :: rest := by
  cases behind with
  | nil => exact .inl rfl
  | cons c rest =>
    obtain rfl := starts c rfl
    exact .inr ⟨rest, rfl⟩

/-- A line feed ends a line. -/
theorem endsLine_concat (front : Text) : EndsLine (front ++ ['\n']) := by
  intro c last
  rw [List.getLast?_concat] at last
  exact (Option.mem_some_iff.mp last).symm

/-- A line feed starts a line. -/
theorem startsLine_cons (behind : Text) : StartsLine ('\n' :: behind) :=
  fun _ first => (Option.mem_some_iff.mp first).symm

/-- Lines with their line feeds end a line. -/
theorem endsLine_flatMap (lines : List Text) : EndsLine (lines.flatMap (· ++ ['\n'])) := by
  rcases List.eq_nil_or_concat lines with rfl | ⟨lines, line, rfl⟩
  · exact fun c last => absurd last (by simp)
  · rw [List.concat_eq_append, List.flatMap_append, List.flatMap_singleton, ← List.append_assoc]
    exact endsLine_concat _

/-! ## Quotes -/

/-- No quote command at a place of a line has another one of its kind next to it. -/
def Alone (front line behind : Text) : Prop :=
  ∀ repeated ∈ quoteCommands, ∀ first second, line = first ++ second →
    ¬ Meets repeated (front ++ first) (second ++ behind)

/-- A line on which commands stand alone is left as it is. -/
theorem Alone.mergeQuotes_eq (alone : Alone front line behind) : mergeQuotes line = line := by
  rw [mergeQuotes_eq_self_iff]
  rintro repeated member between blank ⟨first, second, rfl⟩
  refine alone repeated member (first ++ repeated) (between ++ (repeated ++ second))
    (by simp only [List.append_assoc]) ⟨?_, ?_⟩
  · rw [← List.append_assoc]
    exact (solid_of_mem_quoteCommands member).suffix_trimEnd_append _
  · have solid := solid_of_mem_quoteCommands member
    rw [List.append_assoc, Text.trimStart_append_of_blank blank, List.append_assoc,
      solid.trimStart_append]
    exact List.prefix_append _ _

/-- Merging quotations keeps the end of a line. -/
theorem EndsLine.mergeQuotes (ends : EndsLine front) : EndsLine (mergeQuotes front) := by
  rwa [EndsLine, getLast?_mergeQuotes]

/-- Merging quotations keeps the start of a line. -/
theorem StartsLine.mergeQuotes (starts : StartsLine behind) :
    StartsLine (Latex.mergeQuotes behind) := by
  rwa [StartsLine, head?_mergeQuotes]

/-- **Cutting at a line.** Quotes in front of a line and behind it become one without it. -/
theorem mergeQuotes_append_line (ends : EndsLine front) (starts : StartsLine behind)
    (alone : Alone front line behind) :
    mergeQuotes (front ++ (line ++ behind)) =
      mergeQuotes front ++ (line ++ mergeQuotes behind) := by
  have newline : isBlank '\n' = true := by decide
  rw [mergeQuotes_append, mergeQuotes_append, alone.mergeQuotes_eq]
  · exact .inr fun c first => starts c first ▸ newline
  · intro repeated member meets
    refine alone repeated member line [] (List.append_nil line).symm ?_
    exact meets.mono (solid_of_mem_quoteCommands member).nonempty (List.suffix_append front line)
  · exact .inl fun c last => ends c last ▸ newline
  · intro repeated member meets
    refine alone repeated member [] line rfl ?_
    rwa [List.append_nil]

/-- Commands stand alone on a line that shows something and lacks their letter. -/
theorem alone_of_isPlain (ends : EndsLine front) (starts : StartsLine behind)
    (plain : isPlain line = true) : Alone front line behind := by
  rintro repeated member first second rfl ⟨suffix, start⟩
  obtain ⟨visible, lacks⟩ := Bool.and_eq_true_iff.mp plain
  have solid := solid_of_mem_quoteCommands member
  have absent : 'q' ∉ first ++ second := by simpa using lacks
  have held : 'q' ∈ repeated := by
    revert member
    simp only [quoteCommands, List.mem_cons, List.not_mem_nil, or_false]
    rintro (rfl | rfl) <;> decide
  have newline : isBlank '\n' = true := by decide
  -- The command reaches into the half of the line that shows something.
  cases shown : Text.isAllBlank second with
  | false =>
    rw [Text.trimStart_append_of_visible shown] at start
    have inside := solid.prefix_of_prefix_append (Text.trimStart_ne_nil shown)
      (.inr fun c first => starts c first ▸ newline) start
    have kept := (List.dropWhile_suffix isBlank).subset (inside.subset held)
    exact absent (List.mem_append_right first kept)
  | true =>
    have visibleFirst : Text.isAllBlank first = false := by
      rwa [Text.isAllBlank, List.all_append, show second.all isBlank = true from shown,
        Bool.and_true, Bool.not_eq_true'] at visible
    rw [Text.trimEnd_append_of_visible visibleFirst] at suffix
    have inside := solid.suffix_of_suffix_append (Text.trimEnd_ne_nil visibleFirst)
      (.inl fun c last => ends c last ▸ newline) suffix
    have kept := (Text.trimEnd_prefix first).subset (inside.subset held)
    exact absent (List.mem_append_left second kept)

/-! ## Ampersands -/

/-- A text with bare ampersands escaped, the lines before it being verbatim or not. -/
def repairAmpersandsFrom (inVerbatim : Bool) (s : Text) : Text :=
  Text.join ['\n'] (repairLines inVerbatim (s.splitOn '\n'))

/-- A line as it stands in a repaired paper. -/
def repairedLine (inVerbatim : Bool) (line : Text) : Text :=
  if inVerbatim || Line.isComment line then line else escapeAmpersands line

/-- What a line has and keeps when its ampersands are escaped, it has in a repaired paper. -/
theorem repairedLine_cases {p : Text → Prop} (kept : p line) (escaped : p (escapeAmpersands line))
    (inVerbatim : Bool) : p (repairedLine inVerbatim line) := by
  unfold repairedLine
  split
  · exact kept
  · exact escaped

private theorem repairAmpersandsFrom_append_cons (inVerbatim : Bool) (front behind : Text) :
    repairAmpersandsFrom inVerbatim (front ++ '\n' :: behind) =
      repairAmpersandsFrom inVerbatim front ++ '\n' ::
        repairAmpersandsFrom (verbatimBehind inVerbatim front) behind := by
  have above := repairLines_ne_nil (Text.splitOn_ne_nil '\n' front) inVerbatim
  have below := repairLines_ne_nil (Text.splitOn_ne_nil '\n' behind)
    (verbatimBehind inVerbatim front)
  rw [repairAmpersandsFrom, Text.splitOn_append_cons, repairLines_append]
  exact Text.join_append above below

private theorem repairAmpersandsFrom_of_not_mem (whole : '\n' ∉ line) (inVerbatim : Bool) :
    repairAmpersandsFrom inVerbatim line = repairedLine (verbatimFrom inVerbatim line) line := by
  rw [repairAmpersandsFrom, Text.splitOn_of_not_mem whole]
  exact List.intercalate_singleton

private theorem repairAmpersandsFrom_nil (inVerbatim : Bool) :
    repairAmpersandsFrom inVerbatim [] = [] := by
  rw [repairAmpersandsFrom_of_not_mem List.not_mem_nil]
  exact ite_self []

/-- Repairing ampersands keeps the end of a line. -/
theorem EndsLine.repairAmpersandsFrom (ends : EndsLine front) (inVerbatim : Bool) :
    EndsLine (repairAmpersandsFrom inVerbatim front) := by
  rcases ends.eq_nil_or with rfl | ⟨earlier, rfl⟩
  · rwa [repairAmpersandsFrom_nil]
  · rw [repairAmpersandsFrom_append_cons, repairAmpersandsFrom_nil]
    exact endsLine_concat _

/-- Repairing ampersands keeps the start of a line. -/
theorem StartsLine.repairAmpersandsFrom (starts : StartsLine behind) (inVerbatim : Bool) :
    StartsLine (Latex.repairAmpersandsFrom inVerbatim behind) := by
  rcases starts.eq_nil_or with rfl | ⟨rest, rfl⟩
  · rwa [repairAmpersandsFrom_nil]
  · have below := repairAmpersandsFrom_append_cons inVerbatim [] rest
    rw [repairAmpersandsFrom_nil, List.nil_append, List.nil_append] at below
    rw [below]
    exact startsLine_cons _

private theorem repairAmpersandsFrom_line_append (starts : StartsLine behind) (whole : '\n' ∉ line)
    (inVerbatim : Bool) : repairAmpersandsFrom inVerbatim (line ++ behind) =
      repairedLine (verbatimFrom inVerbatim line) line ++
        repairAmpersandsFrom (verbatimFrom inVerbatim line) behind := by
  rcases starts.eq_nil_or with rfl | ⟨rest, rfl⟩
  · rw [List.append_nil, repairAmpersandsFrom_of_not_mem whole, repairAmpersandsFrom_nil,
      List.append_nil]
  · have below := repairAmpersandsFrom_append_cons (verbatimFrom inVerbatim line) [] rest
    rw [repairAmpersandsFrom_nil, verbatimBehind_nil] at below
    rw [repairAmpersandsFrom_append_cons, repairAmpersandsFrom_of_not_mem whole,
      verbatimBehind_of_not_mem whole]
    exact congrArg (_ ++ ·) below.symm

/-- Behind a text that ends a line the state is told from the one that it leads to. -/
theorem EndsLine.verbatimBehind_append (ends : EndsLine front) (inVerbatim : Bool) (s : Text) :
    verbatimBehind inVerbatim (front ++ s) =
      verbatimBehind (verbatimBehind inVerbatim front) s := by
  rcases ends.eq_nil_or with rfl | ⟨earlier, rfl⟩
  · rw [List.nil_append, verbatimBehind_nil]
  · rw [List.append_assoc, List.singleton_append, verbatimBehind_append_cons,
      verbatimBehind_append_cons, verbatimBehind_nil]

/-- **Cutting at a line.** Ampersands in front of a line and behind it are escaped without it. -/
theorem repairAmpersandsFrom_append_line (ends : EndsLine front) (starts : StartsLine behind)
    (whole : '\n' ∉ line) (inVerbatim : Bool) :
    repairAmpersandsFrom inVerbatim (front ++ (line ++ behind)) =
      repairAmpersandsFrom inVerbatim front ++
        (repairedLine (verbatimFrom (verbatimBehind inVerbatim front) line) line ++
          repairAmpersandsFrom (verbatimFrom (verbatimBehind inVerbatim front) line) behind) := by
  rcases ends.eq_nil_or with rfl | ⟨earlier, rfl⟩
  · rw [repairAmpersandsFrom_nil, verbatimBehind_nil]
    exact repairAmpersandsFrom_line_append starts whole inVerbatim
  · rw [List.append_assoc, List.singleton_append, repairAmpersandsFrom_append_cons,
      repairAmpersandsFrom_append_cons, repairAmpersandsFrom_line_append starts whole,
      repairAmpersandsFrom_nil, verbatimBehind_append_cons, verbatimBehind_nil, List.append_assoc]
    rfl

/-- A paper with all repairs made, the lines before it being verbatim or not. -/
def repairFrom (inVerbatim : Bool) (s : Text) : Text :=
  joinHeadingComments (limitLineFeeds 0 (repairAmpersandsFrom inVerbatim (mergeQuotes s)))

end Scriptorium.Latex
