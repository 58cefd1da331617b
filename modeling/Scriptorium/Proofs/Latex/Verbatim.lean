import Scriptorium.Latex.Document
import Scriptorium.Proofs.Latex.Cutting
/-! # Verbatim blocks in a repaired paper

Only the escaping of ampersands looks at verbatim blocks. The lines that open and close a block
keep their places, and what is done to a paper is done in front of a block, inside of it and
behind it apart. So a block comes out as it was written exactly when its inside holds nothing
that the other repairs put right (`Latex.repair_block`, `Latex.Untouched`).
-/

namespace Scriptorium.Latex

variable {s front behind line heading : Text}

/-- The lines of a verbatim block: one that opens it, and those up to the next that closes it. -/
structure VerbatimBlock where
  opening : Text
  inside : List Text
  closing : Text
  opens : opening.trim = openEnvironment "verbatim"
  closes : closing.trim = closeEnvironment "verbatim"
  single : '\n' ∉ opening ∧ '\n' ∉ closing
  whole : ∀ line ∈ inside, '\n' ∉ line
  unclosed : ∀ line ∈ inside, line.trim ≠ closeEnvironment "verbatim"

namespace VerbatimBlock

/-- What stands between the opening and the closing of a block. -/
def content (block : VerbatimBlock) : Text :=
  '\n' :: block.inside.flatMap (· ++ ['\n'])

/-- A block as it stands in a text. -/
def text (block : VerbatimBlock) : Text :=
  block.opening ++ (block.content ++ block.closing)

/-- The block that a code paragraph becomes. -/
def ofCode (code : Text)
    (unclosed : ∀ line ∈ code.splitOn '\n', line.trim ≠ closeEnvironment "verbatim") :
    VerbatimBlock where
  opening := openEnvironment "verbatim"
  inside := code.splitOn '\n'
  closing := closeEnvironment "verbatim"
  opens := by decide
  closes := by decide
  single := by decide
  whole _ := Text.not_mem_of_mem_splitOn
  unclosed := unclosed

end VerbatimBlock

/-- What is written for a code paragraph is the text of its block. -/
theorem VerbatimBlock.text_ofCode (code : Text)
    (unclosed : ∀ line ∈ code.splitOn '\n', line.trim ≠ closeEnvironment "verbatim") :
    (ofCode code unclosed).text = environment "verbatim" code := by
  rw [text, content, ofCode, Text.flatMap_splitOn, environment]
  simp only [List.append_assoc, List.cons_append, List.nil_append]

/-- What is done to the inside of a verbatim block. -/
def repairVerbatim (content : Text) : Text :=
  joinHeadingComments (limitLineFeeds 0 (mergeQuotes content))

/-- A sectioning command. -/
def IsHeading (heading : Text) : Prop :=
  ∃ name ∈ ["chapter".toList, "section".toList, "subsection".toList, "subsubsection".toList],
    ∃ title, (∀ c ∈ title, isTitleChar c = true) ∧ heading = command name title

/-- No repair but that of ampersands finds anything in a text: no quote command stands behind
another one of its kind, no three line feeds are in a row, and no blank line stands between a
heading and a comment. -/
structure Untouched (content : Text) : Prop where
  quotes : ∀ repeated ∈ quoteCommands, ∀ between, between.isAllBlank = true →
    ¬ repeated ++ (between ++ repeated) <:+: content
  lineFeeds : ¬ ['\n', '\n', '\n'] <:+: content
  headings : ∀ heading, IsHeading heading → ¬ heading ++ ['\n', '\n', '%'] <:+: content

/-! ## Line feeds -/

/-- Limiting line feeds shortens what it changes. -/
theorem shrinks_limitLineFeeds (count : Nat) : Shrinks (limitLineFeeds count) := by
  intro s
  fun_induction limitLineFeeds count s with
  | case1 => exact .inl rfl
  | case2 count cs few ih =>
    rw [List.cons_inj_right, List.length_cons, List.length_cons]
    exact ih.imp_right Nat.succ_lt_succ
  | case3 count cs many ih =>
    refine .inr ?_
    rcases ih with same | less
    · rw [same]
      exact Nat.lt_succ_self _
    · exact Nat.lt_succ_of_lt less
  | case4 count c cs other ih =>
    rw [List.cons_inj_right, List.length_cons, List.length_cons]
    exact ih.imp_right Nat.succ_lt_succ

private theorem limitLineFeeds_append_cons {c : Char} (other : c ≠ '\n') (count : Nat)
    (front behind : Text) : limitLineFeeds count (front ++ c :: behind) =
      limitLineFeeds count front ++ c :: limitLineFeeds 0 behind := by
  fun_induction limitLineFeeds count front with
  | case1 => rw [List.nil_append, limitLineFeeds, if_neg other]; rfl
  | case2 count cs few ih =>
    rw [List.cons_append, limitLineFeeds, if_pos rfl, if_pos few, ih]
    rfl
  | case3 count cs many ih =>
    rw [List.cons_append, limitLineFeeds, if_pos rfl, if_neg many, ih]
  | case4 count d cs solid ih =>
    rw [List.cons_append, limitLineFeeds, if_neg solid, ih]
    rfl

private theorem limitLineFeeds_of_not_mem (whole : '\n' ∉ line) (behind : Text) :
    limitLineFeeds 0 (line ++ behind) = line ++ limitLineFeeds 0 behind := by
  induction line with
  | nil => rfl
  | cons c line ih =>
    have other : c ≠ '\n' := fun same => whole (same ▸ List.mem_cons_self)
    rw [List.cons_append, limitLineFeeds, if_neg other, ih (List.not_mem_of_not_mem_cons whole)]
    rfl

/-- **Cutting at a line.** Line feeds are counted anew behind a line. -/
theorem limitLineFeeds_append_line (nonempty : line ≠ []) (whole : '\n' ∉ line)
    (front behind : Text) : limitLineFeeds 0 (front ++ (line ++ behind)) =
      limitLineFeeds 0 front ++ (line ++ limitLineFeeds 0 behind) := by
  obtain ⟨c, line, rfl⟩ := List.exists_cons_of_ne_nil nonempty
  have other : c ≠ '\n' := fun same => whole (same ▸ List.mem_cons_self)
  rw [List.cons_append, limitLineFeeds_append_cons other,
    limitLineFeeds_of_not_mem (List.not_mem_of_not_mem_cons whole)]
  rfl

/-- Limiting line feeds changes nothing exactly when no three stand in a row, those in front
counted. -/
theorem limitLineFeeds_eq_self_iff_replicate {count : Nat} (few : count ≤ 2) (s : Text) :
    limitLineFeeds count s = s ↔ ¬ ['\n', '\n', '\n'] <:+: List.replicate count '\n' ++ s := by
  fun_induction limitLineFeeds count s with
  | case1 count =>
    refine iff_of_true rfl fun held => ?_
    have bound := held.length_le
    simp only [List.length_cons, List.length_nil, List.append_nil, List.length_replicate] at bound
    omega
  | case2 count cs less ih =>
    rw [List.cons_inj_right, ih less, List.replicate_succ', List.append_assoc]
    rfl
  | case3 count cs many ih =>
    obtain rfl : count = 2 := by omega
    refine iff_of_false (fun same => ?_) fun apart => apart ⟨[], cs, rfl⟩
    have bound := (shrinks_limitLineFeeds 2).length_le cs
    rw [same, List.length_cons] at bound
    omega
  | case4 count c cs other ih =>
    rw [List.cons_inj_right, ih (Nat.zero_le 2), List.replicate_zero, List.nil_append,
      Text.infix_append_cons_iff (by simp [other]), not_or, iff_and_self]
    intro apart held
    have bound := held.length_le
    simp only [List.length_cons, List.length_nil, List.length_replicate] at bound
    omega

private theorem limitLineFeeds_eq_self_iff :
    limitLineFeeds 0 s = s ↔ ¬ ['\n', '\n', '\n'] <:+: s :=
  limitLineFeeds_eq_self_iff_replicate (Nat.zero_le 2) s

/-! ## Headings before comments -/

private theorem sectioningName?_append {name : Text} (member : name ∈
      ["chapter".toList, "section".toList, "subsection".toList, "subsubsection".toList])
    (rest : Text) : sectioningName? (name ++ '\x7b' :: rest) = some (name, rest) := by
  simp only [List.mem_cons, List.not_mem_nil, or_false] at member
  rcases member with rfl | rfl | rfl | rfl <;> rfl

private theorem isHeading_of_headingThenComment? {rest : Text}
    (read : headingThenComment? s = some (heading, rest)) : IsHeading heading := by
  simp only [headingThenComment?, Option.bind_eq_bind, Option.bind_eq_some_iff, Prod.exists] at read
  obtain ⟨_, _, -, name, behind, named, _, _, -, same⟩ := read
  cases same
  obtain ⟨found, member, start⟩ := List.exists_of_findSome?_eq_some named
  split at start
  · cases start
    exact ⟨name, member, _, fun c inside => List.all_eq_true.mp List.all_takeWhile c inside, rfl⟩
  · cases start

/-- A heading and the comment behind it are read where a heading, an empty line and a percent sign
stand, and nowhere else. -/
theorem headingThenComment?_eq_some_iff {rest : Text} :
    headingThenComment? s = some (heading, rest) ↔
      IsHeading heading ∧ s = heading ++ '\n' :: '\n' :: '%' :: rest := by
  refine ⟨fun read => ⟨isHeading_of_headingThenComment? read,
    eq_of_headingThenComment?_eq_some read⟩, ?_⟩
  rintro ⟨⟨name, member, title, inside, rfl⟩, rfl⟩
  have whole : command name title ++ '\n' :: '\n' :: '%' :: rest =
      ['\\'] ++ (name ++ '\x7b' :: (title ++ "\x7d\n\n%".toList ++ rest)) := by
    simp [command]
  have stop : isTitleChar '\x7d' = false := by decide
  have front : (title ++ "\x7d\n\n%".toList ++ rest).takeWhile isTitleChar = title := by
    rw [List.append_assoc, List.takeWhile_append_of_pos inside]
    exact List.append_nil title
  have behind : (title ++ "\x7d\n\n%".toList ++ rest).dropWhile isTitleChar =
      "\x7d\n\n%".toList ++ rest := by
    rw [List.append_assoc, List.dropWhile_append_of_pos inside]
    rfl
  rw [whole, headingThenComment?, Option.bind_eq_bind, Scanner.literal_append, Option.bind_some]
  simp only [sectioningName?_append member, Option.bind_eq_bind, Option.bind_some, front, behind,
    Scanner.literal_append]

private theorem length_lt_of_headingThenComment? (s heading rest : Text)
    (read : headingThenComment? s = some (heading, rest)) :
    (heading ++ ['\n', '%'] ++ rest).length < s.length := by
  rw [eq_of_headingThenComment?_eq_some read]
  simp only [List.length_append, List.length_cons, List.length_nil]
  omega

private theorem shrinks_joinHeadingComments : Shrinks joinHeadingComments :=
  Scanner.shrinks_replaceAll length_lt_of_headingThenComment?

/-- Joining comments to headings changes nothing exactly when no empty line stands between the two.
-/
theorem joinHeadingComments_eq_self_iff : joinHeadingComments s = s ↔
    ∀ heading, IsHeading heading → ¬ heading ++ ['\n', '\n', '%'] <:+: s := by
  refine (Scanner.replaceAll_eq_self_iff length_lt_of_headingThenComment?).trans ⟨?_, ?_⟩
  · rintro absent heading isHeading ⟨front, behind, rfl⟩
    have here := absent (heading ++ '\n' :: '\n' :: '%' :: behind)
      ⟨front, by simp only [List.append_assoc, List.cons_append, List.nil_append]⟩
    rw [headingThenComment?_eq_some_iff.mpr ⟨isHeading, rfl⟩] at here
    cases here
  · intro apart part suffix
    cases read : headingThenComment? part with
    | none => rfl
    | some found =>
      obtain ⟨isHeading, rfl⟩ := headingThenComment?_eq_some_iff.mp read
      refine absurd (List.IsInfix.trans ⟨[], found.2, ?_⟩ suffix.isInfix) (apart found.1 isHeading)
      simp only [List.append_assoc, List.cons_append, List.nil_append]

/-- Every heading has a letter that no delimiter of a verbatim block ends with. -/
theorem IsHeading.mem (isHeading : IsHeading heading) : 'c' ∈ heading := by
  obtain ⟨name, member, title, -, rfl⟩ := isHeading
  simp only [List.mem_cons, List.not_mem_nil, or_false] at member
  have held : 'c' ∈ name := by rcases member with rfl | rfl | rfl | rfl <;> decide
  simp [command, held]

private theorem IsHeading.newline_not_mem (isHeading : IsHeading heading) : '\n' ∉ heading := by
  obtain ⟨name, member, title, inside, rfl⟩ := isHeading
  simp only [List.mem_cons, List.not_mem_nil, or_false] at member
  have first : '\n' ∉ name := by rcases member with rfl | rfl | rfl | rfl <;> decide
  have second : '\n' ∉ title := fun held => absurd (inside _ held) (by decide)
  simp [command, first, second]

/-- A heading does not reach across the end of a line into another line that is no comment. -/
theorem headingThenComment?_append {part : Text} (nonempty : part ≠ []) (ends : EndsLine part)
    (solid : ∀ c ∈ behind.head?, c ≠ '\n' ∧ c ≠ '%') :
    headingThenComment? (part ++ behind) =
      (headingThenComment? part).map fun found => (found.1, found.2 ++ behind) := by
  cases read : headingThenComment? part with
  | some found =>
    obtain ⟨isHeading, rfl⟩ := headingThenComment?_eq_some_iff.mp read
    refine headingThenComment?_eq_some_iff.mpr ⟨isHeading, ?_⟩
    simp only [List.append_assoc, List.cons_append]
  | none =>
    cases across : headingThenComment? (part ++ behind) with
    | none => rfl
    | some found =>
      exfalso
      obtain ⟨isHeading, whole⟩ := headingThenComment?_eq_some_iff.mp across
      obtain ⟨earlier, rfl⟩ := ends.eq_nil_or.resolve_left nonempty
      rw [List.append_assoc, List.singleton_append] at whole
      obtain ⟨later, rfl, same⟩ :=
        Text.exists_append_of_not_mem isHeading.newline_not_mem whole.symm
      -- The line may end at the first line feed behind the heading, at the second, or later.
      rcases later with _ | ⟨first, _ | ⟨second, _ | ⟨third, later⟩⟩⟩ <;>
        simp only [List.nil_append, List.cons_append, List.cons.injEq, true_and] at same
      · exact (solid '\n' (same ▸ rfl)).1 rfl
      · exact (solid '%' (same.2 ▸ rfl)).2 rfl
      · exact absurd same.2.2.1 (by decide)
      · obtain ⟨rfl, rfl, rfl, -⟩ := same
        have here : headingThenComment?
            (found.1 ++ '\n' :: '\n' :: '%' :: later ++ ['\n']) = some (found.1, later ++ ['\n']) :=
          headingThenComment?_eq_some_iff.mpr ⟨isHeading, by simp⟩
        rw [read] at here
        cases here

/-- A line on which no heading ends stays. -/
theorem joinHeadingComments_line_append (starts : StartsLine behind) (absent : 'c' ∉ line) :
    joinHeadingComments (line ++ behind) = line ++ joinHeadingComments behind := by
  refine Scanner.replaceAll_append_of_none fun part _ suffix => ?_
  cases read : headingThenComment? (part ++ behind) with
  | none => rfl
  | some found =>
    exfalso
    obtain ⟨isHeading, same⟩ := headingThenComment?_eq_some_iff.mp read
    have start : found.1 <+: part ++ behind := ⟨_, same.symm⟩
    have inside : found.1 <+: part := by
      rcases starts.eq_nil_or with rfl | ⟨rest, rfl⟩
      · rwa [List.append_nil] at start
      · exact (Text.prefix_append_cons_iff isHeading.newline_not_mem part rest).mp start
    exact absent (suffix.subset (inside.subset isHeading.mem))

/-- **Cutting at a line.** Headings in front of a line and behind it are joined with comments
without it. -/
theorem joinHeadingComments_append_line (ends : EndsLine front) (starts : StartsLine behind)
    (nonempty : line ≠ []) (whole : '\n' ∉ line) (absent : 'c' ∉ line)
    (solid : '%' ∉ line.head?) :
    joinHeadingComments (front ++ (line ++ behind)) =
      joinHeadingComments front ++ (line ++ joinHeadingComments behind) := by
  rw [← joinHeadingComments_line_append starts absent]
  refine Scanner.replaceAll_append (fun s heading rest read => ?_) (fun s heading rest read => ?_)
    front fun part filled suffix => headingThenComment?_append filled (ends.of_suffix suffix) ?_
  · have less := length_lt_of_headingThenComment? s heading rest read
    rw [List.length_append] at less
    omega
  · rw [eq_of_headingThenComment?_eq_some read]
    exact ⟨heading ++ ['\n', '\n', '%'], by simp⟩
  · obtain ⟨c, line, rfl⟩ := List.exists_cons_of_ne_nil nonempty
    intro d first
    obtain rfl := Option.mem_some_iff.mp first
    exact ⟨fun same => whole (same ▸ List.mem_cons_self), fun same => solid (same ▸ rfl)⟩

/-! ## Blocks -/

/-- Limiting line feeds keeps the end of a line. -/
theorem EndsLine.limitLineFeeds (ends : EndsLine front) : EndsLine (limitLineFeeds 0 front) := by
  have ignores : IgnoresEmptyLines (List.getLast? : Text → Option Char) := fun front behind => by
    simp [List.getLast?_append, List.getLast?_cons_cons]
  have same := ignores.limitLineFeeds 0 [] front fun positive => absurd positive (by decide)
  rw [List.nil_append, List.nil_append] at same
  rwa [EndsLine, same]

/-- Limiting line feeds keeps the start of a line. -/
theorem StartsLine.limitLineFeeds (starts : StartsLine behind) :
    StartsLine (Latex.limitLineFeeds 0 behind) := by
  have ignores : IgnoresEmptyLines (List.head? : Text → Option Char) := fun front behind => by
    rw [List.head?_append, List.head?_append]
    rfl
  have same := ignores.limitLineFeeds 0 [] behind fun positive => absurd positive (by decide)
  rw [List.nil_append, List.nil_append] at same
  rwa [StartsLine, same]

/-- A line opens or closes a verbatim block. -/
def IsBoundary (line : Text) : Prop :=
  line.trim = openEnvironment "verbatim" ∨ line.trim = closeEnvironment "verbatim"

namespace IsBoundary

/-- A line that opens or closes a verbatim block holds no other visible characters. -/
theorem not_mem (boundary : IsBoundary line) {c : Char} (solid : isBlank c = false)
    (absent : c ∉ openEnvironment "verbatim" ++ closeEnvironment "verbatim") : c ∉ line := by
  intro member
  have kept : c ∈ line.trim := Text.mem_stripWhere member solid
  rcases boundary with opens | closes
  · exact absent (List.mem_append_left _ (opens ▸ kept))
  · exact absent (List.mem_append_right _ (closes ▸ kept))

/-- A line that opens or closes a verbatim block is plain. -/
theorem isPlain (boundary : IsBoundary line) : isPlain line = true := by
  have lacks : 'q' ∉ line := boundary.not_mem (by decide) (by decide)
  have visible : line.isAllBlank = false := by
    rw [← Bool.not_eq_true]
    intro blank
    rw [IsBoundary, Text.trim_of_isAllBlank blank] at boundary
    exact absurd boundary (by decide)
  rw [Latex.isPlain, visible]
  simpa using lacks

/-- A line that opens or closes a verbatim block is not empty. -/
theorem nonempty (boundary : IsBoundary line) : line ≠ [] := by
  rintro rfl
  exact absurd boundary.isPlain (by decide)

private theorem verbatimFrom_eq (boundary : IsBoundary line) (inVerbatim other : Bool) :
    verbatimFrom inVerbatim line = verbatimFrom other line := by
  unfold verbatimFrom
  rcases boundary with opens | closes
  · rw [if_pos opens, if_pos opens]
  · rw [if_pos closes, if_pos closes]

/-- A line that opens or closes a verbatim block is repaired to itself. -/
theorem repairedLine_eq (boundary : IsBoundary line) (inVerbatim : Bool) :
    repairedLine inVerbatim line = line := by
  rw [repairedLine, escapeAmpersands_of_not_mem (boundary.not_mem (by decide) (by decide))]
  exact ite_self line

end IsBoundary

/-- **Cutting at a boundary.** What stands in front of a line that opens or closes a verbatim
block and what stands behind it are put right apart. -/
theorem repairFrom_append_boundary (ends : EndsLine front) (starts : StartsLine behind)
    (boundary : IsBoundary line) (whole : '\n' ∉ line) (inVerbatim : Bool) :
    repairFrom inVerbatim (front ++ (line ++ behind)) =
      repairFrom inVerbatim front ++ (line ++
        repairFrom (verbatimFrom inVerbatim line) behind) := by
  have merged := mergeQuotes_append_line ends starts (alone_of_isPlain ends starts boundary.isPlain)
  have escaped := repairAmpersandsFrom_append_line ends.mergeQuotes starts.mergeQuotes whole
    inVerbatim
  rw [boundary.repairedLine_eq, boundary.verbatimFrom_eq _ inVerbatim] at escaped
  have ends' := (ends.mergeQuotes.repairAmpersandsFrom inVerbatim).limitLineFeeds
  have starts' :=
    (starts.mergeQuotes.repairAmpersandsFrom (verbatimFrom inVerbatim line)).limitLineFeeds
  have noPercent : '%' ∉ line.head? := fun first =>
    boundary.not_mem (by decide) (by decide) (List.mem_of_head? first)
  rw [repairFrom, merged, escaped, limitLineFeeds_append_line boundary.nonempty whole,
    joinHeadingComments_append_line ends' starts' boundary.nonempty whole
      (boundary.not_mem (by decide) (by decide)) noPercent]
  rfl

/-- Lines of which none closes the block are left alone in it. -/
theorem repairLines_true {lines : List Text}
    (unclosed : ∀ line ∈ lines, line.trim ≠ closeEnvironment "verbatim") :
    repairLines true lines = lines := by
  induction lines with
  | nil => rfl
  | cons line lines ih =>
    obtain ⟨here, later⟩ := List.forall_mem_cons.mp unclosed
    have goesOn : verbatimFrom true line = true := by
      rw [verbatimFrom, if_neg here]
      exact ite_self true
    rw [repairLines, goesOn, ih later]
    rfl

namespace VerbatimBlock

variable (block : VerbatimBlock)

private theorem splitOn_content : block.content.splitOn '\n' = [] :: (block.inside ++ [[]]) := by
  have cut := Text.splitOn_append_cons '\n' [] (block.inside.flatMap (· ++ ['\n']))
  rw [Text.splitOn_flatMap block.whole] at cut
  exact cut

private theorem endsLine_content : EndsLine block.content :=
  endsLine_flatMap ([] :: block.inside)

private theorem startsLine_content (behind : Text) : StartsLine (block.content ++ behind) :=
  startsLine_cons _

/-- Quotes becoming one close no block. -/
theorem unclosed_mergeQuotes : ∀ line ∈ (mergeQuotes block.content).splitOn '\n',
    line.trim ≠ closeEnvironment "verbatim" := by
  intro line member closes
  have kept : line ∈ plainLines (mergeQuotes block.content) :=
    List.mem_filter.mpr ⟨member, IsBoundary.isPlain (.inr closes)⟩
  rw [plainLines_mergeQuotes] at kept
  obtain ⟨listed, plain⟩ := List.mem_filter.mp kept
  rw [block.splitOn_content] at listed
  rcases List.mem_cons.mp listed with rfl | listed
  · cases plain
  · rcases List.mem_append.mp listed with inside | last
    · exact block.unclosed line inside closes
    · rw [List.mem_singleton.mp last] at plain
      cases plain

private theorem repairFrom_content :
    repairFrom true block.content = repairVerbatim block.content := by
  rw [repairFrom, repairAmpersandsFrom, repairLines_true block.unclosed_mergeQuotes,
    Text.join_splitOn]
  rfl

end VerbatimBlock

private theorem repairVerbatim_eq_self_iff (content : Text) :
    repairVerbatim content = content ↔ Untouched content := by
  have merging := shrinks_mergeQuotes
  have limiting := shrinks_limitLineFeeds 0
  have joining := shrinks_joinHeadingComments
  unfold repairVerbatim
  rw [joining.comp_eq_self_iff (limiting.comp merging), limiting.comp_eq_self_iff merging,
    mergeQuotes_eq_self_iff, limitLineFeeds_eq_self_iff, joinHeadingComments_eq_self_iff]
  exact ⟨fun ⟨⟨quotes, lineFeeds⟩, headings⟩ => ⟨quotes, lineFeeds, headings⟩,
    fun untouched => ⟨⟨untouched.quotes, untouched.lineFeeds⟩, untouched.headings⟩⟩

/-- **Verbatim blocks in a repaired paper.** What stands in front of a block and behind it is put
right without it, the lines that open and close it are kept, and what stands between them is left
as it was written exactly when none of the other repairs finds anything there. -/
theorem repair_block (block : VerbatimBlock) (ends : EndsLine front) (starts : StartsLine behind) :
    repair (front ++ (block.text ++ behind)) =
        repair front ++ (block.opening ++
          (repairVerbatim block.content ++ (block.closing ++ repair behind))) ∧
      (repairVerbatim block.content = block.content ↔ Untouched block.content) := by
  refine ⟨?_, repairVerbatim_eq_self_iff block.content⟩
  have cut : front ++ (block.text ++ behind) =
      front ++ (block.opening ++ (block.content ++ (block.closing ++ behind))) := by
    simp only [VerbatimBlock.text, List.append_assoc]
  have opened : verbatimFrom false block.opening = true := if_pos block.opens
  have closed : verbatimFrom true block.closing = false := by
    rw [verbatimFrom, if_neg, if_pos block.closes]
    rw [block.closes]
    decide
  have first := repairFrom_append_boundary ends
    (block.startsLine_content (block.closing ++ behind)) (.inl block.opens) block.single.1 false
  have second := repairFrom_append_boundary block.endsLine_content starts (.inr block.closes)
    block.single.2 true
  rw [opened, second, closed, block.repairFrom_content] at first
  rw [cut]
  exact first

/-- A block on lines of its own, with text on the lines around it. -/
theorem repair_block_betweenLines :
    let block := VerbatimBlock.ofCode "a & b".toList (by decide)
    EndsLine "x\n".toList ∧ StartsLine "\ny".toList ∧
      repair ("x\n".toList ++ (block.text ++ "\ny".toList)) =
          repair "x\n".toList ++ (block.opening ++
            (repairVerbatim block.content ++ (block.closing ++ repair "\ny".toList))) ∧
        (repairVerbatim block.content = block.content ↔ Untouched block.content) := by
  intro block
  have ends : EndsLine "x\n".toList := fun c last => Option.mem_some_iff.mp last |>.symm
  have starts : StartsLine "\ny".toList := fun c first => Option.mem_some_iff.mp first |>.symm
  exact ⟨ends, starts, repair_block block ends starts⟩

/-- Two blank lines in a row become one, in a verbatim block as elsewhere. -/
theorem repair_block_twoBlankLines :
    let block := VerbatimBlock.ofCode "a\n\n\nb".toList (by decide)
    repair block.text = "\\begin\x7bverbatim\x7d\na\n\nb\n\\end\x7bverbatim\x7d".toList ∧
      repair block.text ≠ block.text := by
  intro block
  have repaired : repair block.text =
      "\\begin\x7bverbatim\x7d\na\n\nb\n\\end\x7bverbatim\x7d".toList := by
    decide +kernel
  refine ⟨repaired, ?_⟩
  rw [repaired]
  decide

end Scriptorium.Latex
