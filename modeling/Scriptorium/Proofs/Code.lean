import Mathlib.Data.List.DropRight
import Scriptorium.Proofs.Abstract
import Scriptorium.Proofs.Body
import Scriptorium.Proofs.Fence
import Scriptorium.Proofs.Latex.Conservation
/-! # Fenced code in the sections of a document

The chunks and the paragraphs of a body are cut outside of fences, so the lines inside of a
fence stand together in the content of one paragraph (`Paragraph.exists_of_fenceAt`). The heading
of a chunk, however, is read from the first line that looks like one, and that line may be code.
Then it is missing from the code. No heading is read from code and all code is shown exactly when
each fence with such a line inside has a heading in front, in its chunk
(`Document.showsCode_iff`).
-/

namespace Scriptorium

open Line (FenceAt endsFenced headingText? isComment isFence)

variable {lines front inside rest behind part chunk : List Text} {opening line : Text}

/-! ## Lines that are read again -/

/-- The lines inside of a fence as they are read again: without a carriage return at the end of
each. An empty line at the end of a text is none. -/
def insideAgain (inside rest : List Text) : List Text :=
  if rest = [] then (Text.joinLines inside).lines else inside.map Text.withoutReturn

/-- The lines inside of a fence that a paragraph shows. Comments at the end of a fence that is not
closed are annotations. -/
def shownLines (inside rest : List Text) : List Text :=
  if rest = [] then inside.rdropWhile isComment else inside

private theorem Text.lines_joinLines_append (whole : ∀ line ∈ front, '\n' ∉ line)
    (filled : lines ≠ []) :
    (joinLines (front ++ lines)).lines = front.map withoutReturn ++ (joinLines lines).lines := by
  induction front with
  | nil => rfl
  | cons line front ih =>
    obtain ⟨here, later⟩ := List.forall_mem_cons.mp whole
    obtain ⟨next, others, split⟩ :=
      List.exists_cons_of_ne_nil (List.append_ne_nil_of_right_ne_nil front filled)
    rw [List.cons_append, split, lines_joinLines_cons here, ← split, ih later]
    rfl

namespace Line

private theorem isFence_withoutReturn (line : Text) :
    isFence line.withoutReturn.trimStart = isFence line.trimStart := by
  rw [← isFence_withoutReturns, Text.withoutReturns_withoutReturn, isFence_withoutReturns]

private theorem endsFenced_map_withoutReturn (inFence : Bool) (lines : List Text) :
    endsFenced inFence (lines.map Text.withoutReturn) = endsFenced inFence lines := by
  rw [endsFenced, List.foldl_map]
  simp only [isFence_withoutReturn]
  rfl

/-- A fence in front of lines is read again as one. -/
theorem exists_lines_joinLines_cons (fence : isFence line.trimStart = true) (whole : '\n' ∉ line)
    (lines : List Text) : ∃ line', isFence line'.trimStart = true ∧
      (Text.joinLines (line :: lines)).lines = line' :: (Text.joinLines lines).lines := by
  cases lines with
  | nil =>
    refine ⟨line, fence, ?_⟩
    have filled : line ≠ [] := by
      rintro rfl
      cases fence
    rw [Text.joinLines, Text.join, List.intercalate_singleton, Text.lines_of_not_mem whole filled]
    rfl
  | cons next rest =>
    exact ⟨line.withoutReturn, (isFence_withoutReturn line).trans fence,
      Text.lines_joinLines_cons whole next rest⟩

/-- Lines that are no fences are read again as such. -/
theorem plain_lines_joinLines (whole : ∀ line ∈ lines, '\n' ∉ line)
    (plain : ∀ line ∈ lines, isFence line.trimStart = false) :
    ∀ line ∈ (Text.joinLines lines).lines, isFence line.trimStart = false := by
  rcases List.eq_nil_or_concat lines with rfl | ⟨front, last, rfl⟩
  · exact List.forall_mem_nil _
  · rw [List.concat_eq_append, List.forall_mem_append, List.forall_mem_singleton] at whole plain
    rw [List.concat_eq_append, Text.lines_joinLines_append whole.1 (List.cons_ne_nil _ _),
      List.forall_mem_append, List.forall_mem_map]
    refine ⟨fun line member => (isFence_withoutReturn line).trans (plain.1 line member), ?_⟩
    rw [Text.joinLines, Text.join, List.intercalate_singleton]
    rcases eq_or_ne last [] with rfl | filled
    · exact List.forall_mem_nil _
    · rw [Text.lines_of_not_mem whole.2 filled]
      exact List.forall_mem_singleton.mpr plain.2

/-- **A fence is read again** as one. -/
theorem FenceAt.again (fence : FenceAt lines front opening inside rest)
    (whole : ∀ line ∈ lines, '\n' ∉ line) : ∃ opening' rest', (rest' = [] ↔ rest = []) ∧
      FenceAt (Text.joinLines lines).lines (front.map Text.withoutReturn) opening'
        (insideAgain inside rest) rest' := by
  have outside := (endsFenced_map_withoutReturn false front).trans fence.outside
  rw [fence.whole, List.forall_mem_append, List.forall_mem_cons, List.forall_mem_append] at whole
  obtain ⟨inFront, atOpening, within, later⟩ := whole
  obtain ⟨opening', opens, split⟩ :=
    exists_lines_joinLines_cons fence.opens atOpening (inside ++ rest)
  rw [fence.whole, Text.lines_joinLines_append inFront (List.cons_ne_nil _ _), split]
  cases rest with
  | nil =>
    refine ⟨opening', [], Iff.rfl, ?_, outside, opens, ?_, fun _ first => nomatch first⟩
    · rw [insideAgain, if_pos rfl, List.append_nil, List.append_nil]
    · rw [insideAgain, if_pos rfl]
      exact plain_lines_joinLines within fence.plain
  | cons closing rest =>
    obtain ⟨closing', closes, split'⟩ := exists_lines_joinLines_cons (fence.closes closing rfl)
      (later closing List.mem_cons_self) rest
    refine ⟨opening', closing' :: (Text.joinLines rest).lines, ?_, ?_, outside, opens, ?_, ?_⟩
    · simp only [List.cons_ne_nil]
    · rw [insideAgain, if_neg (List.cons_ne_nil _ _),
        Text.lines_joinLines_append within (List.cons_ne_nil _ _), split']
    · rw [insideAgain, if_neg (List.cons_ne_nil _ _), List.forall_mem_map]
      exact fun line member => (isFence_withoutReturn line).trans (fence.plain line member)
    · rintro _ ⟨⟩
      exact closes

/-- A line in a fence is inside of the one that is open in front of it. -/
theorem exists_fenceAt_of_endsFenced (fenced : endsFenced false front = true)
    (plain : isFence line.trimStart = false) (behind : List Text) :
    ∃ lead opening inside tail rest, front = lead ++ opening :: inside ∧
      FenceAt (front ++ line :: behind) lead opening (inside ++ line :: tail) rest := by
  rcases exists_last (fun line => isFence line.trimStart) front with
    none | ⟨lead, opening, inside, rfl, opens, within⟩
  · rw [endsFenced_of_none none] at fenced
    cases fenced
  · refine ⟨lead, opening, inside, behind.takeWhile (!isFence ·.trimStart),
      behind.dropWhile (!isFence ·.trimStart), rfl, ?_, ?_, opens, ?_, ?_⟩
    · simp only [List.append_assoc, List.cons_append, List.takeWhile_append_dropWhile]
    · rw [endsFenced_append, endsFenced_cons, opens, Bool.bne_true, endsFenced_of_none within,
        Bool.not_eq_true'] at fenced
      exact fenced
    · rw [List.forall_mem_append, List.forall_mem_cons]
      refine ⟨within, plain, fun other member => ?_⟩
      simpa using List.mem_takeWhile_imp member
    · intro closing first
      simpa using eq_false_of_mem_head?_dropWhile first

end Line

/-! ## Paragraphs -/

namespace Paragraph

private theorem middle_eq_rdropWhile (lines : List Text) :
    middle lines = (withoutLead lines).rdropWhile isComment :=
  List.append_cancel_right
    ((middle_append_trail lines).trans (List.rdropWhile_append_rtakeWhile).symm)

private theorem rdropWhile_append_cons {α : Type} {p : α → Bool} {a : α} (other : p a = false)
    (front back : List α) :
    (front ++ a :: back).rdropWhile p = front ++ a :: back.rdropWhile p := by
  rw [List.rdropWhile, List.reverse_append, List.reverse_cons, List.append_assoc,
    List.singleton_append, Text.dropWhile_append_cons other, List.reverse_append,
    List.reverse_cons, List.reverse_reverse, List.append_assoc, List.singleton_append]
  rfl

/-- Only a fence at the end is left out of code. -/
theorem infix_codeLines (plain : ∀ line ∈ part, isFence line.trimStart = false)
    (within : part <:+: lines) : part <:+: codeLines lines := by
  obtain ⟨front, behind, rfl⟩ := within
  unfold codeLines
  rcases List.eq_nil_or_concat behind with rfl | ⟨behind, last, rfl⟩
  · rcases List.eq_nil_or_concat part with rfl | ⟨part, last, rfl⟩
    · exact List.nil_infix
    · -- The last line is one of the part.
      rw [List.concat_eq_append] at plain ⊢
      have unfenced : ¬ isFence last.trimStart = true :=
        Bool.eq_false_iff.mp (plain last (List.mem_append_right _ List.mem_cons_self))
      rw [List.append_nil, ← List.append_assoc, List.getLast?_concat]
      dsimp only
      rw [if_neg unfenced, List.append_assoc]
      exact (List.suffix_append front _).isInfix
  · rw [List.concat_eq_append, ← List.append_assoc, List.getLast?_concat, List.dropLast_concat]
    dsimp only
    split
    · exact List.infix_append front part behind
    · rw [List.append_assoc]
      exact List.infix_append front part (behind ++ [last])

/-- Lines without fences behind a line of a block are shown in its content. -/
theorem infix_splitOn_content (whole : ∀ line ∈ lines, '\n' ∉ line)
    (plain : ∀ line ∈ part, isFence line.trimStart = false) (within : line :: part <:+: lines) :
    part <:+: Text.splitOn '\n' (bodyOf lines).2 := by
  cases lines with
  | nil => cases List.infix_nil.mp within
  | cons first others =>
    cases fence : Line.fence? first.trimStart with
    | none =>
      have plain : Line.fence? ((first :: others).head?.getD []).trimStart = none := fence
      rw [(bodyOf_of_none plain).1, Text.joinLines, Text.splitOn_join (List.cons_ne_nil _ _) whole]
      exact (List.suffix_cons line part).isInfix.trans within
    | some found =>
      have later : part <:+: others := by
        rcases List.infix_cons_iff.mp within with start | within
        · exact (List.cons_prefix_cons.mp start).2.isInfix
        · exact (List.suffix_cons line part).isInfix.trans within
      have shown := infix_codeLines plain later
      rw [bodyOf_of_fence first fence]
      rcases eq_or_ne (codeLines others) [] with none | filled
      · rw [none] at shown
        rw [List.infix_nil.mp shown]
        exact List.nil_infix
      · rw [Text.joinLines, Text.splitOn_join filled]
        · exact shown
        · intro line member
          have split := codeLines_append_closingFence others
          refine whole line (List.mem_cons_of_mem _ ?_)
          rw [← split]
          exact List.mem_append_left _ member

/-- The middle of a block that holds a fence. -/
theorem exists_middle_of_fence (opens : isFence opening.trimStart = true) (lead inside : List Text)
    {tail : List Text} (closes : ∀ line ∈ tail.head?, isFence line.trimStart = true) :
    ∃ after, middle (lead ++ opening :: (inside ++ tail)) = withoutLead lead ++
      opening :: (shownLines inside tail ++ after) := by
  rw [middle_eq_rdropWhile, withoutLead, shownLines,
    Text.dropWhile_append_cons (Line.not_isComment_of_isFence opens),
    rdropWhile_append_cons (Line.not_isComment_of_isFence opens)]
  cases tail with
  | nil => exact ⟨[], by rw [if_pos rfl, List.append_nil, List.append_nil]; rfl⟩
  | cons closing tail =>
    have solid := Line.not_isComment_of_isFence (closes closing rfl)
    exact ⟨_, by rw [if_neg (List.cons_ne_nil _ _), rdropWhile_append_cons solid]; rfl⟩

/-- **The lines inside of a fence** stand together in the content of one paragraph. -/
theorem exists_of_fenceAt {text : Text} (fence : FenceAt text.lines front opening inside rest) :
    ∃ paragraph ∈ split text, paragraph.kind ≠ .comment ∧
      shownLines inside rest <:+: Text.splitOn '\n' paragraph.content := by
  obtain ⟨_, member, lead, tail, rfl, same⟩ := exists_part_of_fenceAt Text.isAllBlank fence
  have closes : ∀ line ∈ tail.head?, isFence line.trimStart = true := by
    rw [same]
    exact fence.closes
  have unclosed : tail = [] ↔ rest = [] := by
    rw [← List.head?_eq_none_iff, same, List.head?_eq_none_iff]
  rw [← blocks_eq_cutOutside] at member
  have listed : lead ++ opening :: (inside ++ tail) ∈
      (blocks false text.lines).filter (!·.isEmpty) :=
    List.mem_filter.mpr ⟨member, by simp⟩
  have filled : withoutLead (lead ++ opening :: (inside ++ tail)) ≠ [] := by
    rw [withoutLead, Text.dropWhile_append_cons (Line.not_isComment_of_isFence fence.opens)]
    exact List.append_ne_nil_of_right_ne_nil _ (List.cons_ne_nil _ _)
  refine ⟨_, List.mem_map_of_mem listed, ?_, ?_⟩
  · rcases ofLines_cases (lead ++ opening :: (inside ++ tail)) with ⟨empty, -⟩ | ⟨-, kind⟩
    · exact absurd empty filled
    · exact kind
  · have whole := not_mem_of_mem_blocks text _ listed
    have split := middle_append_trail (lead ++ opening :: (inside ++ tail))
    obtain ⟨after, cut⟩ := exists_middle_of_fence fence.opens lead inside closes
    have within : opening :: shownLines inside tail <:+:
        middle (lead ++ opening :: (inside ++ tail)) := by
      rw [cut]
      exact ⟨withoutLead lead, after, by rw [List.append_assoc, List.cons_append]⟩
    rw [ofLines_of_ne_nil filled, shownLines, ← if_congr unclosed rfl rfl, ← shownLines]
    refine infix_splitOn_content (fun line member => ?_) (fun line member => ?_) within
    · refine whole line ((List.dropWhile_suffix isComment).subset ?_)
      rw [← withoutLead, ← split]
      exact List.mem_append_left _ member
    · refine fence.plain line ?_
      rw [shownLines] at member
      split at member
      · exact (List.rdropWhile_prefix _ _).subset member
      · exact member

end Paragraph

/-! ## Headings -/

/-- Whether a line is a heading. -/
def Line.isHeading (line : Text) : Bool :=
  (headingText? line).isSome

private theorem Line.isHeading_of_isFence (fence : isFence line.trimStart = true) :
    isHeading line = false := by
  rw [isHeading, headingText?_of_isFence fence]
  rfl

private theorem Line.heading?_eq_none (plain : isHeading line = false) :
    heading? line.trim = none := by
  rw [isHeading, headingText?, Option.isSome_map, Option.isSome_eq_false_iff,
    Option.isNone_iff_eq_none] at plain
  exact plain

namespace Section

/-- A section without the keywords that were added to it. -/
def bare : Section → Section
  | .abstract paragraphs _ => .abstract paragraphs []
  | item => item

private theorem paragraphs_bare (item : Section) : item.bare.paragraphs = item.paragraphs := by
  cases item <;> rfl

end Section

namespace Document

open Line (isHeading)

variable {metadata : Metadata} {citations : CitationTable} {body : Text} {item : Section}
  {heading : Nat × Text}

/-- The line that the heading of a chunk is read from: the first one that is a heading. -/
structure HeadedBy (chunk : List Text) (heading : Nat × Text) (front : List Text) (line : Text)
    (behind : List Text) : Prop where
  whole : chunk = front ++ line :: behind
  first : ∀ other ∈ front, isHeading other = false
  read : (Line.heading? line.trim).map Prod.fst = some heading

/-- The line that a chunk is headed by is a heading. -/
theorem HeadedBy.named (headed : HeadedBy chunk heading front line behind) :
    isHeading line = true := by
  obtain ⟨found, same, -⟩ := Option.map_eq_some_iff.mp headed.read
  rw [Line.isHeading, headingText?, same]
  rfl

private theorem heading_cases (chunk : List Text) : (∀ line ∈ chunk, isHeading line = false) ∨
    ∃ heading front line behind, HeadedBy chunk heading front line behind := by
  cases first : chunk.find? isHeading with
  | none =>
    left
    intro line member
    exact Bool.eq_false_iff.mpr (List.find?_eq_none.mp first line member)
  | some line =>
    right
    obtain ⟨named, front, behind, split, none⟩ := List.find?_eq_some_iff_append.mp first
    rw [Line.isHeading, headingText?, Option.isSome_map] at named
    obtain ⟨⟨heading, rest⟩, read⟩ := Option.isSome_iff_exists.mp named
    exact ⟨heading, front, line, behind, split, by simpa using none, by rw [read]; rfl⟩

private theorem firstHeading?_of_none (none : ∀ line ∈ chunk, isHeading line = false) :
    firstHeading? chunk = .none := by
  induction chunk with
  | nil => rfl
  | cons line lines ih =>
    obtain ⟨here, later⟩ := List.forall_mem_cons.mp none
    rw [firstHeading?, Line.heading?_eq_none here, ih later]
    rfl

private theorem firstHeading?_of_headedBy (headed : HeadedBy chunk heading front line behind) :
    firstHeading? chunk = some (heading, front ++ behind) := by
  obtain ⟨rfl, first, read⟩ := headed
  induction front with
  | nil =>
    obtain ⟨⟨_, rest⟩, found, rfl⟩ := Option.map_eq_some_iff.mp read
    rw [List.nil_append, firstHeading?, found]
    rfl
  | cons other front ih =>
    obtain ⟨here, later⟩ := List.forall_mem_cons.mp first
    rw [List.cons_append, firstHeading?, Line.heading?_eq_none here, ih later]
    rfl

/-- The lines of a chunk without the one that its heading is read from. -/
def otherLines (chunk : List Text) : List Text :=
  chunk.eraseP isHeading

private theorem otherLines_of_none (none : ∀ line ∈ chunk, isHeading line = false) :
    otherLines chunk = chunk :=
  List.eraseP_of_forall_not fun line member => Bool.eq_false_iff.mp (none line member)

private theorem otherLines_append_of_none (none : ∀ line ∈ front, isHeading line = false)
    (behind : List Text) : otherLines (front ++ behind) = front ++ otherLines behind :=
  List.eraseP_append_right behind fun line member => Bool.eq_false_iff.mp (none line member)

private theorem otherLines_of_headedBy (headed : HeadedBy chunk heading front line behind) :
    otherLines chunk = front ++ behind := by
  rw [headed.whole, otherLines_append_of_none headed.first, otherLines,
    List.eraseP_cons_of_pos headed.named]

/-- A heading is no fence. -/
theorem HeadedBy.plain (headed : HeadedBy chunk heading front line behind) :
    isFence line.trimStart = false := by
  by_contra fence
  rw [Bool.not_eq_false] at fence
  exact Bool.noConfusion (headed.named.symm.trans (Line.isHeading_of_isFence fence))

private theorem endsFenced_otherLines (inFence : Bool) (lines : List Text) :
    endsFenced inFence (otherLines lines) = endsFenced inFence lines := by
  rcases heading_cases lines with none | ⟨heading, front, line, behind, headed⟩
  · rw [otherLines_of_none none]
  · rw [otherLines_of_headedBy headed, headed.whole, Line.endsFenced_append,
      Line.endsFenced_append, Line.endsFenced_cons, headed.plain, Bool.bne_false]

/-- A fence stays among the lines without the heading of a chunk, unless that is one of the lines
inside. -/
theorem fenceAt_otherLines (fence : FenceAt chunk front opening inside rest)
    (free : (∃ line ∈ front, isHeading line = true) ∨ ∀ line ∈ inside, isHeading line = false) :
    ∃ front' rest', (rest' = [] ↔ rest = []) ∧
      FenceAt (otherLines chunk) front' opening inside rest' := by
  by_cases named : ∃ line ∈ front, isHeading line = true
  · obtain ⟨line, member, isHeading⟩ := named
    have outside := (endsFenced_otherLines false front).trans fence.outside
    refine ⟨otherLines front, rest, Iff.rfl, ?_, outside, fence.opens, fence.plain, fence.closes⟩
    rw [fence.whole]
    exact List.eraseP_append_left isHeading _ member
  · have inFront : ∀ line ∈ front, isHeading line = false := by simpa using named
    have solid : ∀ line ∈ opening :: inside, isHeading line = false :=
      List.forall_mem_cons.mpr
        ⟨Line.isHeading_of_isFence fence.opens, free.resolve_left named⟩
    have closes : (otherLines rest).head? = rest.head? := by
      cases rest with
      | nil => rfl
      | cons closing rest =>
        have noHeading := Line.isHeading_of_isFence (fence.closes closing rfl)
        rw [otherLines, List.eraseP_cons_of_neg (Bool.eq_false_iff.mp noHeading)]
        rfl
    refine ⟨front, otherLines rest, ?_, ?_, fence.outside, fence.opens, fence.plain, ?_⟩
    · rw [← List.head?_eq_none_iff, closes, List.head?_eq_none_iff]
    · rw [fence.whole, otherLines_append_of_none inFront, ← List.cons_append,
        otherLines_append_of_none solid, List.cons_append]
    · rw [closes]
      exact fence.closes

/-! ## Sections -/

private theorem paragraphs_titleSection (metadata : Metadata) (chunk : List Text) :
    (titleSection metadata chunk).paragraphs =
      Paragraph.split (Text.joinLines (otherLines chunk)) := by
  rcases heading_cases chunk with none | ⟨heading, front, line, behind, headed⟩
  · rw [titleSection, firstHeading?_of_none none, otherLines_of_none none]
    dsimp only
    split <;> rfl
  · rw [titleSection, firstHeading?_of_headedBy headed, otherLines_of_headedBy headed]
    dsimp only
    split <;> rfl

/-- A later section that is no keywords has the paragraphs of its chunk, or those that are no
comments. -/
theorem mem_paragraphs_sectionOf {paragraph : Paragraph}
    (other : (sectionOf citations chunk).keywords? = none)
    (member : paragraph ∈ Paragraph.split (Text.joinLines (otherLines chunk)))
    (kind : paragraph.kind ≠ .comment) : paragraph ∈ (sectionOf citations chunk).paragraphs := by
  unfold sectionOf at other ⊢
  generalize "abstract".toList = abstract, "keywords".toList = keywords,
    "Bibliography".toList = bibliography at other ⊢
  rcases heading_cases chunk with none | ⟨⟨depth, text⟩, front, line, behind, headed⟩
  · rw [firstHeading?_of_none none]
    rwa [otherLines_of_none none] at member
  · rw [otherLines_of_headedBy headed] at member
    rw [firstHeading?_of_headedBy headed] at other ⊢
    dsimp only at other ⊢
    by_cases isAbstract : text.toLower.startsWith abstract = true
    · rwa [if_pos isAbstract]
    · by_cases isKeywords : text.toLower.startsWith keywords = true
      · rw [if_neg isAbstract, if_pos isKeywords] at other
        cases other
      · rw [if_neg isAbstract, if_neg isKeywords]
        split
        · refine List.mem_append_left _ (List.mem_filter.mpr ⟨member, ?_⟩)
          exact bne_iff_ne.mpr kind
        · exact member

/-- The section of a chunk by itself: the first one is the title. -/
inductive OwnSection (metadata : Metadata) (citations : CitationTable) :
    List (List Text) → List Text → Section → Prop where
  | title (first : List Text) (others : List (List Text)) :
    OwnSection metadata citations (first :: others) first (.title (titleSection metadata first))
  | later {first chunk : List Text} {others : List (List Text)} (member : chunk ∈ others) :
    OwnSection metadata citations (first :: others) chunk (sectionOf citations chunk)

/-- What has a section of its own is a chunk. -/
theorem OwnSection.mem {chunks : List (List Text)}
    (own : OwnSection metadata citations chunks chunk item) : chunk ∈ chunks := by
  cases own with
  | title => exact List.mem_cons_self
  | later member => exact List.mem_cons_of_mem _ member

/-- A section that no keywords were added to is bare. -/
theorem OwnSection.bare {chunks : List (List Text)}
    (own : OwnSection metadata citations chunks chunk item) : item.bare = item := by
  cases own with
  | title => rfl
  | later =>
    cases kind : sectionOf citations chunk with
    | abstract => rw [Section.bare, eq_nil_of_sectionOf_eq_abstract kind]
    | _ => rfl

/-- Every section but keywords stands in the document. -/
theorem OwnSection.exists_placed
    (own : OwnSection metadata citations (chunks false body.lines) chunk item)
    (other : item.keywords? = none) :
    ∃ placed ∈ (build metadata citations body).sections, placed.bare = item := by
  obtain ⟨first, later, leading, parts, cut, split, -, -, -, sections⟩ :=
    sections_build metadata citations body
  rw [cut] at own
  have bare := own.bare
  rw [sections]
  cases own with
  | title => exact ⟨_, List.mem_cons_self, rfl⟩
  | later member =>
    have listed : sectionOf citations chunk ∈ leading ++ parts.flatMap AbstractPart.apart := by
      rw [← split]
      exact List.mem_map_of_mem member
    rcases List.mem_append.mp listed with stands | stands
    · exact ⟨_, List.mem_cons_of_mem _ (List.mem_append_left _ (List.mem_append_left _ stands)),
        bare⟩
    · obtain ⟨part, inside, stands⟩ := List.mem_flatMap.mp stands
      obtain ⟨placed, attached, same⟩ : ∃ placed ∈ part.attached,
          placed.bare = sectionOf citations chunk := by
        rcases List.mem_cons.mp stands with isAbstract | stands
        · exact ⟨_, List.mem_cons_self, isAbstract.symm⟩
        · refine ⟨_, List.mem_cons_of_mem _ (List.mem_filter.mpr ⟨stands, ?_⟩), bare⟩
          rw [other]
          rfl
      exact ⟨placed, List.mem_cons_of_mem _ (List.mem_append_left _ (List.mem_append_right _
        (List.mem_flatMap.mpr ⟨part, inside, attached⟩))), same⟩

/-- **Each fence of a chunk** is shown by its section, unless the heading is one of the lines
inside. -/
theorem exists_paragraph_of_fenceAt {chunks : List (List Text)}
    (own : OwnSection metadata citations chunks chunk item) (other : item.keywords? = none)
    (whole : ∀ line ∈ chunk, '\n' ∉ line) (fence : FenceAt chunk front opening inside rest)
    (free : (∃ line ∈ front, isHeading line = true) ∨ ∀ line ∈ inside, isHeading line = false) :
    ∃ paragraph ∈ item.paragraphs, shownLines (insideAgain inside rest) rest <:+:
      Text.splitOn '\n' paragraph.content := by
  obtain ⟨front', rest', same, kept⟩ := fenceAt_otherLines fence free
  have whole' : ∀ line ∈ otherLines chunk, '\n' ∉ line :=
    fun line member => whole line (List.eraseP_subset member)
  obtain ⟨opening', rest'', same', again⟩ := kept.again whole'
  obtain ⟨paragraph, member, kind, shown⟩ := Paragraph.exists_of_fenceAt again
  have alike : shownLines (insideAgain inside rest') rest'' =
      shownLines (insideAgain inside rest) rest := by
    simp only [shownLines, insideAgain, same', same]
  rw [alike] at shown
  refine ⟨paragraph, ?_, shown⟩
  cases own with
  | title =>
    rw [Section.paragraphs, paragraphs_titleSection]
    exact member
  | later => exact mem_paragraphs_sectionOf other member kind

/-- Every heading is read from a line outside of fences. No fence is open in front of a chunk. -/
def HeadingsOutsideCode (body : Text) : Prop :=
  ∀ chunk ∈ chunks false body.lines, ∀ heading others,
    firstHeading? chunk = some (heading, others) →
      ∃ before front line behind after, body.lines = before ++ (chunk ++ after) ∧
        endsFenced false before = false ∧ HeadedBy chunk heading front line behind ∧
        others = front ++ behind ∧ endsFenced false front = false

/-- Every section but keywords stands in the document, and the lines inside each fence of its
chunk stand together in the content of one of its paragraphs. -/
def ShowsCode (metadata : Metadata) (citations : CitationTable) (body : Text) : Prop :=
  ∀ chunk item, OwnSection metadata citations (chunks false body.lines) chunk item →
    item.keywords? = none → ∃ placed ∈ (build metadata citations body).sections,
      placed.bare = item ∧ ∀ front opening inside rest,
        FenceAt chunk front opening inside rest → ∃ paragraph ∈ placed.paragraphs,
          shownLines (insideAgain inside rest) rest <:+: Text.splitOn '\n' paragraph.content

/-- A fence has a heading inside and none in front of it, in its chunk. -/
def HeadingInCode (body : Text) : Prop :=
  ∃ chunk ∈ chunks false body.lines, ∃ front opening inside rest,
    FenceAt chunk front opening inside rest ∧ (∀ line ∈ front, isHeading line = false) ∧
      ∃ line ∈ inside, isHeading line = true

/-- The heading of a chunk is the first one. -/
theorem HeadedBy.eq_takeWhile (headed : HeadedBy chunk heading front line behind) :
    front = chunk.takeWhile (!isHeading ·) := by
  rw [headed.whole, List.takeWhile_append_of_pos fun other member => by
    rw [headed.first other member]; rfl, List.takeWhile_cons_of_neg (by
    rw [headed.named]; exact Bool.false_ne_true), List.append_nil]

/-- A heading in code is read as one. -/
theorem not_headingsOutsideCode (found : HeadingInCode body) : ¬ HeadingsOutsideCode body := by
  intro outside
  obtain ⟨chunk, member, front, opening, inside, rest, fence, inFront, line, within, named⟩ := found
  rcases heading_cases inside with none | ⟨heading, lead, line, tail, headed⟩
  · rw [none line within] at named
    cases named
  · have code : HeadedBy chunk heading (front ++ opening :: lead) line (tail ++ rest) := by
      refine ⟨?_, ?_, headed.read⟩
      · rw [fence.whole, headed.whole]
        simp only [List.append_assoc, List.cons_append]
      · exact List.forall_mem_append.mpr ⟨inFront, List.forall_mem_cons.mpr
          ⟨Line.isHeading_of_isFence fence.opens, headed.first⟩⟩
    obtain ⟨before, front', line', behind, after, -, -, headed', -, closed⟩ :=
      outside chunk member heading _ (firstHeading?_of_headedBy code)
    have plain : ∀ line ∈ lead, isFence line.trimStart = false := fun line inLead =>
      fence.plain line (headed.whole ▸ List.mem_append_left _ inLead)
    rw [headed'.eq_takeWhile, ← code.eq_takeWhile, Line.endsFenced_append, fence.outside,
      Line.endsFenced_cons, fence.opens, Line.endsFenced_of_none plain] at closed
    cases closed

/-- Without a heading in code, all of them are outside of fences. -/
theorem headingsOutsideCode (free : ¬ HeadingInCode body) : HeadingsOutsideCode body := by
  intro chunk member heading others read
  obtain ⟨before, after, split, closed⟩ :=
    exists_of_mem_cutOutside (chunks_eq_cutOutside false body.lines ▸ member)
  rcases heading_cases chunk with none | ⟨heading', front, line, behind, headed⟩
  · rw [firstHeading?_of_none none] at read
    cases read
  · rw [firstHeading?_of_headedBy headed] at read
    cases read
    refine ⟨before, front, line, behind, after, split, closed, headed, rfl, ?_⟩
    by_contra fenced
    rw [Bool.not_eq_false] at fenced
    obtain ⟨lead, opening, inside, tail, rest, cut, fence⟩ :=
      Line.exists_fenceAt_of_endsFenced fenced headed.plain behind
    rw [← headed.whole] at fence
    refine free ⟨chunk, member, lead, opening, _, rest, fence, fun other inLead => ?_, line,
      List.mem_append_right _ List.mem_cons_self, headed.named⟩
    exact headed.first other (cut ▸ List.mem_append_left _ inLead)

/-- **Code in a document.** No heading is read from code, and all code is shown as it is read,
exactly when no fence has a heading inside and none in front of it, in its chunk. -/
theorem showsCode_iff (metadata : Metadata) (citations : CitationTable) (body : Text) :
    HeadingsOutsideCode body ∧ ShowsCode metadata citations body ↔ ¬ HeadingInCode body := by
  constructor
  · rintro ⟨outside, -⟩ found
    exact not_headingsOutsideCode found outside
  · intro free
    refine ⟨headingsOutsideCode free, fun chunk item own other => ?_⟩
    obtain ⟨placed, stands, same⟩ := own.exists_placed other
    refine ⟨placed, stands, same, fun front opening inside rest fence => ?_⟩
    rw [← Section.paragraphs_bare, same]
    refine exists_paragraph_of_fenceAt own other ?_ fence ?_
    · intro line member
      refine Text.not_mem_of_mem_lines (flatten_chunks_subset false body.lines ?_)
      exact List.mem_flatten_of_mem own.mem member
    · by_contra none
      rw [not_or] at none
      refine free ⟨chunk, own.mem, front, opening, inside, rest, fence, ?_, ?_⟩
      · simpa using none.1
      · simpa using none.2

/-- A body with a comment in a fence that looks like a heading. -/
def codeHeading : Text :=
  "# T\n---\n\x60\x60\x60sh\n# install\nmake\n\x60\x60\x60".toList

/-- The comment becomes the heading of the section, and the code lacks it. -/
theorem headingInCode_codeHeading :
    chunks false codeHeading.lines = [["# T".toList],
        ["\x60\x60\x60sh".toList, "# install".toList, "make".toList, "\x60\x60\x60".toList]] ∧
      FenceAt ["\x60\x60\x60sh".toList, "# install".toList, "make".toList,
        "\x60\x60\x60".toList] [] "\x60\x60\x60sh".toList ["# install".toList, "make".toList]
        ["\x60\x60\x60".toList] ∧
      (build .empty .empty codeHeading).sections = [.title ⟨"T".toList, none, []⟩,
        .content (some ⟨.chapter, "install".toList⟩)
          [⟨.code (some "sh".toList), "make".toList, ⟨[], []⟩⟩]] := by
  refine ⟨by decide, ⟨rfl, rfl, by decide, by decide, by decide⟩,
    by decide⟩

end Document

end Scriptorium
