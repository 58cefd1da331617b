import Mathlib.Data.List.Forall2
import Scriptorium.Proofs.Fence
/-! # Splitting into paragraphs

A block of lines is laid out as comment lines, a fence, the content of its paragraph, a fence and
comment lines again, and only code has the fences (`Paragraph.Shows`). The blocks of a text hold
all of its lines that are not blank, in order, and blank ones only inside of fences
(`blankInFence_of_cutOutside`). The parts of a block are taken by their places, which are in range
whatever the lines are (`Paragraph.ofLines?_eq_some`). So nothing of a text is lost or told twice
(`Paragraph.split_conserves`).
-/

namespace Scriptorium

open Line (endsFenced isFence)

/-! ## Lines and parts -/

section

variable {p : Text → Bool} {inFence : Bool} {lines first part : List Text}
  {others : List (List Text)}

/-- Every line of a part that satisfies `p` and is no fence lies in a fence. The first line of the
part does so or not. -/
def BlankInFence (p : Text → Bool) (inFence : Bool) (part : List Text) : Prop :=
  ∀ front line behind, part = front ++ line :: behind → p line = true →
    isFence line.trimStart = false → endsFenced inFence front = true

private theorem blankInFence_nil (p : Text → Bool) (inFence : Bool) :
    BlankInFence p inFence [] := by
  intro front line behind whole
  simp at whole

/-- **No part goes on behind a line that it should be cut at.** -/
theorem blankInFence_of_cutOutside (cut : cutOutside p inFence lines = first :: others) :
    BlankInFence p inFence first ∧ ∀ part ∈ others, BlankInFence p false part := by
  induction lines generalizing inFence first others with
  | nil =>
    cases cut
    exact ⟨blankInFence_nil p inFence, List.forall_mem_nil _⟩
  | cons line lines ih =>
    rw [cutOutside] at cut
    split at cut
    · rename_i divides
      simp only [Bool.and_eq_true, Bool.not_eq_eq_eq_not, Bool.not_true] at divides
      obtain ⟨⟨rfl, -⟩, -⟩ := divides
      cases cut
      refine ⟨blankInFence_nil p false, fun part member => ?_⟩
      obtain ⟨next, later, cut⟩ := List.exists_cons_of_ne_nil (cutOutside_ne_nil p false lines)
      obtain ⟨here, elsewhere⟩ := ih cut
      rcases List.mem_cons.mp (cut ▸ member) with rfl | member
      · exact here
      · exact elsewhere part member
    · rename_i kept
      obtain ⟨next, later, cut'⟩ := List.exists_cons_of_ne_nil
        (cutOutside_ne_nil p (inFence != isFence line.trimStart) lines)
      obtain ⟨here, elsewhere⟩ := ih cut'
      rw [cut'] at cut
      cases cut
      refine ⟨?_, elsewhere⟩
      rintro (_ | ⟨d, front⟩) other behind whole blank plain
      · cases whole
        simpa [blank, plain] using kept
      · cases whole
        exact here front other behind rfl blank plain

end

/-! ## Parts by their places -/

/-- The part of a list between two places that are in order and in range. -/
def slice? {α : Type} (xs : List α) (start stop : Nat) : Option (List α) :=
  if start ≤ stop ∧ stop ≤ xs.length then some ((xs.take stop).drop start) else none

private theorem slice?_append {α : Type} (front part behind : List α) :
    slice? (front ++ (part ++ behind)) front.length (front.length + part.length) = some part := by
  have bounds : front.length ≤ front.length + part.length ∧
      front.length + part.length ≤ (front ++ (part ++ behind)).length := by
    rw [List.length_append, List.length_append]
    omega
  rw [slice?, if_pos bounds, ← List.length_append, ← List.append_assoc, List.take_left,
    List.drop_left]

private theorem slice?_prefix {α : Type} (part behind : List α) :
    slice? (part ++ behind) 0 part.length = some part := by
  have whole := slice?_append [] part behind
  rwa [List.nil_append, List.length_nil, Nat.zero_add] at whole

private theorem slice?_suffix {α : Type} (front part : List α) :
    slice? (front ++ part) front.length (front ++ part).length = some part := by
  have whole := slice?_append front part []
  rwa [List.append_nil, ← List.length_append] at whole

namespace Paragraph

variable {lines : List Text}

/-- The kind and the content of lines, none of them looked up where there is none. -/
def bodyOf? (lines : List Text) : Option (ParagraphKind × Text) := do
  let first ← lines[0]?
  match Line.fence? first.trimStart with
  | some (info, _) =>
    let inner ← slice? lines 1 lines.length
    some (.code info.words.head?, Text.joinLines (codeLines inner))
  | none => some (bodyOf lines)

/-- The paragraph of a block, if each of its parts lies within the block and its middle has a
first line. -/
def ofLines? (lines : List Text) : Option Paragraph :=
  let lead := (lines.takeWhile Line.isComment).length
  if lead = lines.length then some ⟨.comment, Text.joinLines lines, ⟨[], []⟩⟩
  else do
    let rest ← slice? lines lead lines.length
    let post := (rest.reverse.takeWhile Line.isComment).length
    let stop ← if post ≤ lines.length then some (lines.length - post) else none
    let body ← slice? lines lead stop
    let before ← slice? lines 0 lead
    let after ← slice? lines stop lines.length
    let (kind, content) ← bodyOf? body
    some ⟨kind, content, ⟨before.map Text.trim, after.map Text.trim⟩⟩

/-- A block that is not only comments has a middle. -/
theorem middle_ne_nil (text : withoutLead lines ≠ []) : middle lines ≠ [] := by
  intro empty
  have whole := middle_append_trail lines
  rw [empty, List.nil_append] at whole
  have other : Line.isComment ((withoutLead lines).head text) = false :=
    List.head_dropWhile_not Line.isComment text
  have first : (withoutLead lines).head text ∈ trail (withoutLead lines) :=
    whole.symm ▸ List.head_mem text
  have comment := List.all_eq_true.mp List.all_takeWhile _ (List.mem_reverse.mp first)
  rw [other] at comment
  cases comment

private theorem bodyOf?_eq_some (nonempty : lines ≠ []) : bodyOf? lines = some (bodyOf lines) := by
  obtain ⟨first, others, rfl⟩ := List.exists_cons_of_ne_nil nonempty
  have rest : slice? (first :: others) 1 (first :: others).length = some others :=
    slice?_suffix [first] others
  unfold bodyOf?
  simp only [List.getElem?_cons_zero, Option.bind_eq_bind, Option.bind_some, rest]
  cases fence : Line.fence? first.trimStart with
  | none => rfl
  | some found => rw [bodyOf_of_fence first fence]

/-- **A block becomes a paragraph** whatever its lines are: nothing is looked up out of range. -/
theorem ofLines?_eq_some (lines : List Text) : ofLines? lines = some (ofLines lines) := by
  by_cases empty : withoutLead lines = []
  · have all : (lines.takeWhile Line.isComment).length = lines.length := by
      have whole := List.takeWhile_append_dropWhile (p := Line.isComment) (l := lines)
      rw [withoutLead] at empty
      rw [empty, List.append_nil] at whole
      rw [whole]
    rw [ofLines, empty]
    exact if_pos all
  · have parts := takeWhile_append_middle lines
    have nonempty := middle_ne_nil empty
    have count := congrArg List.length parts
    rw [List.length_append, List.length_append] at count
    have visible := List.length_pos_iff.mpr nonempty
    -- Each part is taken from the place where those in front of it end.
    have rest : slice? lines (lines.takeWhile Line.isComment).length lines.length =
        some (withoutLead lines) := by
      have taken := slice?_suffix (lines.takeWhile Line.isComment) (withoutLead lines)
      rwa [← middle_append_trail, ← parts, middle_append_trail] at taken
    have before : slice? lines 0 (lines.takeWhile Line.isComment).length =
        some (lines.takeWhile Line.isComment) := by
      have taken := slice?_prefix (lines.takeWhile Line.isComment)
        (middle lines ++ trail (withoutLead lines))
      rwa [← parts] at taken
    have body : slice? lines (lines.takeWhile Line.isComment).length
        ((lines.takeWhile Line.isComment).length + (middle lines).length) =
          some (middle lines) := by
      have taken := slice?_append (lines.takeWhile Line.isComment) (middle lines)
        (trail (withoutLead lines))
      rwa [← parts] at taken
    have after : slice? lines
        ((lines.takeWhile Line.isComment).length + (middle lines).length) lines.length =
          some (trail (withoutLead lines)) := by
      have taken := slice?_suffix (lines.takeWhile Line.isComment ++ middle lines)
        (trail (withoutLead lines))
      rwa [List.append_assoc, ← parts, List.length_append] at taken
    have post : ((withoutLead lines).reverse.takeWhile Line.isComment).length =
        (trail (withoutLead lines)).length := List.length_reverse.symm
    have stop : lines.length - (trail (withoutLead lines)).length =
        (lines.takeWhile Line.isComment).length + (middle lines).length := by omega
    rw [ofLines?, if_neg (by omega), ofLines_of_ne_nil empty]
    simp only [Option.bind_eq_bind, rest, Option.bind_some, post]
    rw [if_pos (by omega), stop]
    simp only [Option.bind_some, body, before, after, bodyOf?_eq_some nonempty]

/-! ## What paragraphs show -/

/-- Whether a line is not blank. -/
def isVisible (line : Text) : Bool :=
  !line.isAllBlank

/-- The lines of a block by what becomes of them: comments in front, the fence that opens code,
the content, the fence that closes code, comments behind. -/
structure Layout where
  lead : List Text
  opening : List Text
  content : List Text
  closing : List Text
  trail : List Text

/-- The block that is laid out. -/
def Layout.block (layout : Layout) : List Text :=
  layout.lead ++ (layout.opening ++ (layout.content ++ (layout.closing ++ layout.trail)))

/-- A paragraph shows the lines of a block: its annotations the comments, trimmed, and its
content the lines between them. Code alone stands for two lines more, the fence that opens it and
the last line when that is a fence. -/
structure Shows (layout : Layout) (paragraph : Paragraph) : Prop where
  pre : paragraph.annotations.pre = layout.lead.map Text.trim
  post : paragraph.annotations.post = layout.trail.map Text.trim
  content : paragraph.content = Text.joinLines layout.content
  split : (paragraph.content.splitOn '\n').filter isVisible = layout.content.filter isVisible
  code : ∀ language, paragraph.kind = .code language →
    (∃ fence, layout.opening = [fence] ∧ isFence fence.trimStart = true) ∧
      layout.closing = closingFence (layout.content ++ layout.closing)
  plain : (∀ language, paragraph.kind ≠ .code language) →
    layout.opening = [] ∧ layout.closing = []

/-- Joined lines come apart again, but for the empty line that no lines make. -/
theorem filter_splitOn_joinLines (whole : ∀ line ∈ lines, '\n' ∉ line) :
    ((Text.joinLines lines).splitOn '\n').filter isVisible = lines.filter isVisible := by
  by_cases empty : lines = []
  · rw [empty]
    rfl
  · rw [Text.joinLines, Text.splitOn_join empty whole]

/-- **Every block is shown by its paragraph.** -/
theorem exists_shows (whole : ∀ line ∈ lines, '\n' ∉ line) :
    ∃ layout : Layout, layout.block = lines ∧ Shows layout (ofLines lines) := by
  rcases ofLines_cases lines with ⟨-, comment⟩ | ⟨text, -⟩
  · refine ⟨⟨[], [], lines, [], []⟩, by simp [Layout.block], ?_⟩
    rw [comment]
    exact ⟨rfl, rfl, rfl, filter_splitOn_joinLines whole, nofun, fun _ => ⟨rfl, rfl⟩⟩
  · have parts := takeWhile_append_middle lines
    have within : ∀ line ∈ middle lines, '\n' ∉ line := by
      intro line member
      apply whole line
      rw [parts]
      exact List.mem_append_right _ (List.mem_append_left _ member)
    rw [ofLines_of_ne_nil text]
    cases fence : Line.fence? ((middle lines).head?.getD []).trimStart with
    | none =>
      obtain ⟨content, kind⟩ := bodyOf_of_none fence
      refine ⟨⟨_, [], middle lines, [], _⟩, parts.symm, rfl, rfl, content, ?_, ?_,
        fun _ => ⟨rfl, rfl⟩⟩
      · rw [content]
        exact filter_splitOn_joinLines within
      · intro language code
        dsimp only at code
        rcases kind with kind | kind | ⟨ordered, kind⟩ <;> rw [kind] at code <;> cases code
    | some found =>
      obtain ⟨first, others, cut⟩ := List.exists_cons_of_ne_nil (middle_ne_nil text)
      rw [cut] at fence within parts ⊢
      have body := codeLines_append_closingFence others
      have inside : ∀ line ∈ codeLines others, '\n' ∉ line := fun line member =>
        within line (List.mem_cons_of_mem first (body ▸ List.mem_append_left _ member))
      rw [bodyOf_of_fence first fence]
      refine ⟨⟨_, [first], codeLines others, closingFence others, _⟩, ?_, rfl, rfl, rfl,
        filter_splitOn_joinLines inside, ?_, fun other => absurd rfl (other _)⟩
      · rw [Layout.block, ← List.append_assoc (codeLines others), body]
        exact parts.symm
      · rintro language -
        exact ⟨⟨first, rfl, Option.isSome_of_mem fence⟩, by rw [body]⟩

/-- Blank lines are no fences. -/
theorem not_isFence_of_isAllBlank {line : Text} (blank : line.isAllBlank = true) :
    isFence line.trimStart = false := by
  rw [Text.trimStart_eq_nil_iff.mpr blank]
  rfl

/-- The blocks of a text, those without lines left out. -/
def visibleBlocks (text : Text) : List (List Text) :=
  (blocks false text.lines).filter (!·.isEmpty)

/-- **A block of a text** stands among its lines, and each blank line of it lies in a fence. -/
theorem exists_of_mem_visibleBlocks {text : Text} {block : List Text}
    (member : block ∈ visibleBlocks text) :
    ∃ above below, text.lines = above ++ (block ++ below) ∧
      ∀ front line behind, block = front ++ line :: behind → line.isAllBlank = true →
        endsFenced false (above ++ front) = true := by
  have listed : block ∈ cutOutside Text.isAllBlank false text.lines :=
    blocks_eq_cutOutside false text.lines ▸ (List.mem_filter.mp member).1
  obtain ⟨above, below, whole, closed⟩ := exists_of_mem_cutOutside listed
  refine ⟨above, below, whole, fun front line behind split blank => ?_⟩
  obtain ⟨first, others, cut⟩ := List.exists_cons_of_ne_nil
    (cutOutside_ne_nil Text.isAllBlank false text.lines)
  obtain ⟨here, elsewhere⟩ := blankInFence_of_cutOutside cut
  rw [Line.endsFenced_append, closed]
  rcases List.mem_cons.mp (cut ▸ listed) with rfl | later
  · exact here front line behind split blank (not_isFence_of_isAllBlank blank)
  · exact elsewhere block later front line behind split blank (not_isFence_of_isAllBlank blank)

private theorem filter_lines_eq (text : Text) :
    text.lines.filter isVisible = (visibleBlocks text).flatten.filter isVisible := by
  rw [visibleBlocks, List.flatten_filter_not_isEmpty]
  exact (filter_flatten_blocks (fun line blank => by rw [isVisible, blank]; rfl) _ _).symm

/-- Blocks are shown by their paragraphs, one by one. -/
theorem exists_layouts {blocks : List (List Text)}
    (whole : ∀ block ∈ blocks, ∀ line ∈ block, '\n' ∉ line) :
    ∃ layouts : List Layout, layouts.map Layout.block = blocks ∧
      List.Forall₂ Shows layouts (blocks.map ofLines) := by
  induction blocks with
  | nil => exact ⟨[], rfl, .nil⟩
  | cons block blocks ih =>
    obtain ⟨here, later⟩ := List.forall_mem_cons.mp whole
    obtain ⟨layout, rfl, shows⟩ := exists_shows here
    obtain ⟨layouts, rfl, all⟩ := ih later
    exact ⟨layout :: layouts, rfl, .cons shows all⟩

/-- **Splitting into paragraphs conserves lines.** The lines of a text that are not blank are, in
order, those of the blocks that its paragraphs show. Each block stands among the lines of the
text, with blank lines inside of fences only, so the content of each paragraph is a run of lines
joined again; and forming a paragraph looks up nothing out of range, whatever the lines are. -/
theorem split_conserves (text : Text) :
    (∃ layouts : List Layout, List.Forall₂ Shows layouts (split text) ∧
      text.lines.filter isVisible = (layouts.flatMap Layout.block).filter isVisible ∧
      ∀ layout ∈ layouts, ∃ above below, text.lines = above ++ (layout.block ++ below) ∧
        ∀ front line behind, layout.block = front ++ line :: behind → line.isAllBlank = true →
          endsFenced false (above ++ front) = true) ∧
    (∀ paragraph ∈ split text, ∃ run, run <:+: text.lines ∧
      paragraph.content = Text.joinLines run) ∧
    ∀ lines, ofLines? lines = some (ofLines lines) := by
  have whole : ∀ block ∈ visibleBlocks text, ∀ line ∈ block, '\n' ∉ line :=
    not_mem_of_mem_blocks text
  refine ⟨?_, fun paragraph member => ?_, ofLines?_eq_some⟩
  · obtain ⟨layouts, blocks, shows⟩ := exists_layouts whole
    refine ⟨layouts, shows, ?_, fun layout member => ?_⟩
    · rw [filter_lines_eq, List.flatMap_def, blocks]
    · have listed : layout.block ∈ visibleBlocks text := blocks ▸ List.mem_map_of_mem member
      exact exists_of_mem_visibleBlocks listed
  · obtain ⟨block, listed, rfl⟩ := List.mem_map.mp member
    obtain ⟨layout, rfl, shows⟩ := exists_shows (whole block listed)
    obtain ⟨above, below, placed, -⟩ := exists_of_mem_visibleBlocks listed
    refine ⟨layout.content, ?_, shows.content⟩
    refine .trans ⟨layout.lead ++ layout.opening, layout.closing ++ layout.trail, ?_⟩
      ⟨above, below, by rw [placed, List.append_assoc]⟩
    rw [Layout.block]
    simp only [List.append_assoc]

/-- Comments around a fence that is not closed, with a blank line inside. -/
def openFence : Text :=
  "Intro.\n\n% note\n~~~sh\n\nmake\n% end".toList

/-- Code in a fence that is not closed keeps its own lines and the comments around it. -/
theorem split_conserves_openFence :
    ⟨.code (some "sh".toList), "\nmake".toList, ⟨["% note".toList], ["% end".toList]⟩⟩ ∈
        split openFence ∧
      ∃ run, run <:+: openFence.lines ∧ "\nmake".toList = Text.joinLines run := by
  have listed : ⟨.code (some "sh".toList), "\nmake".toList,
      ⟨["% note".toList], ["% end".toList]⟩⟩ ∈ split openFence := by decide
  exact ⟨listed, (split_conserves openFence).2.1 _ listed⟩

end Paragraph

end Scriptorium
