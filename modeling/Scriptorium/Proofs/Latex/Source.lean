import Scriptorium.Proofs.Citation.Extraction
import Scriptorium.Proofs.Latex.Contents
import Scriptorium.Proofs.Line
import Scriptorium.Proofs.Paragraph
/-! # Where the contents of a document come from

Cutting a body into sections and paragraphs loses no mark without saying so. A text holds
the marks of its paragraphs and of the fences around its code
(`Paragraph.spells_split`), and a body holds those of the contents of its document and of
the lines that are left out (`Document.spells_build`): fences, the headings of abstracts
and keywords, lines among keywords that are none, and comments in a bibliography.
-/

namespace Scriptorium

open Latex

/-! ## Paragraphs -/

namespace Paragraph

variable {lines : List Text} {content : Text}

private theorem marks_quotedLine (line : Text) : marks (quotedLine line) = marks line := by
  have sign : ∀ c, (c == '>') = true → isMarkChar c = false :=
    fun c => Mark.isMarkChar_of_beq (by decide)
  rw [quotedLine, marks_trim, marks_dropWhile sign, marks_trimStart]

private theorem tally_quotedText (mark : Mark) (content : Text) :
    tally mark [quotedText content] = tally mark [content] := by
  rw [quotedText, tally_joinLines, tally_filter, tally_map fun line _ => marks_quotedLine line,
    tally_lines]
  intro text _ empty
  rw [Bool.not_eq_eq_eq_not, Bool.not_false, List.isEmpty_iff] at empty
  rw [empty, marks_nil]

private theorem tally_addListLine (mark : Mark) (items : List Text) (line : Text) :
    tally mark (addListLine items line) = tally mark items + (marks line).count mark := by
  unfold addListLine
  split
  · rename_i ordered item read
    rw [tally_cons, marks_trim, Line.marks_listMarker read, Nat.add_comm]
  · cases items with
    | nil => rw [tally_singleton, tally_nil, Nat.zero_add]
    | cons last before =>
      simp only [tally_cons, marks_append_cons (show isMarkChar ' ' = false by decide),
        List.count_append]
      omega

/-- A list holds the marks of its items. -/
theorem tally_listItems (mark : Mark) (content : Text) :
    tally mark (listItems content) = tally mark [content] := by
  have lines : ∀ lines items, tally mark (lines.foldl addListLine items) =
      tally mark items + tally mark lines := by
    intro lines
    induction lines with
    | nil => exact fun items => rfl
    | cons line lines ih =>
      intro items
      rw [List.foldl_cons, ih, tally_addListLine, tally_cons, Nat.add_assoc]
  rw [listItems, tally_perm (List.reverse_perm _), lines, tally_nil, Nat.zero_add, tally_filter,
    tally_map fun line _ => marks_trim line, tally_lines]
  intro text _ empty
  rw [Bool.not_eq_eq_eq_not, Bool.not_false, List.isEmpty_iff] at empty
  rw [empty, marks_nil]

/-- Text, quotations and lists hold the marks of what they consist of. -/
theorem spells_paragraphBody {kind : ParagraphKind} (annotations : Annotations) (content : Text)
    (running : kind = .text ∨ kind = .blockquote ∨ ∃ ordered, kind = .list ordered) :
    (paragraphBodyContents ⟨kind, content, annotations⟩).Spells [content] := by
  rcases running with rfl | rfl | ⟨ordered, rfl⟩
  · exact spells_contents content
  · exact (spells_contents (quotedText content)).congr fun mark =>
      (tally_quotedText mark content).symm
  · have items := Contents.Spells.gather fun item (_ : item ∈ listItems content) =>
      spells_contents item
    rw [List.map_id'] at items
    exact items.congr fun mark => (tally_listItems mark content).symm

/-- The body of a paragraph and its fences spell its lines. -/
theorem spells_bodyOf (lines : List Text) (annotations : Annotations) :
    (paragraphBodyContents ⟨(bodyOf lines).1, (bodyOf lines).2, annotations⟩ ++
      .ofPassages (fences lines)).Spells lines := by
  intro mark
  rw [Contents.total_append, Contents.total_ofPassages]
  cases fence : Line.fence? (lines.head?.getD []).trimStart with
  | some found =>
    cases lines with
    | nil => cases fence
    | cons first others =>
      have isFence : Line.isFence first.trimStart = true := Option.isSome_of_mem fence
      have code := codeLines_append_closingFence others
      have body := bodyOf_of_fence first fence others
      rw [body, fences, if_pos isFence, tally_cons, tally_cons, ← code, tally_append]
      simp only [paragraphBodyContents, Contents.total_ofPassages, tally_joinLines, code]
      omega
  | none =>
    have none : fences lines = [] := by
      cases lines with
      | nil => rfl
      | cons first others =>
        have other : Line.isFence first.trimStart = false := by
          rw [Line.isFence]
          exact Option.isSome_eq_false_iff.mpr (Option.isNone_iff_eq_none.mpr fence)
        rw [fences, other]
        rfl
    have body := bodyOf_of_none fence
    rw [none, tally_nil, Nat.add_zero, ← spells_paragraphBody annotations _ body.2 mark, body.1,
      tally_joinLines]

/-- A block holds the marks of its paragraph, and those of its fences. -/
theorem spells_ofLines (lines : List Text) :
    (paragraphContents (ofLines lines) ++ .ofPassages (fences (middle lines))).Spells lines := by
  intro mark
  by_cases empty : withoutLead lines = []
  · have comment : ofLines lines = ⟨.comment, Text.joinLines lines, ⟨[], []⟩⟩ := by
      rw [ofLines, empty]
      rfl
    have none : middle lines = [] := by
      rw [middle, empty]
      rfl
    simp only [comment, none, fences, paragraphContents, paragraphBodyContents,
      Contents.total_append, Contents.total_ofPassages, tally_joinLines, tally_nil]
    omega
  · have body := spells_bodyOf (middle lines) ⟨(lines.takeWhile Line.isComment).map Text.trim,
      (trail (withoutLead lines)).map Text.trim⟩ mark
    have split : tally mark lines = tally mark (lines.takeWhile Line.isComment) +
        tally mark (middle lines ++ trail (withoutLead lines)) := by
      rw [← tally_append, ← takeWhile_append_middle]
    rw [ofLines_of_ne_nil empty, split]
    simp only [paragraphContents, Contents.total_append, Contents.total_ofPassages, tally_append,
      tally_map fun line _ => marks_trim line] at body ⊢
    omega

/-- The blocks of lines hold the marks of the lines. -/
theorem tally_blocks (mark : Mark) (inFence : Bool) (lines : List Text) :
    tally mark (blocks inFence lines).flatten = tally mark lines := by
  have silent (texts : List Text) : tally mark (texts.filter (!·.isAllBlank)) = tally mark texts :=
    tally_filter (fun text _ blank => marks_of_isAllBlank (by simpa using blank)) mark
  rw [← silent, filter_flatten_blocks (fun line blank => by rw [blank]; rfl), silent]

/-- The fences in a text. -/
def textFences (text : Text) : List Text :=
  ((blocks false text.lines).filter (!·.isEmpty)).flatMap fun block => fences (middle block)

/-- A text holds the marks of its paragraphs, and those of its fences. -/
theorem spells_split (text : Text) :
    (Contents.gather paragraphContents (split text) ++ .ofPassages (textFences text)).Spells
      [text] := by
  intro mark
  have parts : ∀ blocks : List (List Text), tally mark blocks.flatten =
      (Contents.gather paragraphContents (blocks.map ofLines)).total mark +
        tally mark (blocks.flatMap fun block => fences (middle block)) := by
    intro blocks
    induction blocks with
    | nil => rfl
    | cons block blocks ih =>
      have first := spells_ofLines block mark
      rw [Contents.total_append, Contents.total_ofPassages] at first
      rw [List.flatten_cons, List.map_cons, List.flatMap_cons, Contents.gather, tally_append,
        tally_append, Contents.total_append, first, ih]
      omega
  rw [Contents.total_append, Contents.total_ofPassages, split, textFences, ← parts,
    List.flatten_filter_not_isEmpty, tally_blocks, tally_lines]

end Paragraph

/-! ## Sections -/

namespace Document

open Extraction (Unmarked)
open Paragraph (split textFences)

variable {chunk lines : List Text} {mark : Mark} {metadata : Metadata} {citations : CitationTable}

/-- The chunks of lines hold the marks of the lines. -/
theorem tally_chunks (mark : Mark) (inFence : Bool) (lines : List Text) :
    tally mark (chunks inFence lines).flatten = tally mark lines := by
  fun_induction chunks inFence lines with
  | case1 => rfl
  | case2 inFence line lines divider ih =>
    simp only [Bool.and_eq_true] at divider
    rw [List.flatten_cons, List.nil_append, ih, tally_cons, Line.marks_of_isDivider divider.2,
      List.count_nil, Nat.zero_add]
  | case3 inFence line lines other none ih =>
    rw [none] at ih
    rw [List.flatten_cons, List.flatten_nil, List.append_nil, tally_cons, tally_cons, ← ih]
    rfl
  | case4 inFence line lines other chunk rest cut ih =>
    rw [cut, List.flatten_cons] at ih
    rw [List.flatten_cons, List.cons_append, tally_cons, tally_cons, ih]

/-- A chunk holds the marks of its first heading and of its other lines. -/
theorem tally_firstHeading (mark : Mark) {heading : Nat × Text} {others : List Text}
    (read : firstHeading? chunk = some (heading, others)) :
    tally mark chunk = (marks heading.2).count mark + tally mark others := by
  induction chunk generalizing others with
  | nil => cases read
  | cons line lines ih =>
    unfold firstHeading? at read
    split at read
    · rename_i found _ isHeading
      cases read
      rw [tally_cons, ← marks_trim line, Line.marks_heading isHeading]
    · simp only [Option.map_eq_some_iff, Prod.mk.injEq, Prod.exists] at read
      obtain ⟨_, _, behind, found, rfl, rfl⟩ := read
      rw [tally_cons, tally_cons, ih found]
      omega

/-- The lines of a chunk beside its first heading. -/
def besideHeading (chunk : List Text) : List Text :=
  match firstHeading? chunk with
  | some (_, others) => others
  | none => chunk

private theorem total_titleContents (mark : Mark) (title : TitleSection) :
    (titleContents title).total mark = (marks title.text).count mark +
      tally mark title.link.toList +
        (Contents.gather paragraphContents title.paragraphs).total mark := by
  rw [titleContents, Contents.total_append, ← tally_singleton]
  rfl

/-- A first chunk holds the marks of its title and paragraphs, and those of its fences. -/
theorem spells_titleSection
    (title : ∀ title ∈ metadata.title, marks title.text = [] ∧ marks title.link = [])
    (chunk : List Text) :
    (titleContents (titleSection metadata chunk) ++
      .ofPassages (textFences (Text.joinLines (besideHeading chunk)))).Spells chunk := by
  intro mark
  have beside := Paragraph.spells_split (Text.joinLines (besideHeading chunk)) mark
  rw [Contents.total_append, Contents.total_ofPassages, tally_joinLines] at beside
  rw [Contents.total_append, Contents.total_ofPassages, total_titleContents]
  unfold titleSection besideHeading at *
  cases read : firstHeading? chunk with
  | some found =>
    obtain ⟨⟨depth, text⟩, others⟩ := found
    rw [read] at beside
    dsimp only at beside ⊢
    rw [tally_firstHeading mark read, beside]
    split
    · rename_i name link isLink
      rw [Line.marks_link isLink, List.count_append, List.count_append, marks_nil, List.count_nil,
        Option.toList_some, tally_singleton]
      dsimp only
      omega
    · rw [Option.toList_none, tally_nil]
      dsimp only
      omega
  | none =>
    rw [read] at beside
    dsimp only at beside ⊢
    rw [beside]
    cases named : metadata.title with
    | none =>
      dsimp only
      rw [Option.toList_none, tally_nil, marks_nil, List.count_nil]
      omega
    | some name =>
      obtain ⟨text, link⟩ := title name named
      have target : tally mark (if name.link.isEmpty then none else some name.link).toList = 0 := by
        split
        · rfl
        · rw [Option.toList_some, tally_singleton, link, List.count_nil]
      dsimp only
      rw [target, text, List.count_nil]
      omega

/-- Whether a line is an item of an unordered list. -/
def isKeyword (line : Text) : Bool :=
  match Line.listMarker? line with
  | some (false, _) => true
  | _ => false

/-- The lines of a section of keywords that are neither keywords nor comments. -/
def unlisted (lines : List Text) : List Text :=
  (lines.map Text.trim).filter fun line => !(Line.isComment line || isKeyword line)

/-- Lines of keywords hold the marks of the keywords and comments, and those of all other
lines. -/
theorem spells_keywordsOf (lines : List Text) :
    (keywordsContents (keywordsOf lines) ++ .ofPassages (unlisted lines)).Spells lines := by
  intro mark
  rw [← tally_map fun line _ => marks_trim line]
  simp only [keywordsContents, keywordsOf, unlisted, Contents.total_append,
    Contents.total_ofPassages, tally_append]
  induction lines.map Text.trim with
  | nil => rfl
  | cons line lines ih =>
    rw [tally_cons, ih]
    by_cases comment : Line.isComment line = true
    · simp only [comment, List.filterMap_cons, List.filter_cons, if_true, Bool.true_or,
        Bool.not_true, Bool.false_eq_true, if_false, tally_cons]
      omega
    · have plain := Bool.eq_false_iff.mpr comment
      cases item : Line.listMarker? line with
      | none =>
        simp only [plain, isKeyword, item, List.filterMap_cons, List.filter_cons, if_false,
          Bool.false_or, Bool.not_false, Bool.false_eq_true, if_true, tally_cons]
        omega
      | some found =>
        obtain ⟨ordered, rest⟩ := found
        have same := congrArg (List.count mark) (Line.marks_listMarker item)
        cases ordered with
        | true =>
          simp only [plain, isKeyword, item, List.filterMap_cons, List.filter_cons, if_false,
            Bool.false_or, Bool.not_false, Bool.false_eq_true, if_true, tally_cons]
          omega
        | false =>
          simp only [plain, isKeyword, item, List.filterMap_cons, List.filter_cons, if_false,
            Bool.false_or, Bool.not_true, Bool.false_eq_true, tally_cons, marks_trim]
          omega

/-- What a later chunk holds beside the contents of its section: its fences, and where
keywords or a bibliography stand the lines that are passed over. -/
def leftOutOf (chunk : List Text) : Contents :=
  match firstHeading? chunk with
  | none => .ofPassages (textFences (Text.joinLines chunk))
  | some ((depth, text), others) =>
    let rest := Text.joinLines others
    if text.toLower.startsWith "abstract".toList then .ofPassages (text :: textFences rest)
    else if text.toLower.startsWith "keywords".toList then
      .ofPassages (text :: unlisted rest.lines)
    else if depth = 2 && text = "Bibliography".toList then
      .gather paragraphContents ((split rest).filter (·.kind == .comment)) ++
        .ofPassages (textFences rest)
    else .ofPassages (textFences rest)

/-- The entries of a table without marks mark nothing. -/
theorem total_citationParagraphs (unmarked : Unmarked citations) (mark : Mark) :
    (Contents.gather paragraphContents (citationParagraphs citations)).total mark = 0 := by
  unfold citationParagraphs
  unfold Unmarked at unmarked
  generalize citations.entries = entries at unmarked ⊢
  induction entries with
  | nil => rfl
  | cons citation entries ih =>
    obtain ⟨id, raw⟩ := unmarked citation List.mem_cons_self
    have content := spells_contents citation.rawContent mark
    rw [tally_singleton, raw, List.count_nil] at content
    rw [List.map_cons, Contents.gather, Contents.total_append,
      ih fun citation member => unmarked citation (List.mem_cons_of_mem _ member)]
    simp only [paragraphContents, paragraphBodyContents, Contents.total_append,
      Contents.total_ofPassages, tally_singleton, id, tally_nil, List.count_nil, ← content]

/-- A later chunk holds the marks of its section, and those of what is left out. -/
theorem spells_sectionOf (unmarked : Unmarked citations) (chunk : List Text) :
    (sectionContents (sectionOf citations chunk) ++ leftOutOf chunk).Spells chunk := by
  intro mark
  unfold sectionOf leftOutOf
  generalize "abstract".toList = abstract, "keywords".toList = keywords
  cases read : firstHeading? chunk with
  | none =>
    have content := Paragraph.spells_split (Text.joinLines chunk) mark
    rw [Contents.total_append, Contents.total_ofPassages, tally_joinLines] at content
    simp only [sectionContents, headingContents, Contents.total_append, Contents.total_ofPassages,
      tally_nil]
    omega
  | some found =>
    obtain ⟨⟨depth, text⟩, others⟩ := found
    have content := Paragraph.spells_split (Text.joinLines others) mark
    rw [Contents.total_append, Contents.total_ofPassages, tally_joinLines] at content
    rw [tally_firstHeading mark read]
    dsimp only
    by_cases isAbstract : text.toLower.startsWith abstract = true
    · simp only [if_pos isAbstract, sectionContents, Contents.gather, Contents.total_append,
        Contents.total_ofPassages, tally_cons, tally_nil]
      omega
    · rw [if_neg isAbstract, if_neg isAbstract]
      by_cases isKeywords : text.toLower.startsWith keywords = true
      · have lines := spells_keywordsOf (Text.joinLines others).lines mark
        rw [tally_lines, tally_joinLines, Contents.total_append, Contents.total_ofPassages] at lines
        simp only [if_pos isKeywords, sectionContents, Contents.total_append,
          Contents.total_ofPassages, tally_cons]
        omega
      · rw [if_neg isKeywords, if_neg isKeywords]
        split
        · rename_i isBibliography
          simp only [Bool.and_eq_true, decide_eq_true_eq] at isBibliography
          have plain : marks text = [] := by
            rw [isBibliography.2]
            exact marks_of_no_hyphen (by decide)
          have comments := Contents.total_gather_perm paragraphContents (List.filter_append_perm
            (fun item => item.kind == ParagraphKind.comment) (split (Text.joinLines others))) mark
          rw [Contents.total_gather_append] at comments
          have entries := total_citationParagraphs unmarked mark
          simp only [sectionContents, Contents.total_gather_append, Contents.total_append,
            Contents.total_ofPassages, plain, List.count_nil, bne]
          omega
        · have heading := spells_contents text mark
          rw [tally_singleton] at heading
          simp only [sectionContents, headingContents, Contents.total_append,
            Contents.total_ofPassages]
          omega

/-- Keywords that are attached to an abstract are added to the contents. -/
theorem total_attachKeywords (mark : Mark) {added : Keywords} {sections sections' : List Section}
    (attached : attachKeywords? added sections = some sections') :
    (Contents.gather sectionContents sections').total mark =
      (Contents.gather sectionContents sections).total mark +
        (keywordsContents added).total mark := by
  induction sections generalizing sections' with
  | nil => cases attached
  | cons first rest ih =>
    unfold attachKeywords? at attached
    cases later : attachKeywords? added rest with
    | some found =>
      rw [later] at attached
      cases attached
      rw [Contents.gather, Contents.gather, Contents.total_append, Contents.total_append, ih later,
        Nat.add_assoc]
    | none =>
      rw [later] at attached
      dsimp only at attached
      split at attached
      · cases attached
        simp only [Contents.gather, sectionContents, Contents.total_append,
          Contents.total_gather_append, Contents.total_ofPassages, tally_nil]
        omega
      · cases attached

/-- Adding a section adds its contents. -/
theorem total_addSection (mark : Mark) (sections : List Section) (added : Section) :
    (Contents.gather sectionContents (addSection sections added)).total mark =
      (Contents.gather sectionContents sections).total mark +
        (sectionContents added).total mark := by
  have behind : (Contents.gather sectionContents (sections ++ [added])).total mark =
      (Contents.gather sectionContents sections).total mark +
        (sectionContents added).total mark := by
    rw [Contents.total_gather_append, Contents.gather, Contents.total_append]
    rfl
  unfold addSection
  split
  · rename_i keywords
    cases attached : attachKeywords? keywords sections with
    | none => exact behind
    | some sections' => exact total_attachKeywords mark attached
  · exact behind

private theorem total_foldl_addSection (mark : Mark) (sections added : List Section) :
    (Contents.gather sectionContents (added.foldl addSection sections)).total mark =
      (Contents.gather sectionContents sections).total mark +
        (Contents.gather sectionContents added).total mark := by
  induction added generalizing sections with
  | nil => rfl
  | cons first added ih =>
    rw [List.foldl_cons, ih, total_addSection, Contents.gather, Contents.total_append,
      Nat.add_assoc]

/-- What the chunks of a body hold beside the contents of the document. -/
def leftOutOfChunks : List (List Text) → Contents
  | [] => .ofPassages []
  | first :: others =>
    .ofPassages (textFences (Text.joinLines (besideHeading first))) ++ .gather leftOutOf others

/-- What a body holds beside the contents of its document. -/
def leftOut (body : Text) : Contents :=
  leftOutOfChunks (chunks false body.lines)

/-- The sections of a document and what is left out of them spell its chunks. -/
theorem spells_sectionsOf
    (title : ∀ title ∈ metadata.title, marks title.text = [] ∧ marks title.link = [])
    (unmarked : Unmarked citations) (parts : List (List Text)) :
    (Contents.gather sectionContents (sectionsOf metadata citations parts) ++
      leftOutOfChunks parts).Spells parts.flatten := by
  intro mark
  cases parts with
  | nil => rfl
  | cons first others =>
    have head := spells_titleSection title first mark
    have rest : tally mark others.flatten =
        (Contents.gather sectionContents (others.map (sectionOf citations))).total mark +
          (Contents.gather leftOutOf others).total mark := by
      induction others with
      | nil => rfl
      | cons chunk others ih =>
        have spelled := spells_sectionOf unmarked chunk mark
        rw [Contents.total_append] at spelled
        rw [List.flatten_cons, tally_append, ih, spelled, List.map_cons, Contents.gather,
          Contents.gather, Contents.total_append, Contents.total_append]
        omega
    rw [Contents.total_append, Contents.total_ofPassages] at head
    rw [List.flatten_cons, tally_append, rest, head, sectionsOf, leftOutOfChunks]
    simp only [Contents.total_append, total_foldl_addSection, Contents.gather, sectionContents,
      Contents.total_ofPassages, tally_nil]
    omega

/-- **What a body holds** are the marks of its document's contents, and those of what is
left out. -/
theorem spells_build
    (title : ∀ title ∈ metadata.title, marks title.text = [] ∧ marks title.link = [])
    (unmarked : Unmarked citations) (body : Text) :
    (documentContents (build metadata citations body) ++ leftOut body).Spells [body] := by
  intro mark
  have sections := spells_sectionsOf title unmarked (chunks false body.lines) mark
  rw [tally_chunks, tally_lines, Contents.total_append] at sections
  rw [sections, Contents.total_append, leftOut, documentContents, build]
  split
  · rfl
  · have entries := total_citationParagraphs unmarked mark
    simp only [Contents.total_gather_append, Contents.gather, sectionContents,
      Contents.total_append, Contents.total_ofPassages, tally_nil]
    omega

end Document

end Scriptorium
