import Scriptorium.Proofs.Latex.Conservation
import Scriptorium.Proofs.Section
/-! # Where the characters of a document come from

The strings of a document are its texts, the link of its title and the names of its
citations (`Document.strings`). No character other than a line feed stands in one of them
that does not stand in the body, the title of the metadata or the citations
(`Document.not_mem_strings_build`). The lists of a document that was built hold items
(`Document.isFilled_build`).
-/

namespace Scriptorium

open Latex (titleLink listItems addListLine)

/-- The strings of a paragraph: its texts, and the name of a citation. -/
def Paragraph.strings (paragraph : Paragraph) : List Text :=
  paragraph.citationId?.toList ++ paragraph.texts

/-- The strings of a section. -/
def Section.strings (part : Section) : List Text :=
  titleLink part ++ (part.headTexts ++ part.paragraphs.flatMap Paragraph.strings)

/-- The strings of a document. -/
def Document.strings (document : Document) : List Text :=
  document.sections.flatMap Section.strings

/-- A list holds an item. -/
def Paragraph.IsFilled (paragraph : Paragraph) : Prop :=
  ∀ ordered, paragraph.kind = .list ordered → listItems paragraph.content ≠ []

/-! ## Lines -/

namespace Text

variable {c : Char} {s : Text}

/-- What is no line feed stands in lines put together only when it stands in one of them. -/
theorem not_mem_joinLines {lines : List Text} (other : c ≠ '\n')
    (absent : ∀ line ∈ lines, c ∉ line) : c ∉ joinLines lines :=
  not_mem_join (by simpa using other) absent

/-- What does not stand in a text stands in none of its lines. -/
theorem not_mem_lines (absent : c ∉ s) : ∀ line ∈ s.lines, c ∉ line :=
  fun _ member held => absent ((infix_of_mem_lines member).subset held)

/-- Trimming a text brings no character about. -/
theorem not_mem_trim (absent : c ∉ s) : c ∉ s.trim :=
  fun held => absent ((infix_stripWhere isBlank s).subset held)

end Text

namespace Line

variable {line text item : Text}

/-- The rest behind spaces stands at the end. -/
theorem suffix_of_spaces? {spaces rest : Text} (read : spaces? line = some (spaces, rest)) :
    rest <:+ line := by
  rw [(Scanner.eq_of_run_eq_some read).1]
  exact List.suffix_append spaces rest

private theorem infix_of_headingText? (named : headingText? line = some text) : text <:+: line := by
  obtain ⟨⟨⟨depth, found⟩, rest⟩, read, rfl⟩ := Option.map_eq_some_iff.mp named
  simp only [heading?, Option.bind_eq_bind, Option.bind_eq_some_iff, Prod.exists] at read
  obtain ⟨signs, behind, run, spaces, after, space, same⟩ := read
  cases same
  have whole := (Scanner.eq_of_run_eq_some run).1
  have within : after <:+ line.trim := by
    rw [whole]
    exact (suffix_of_spaces? space).trans (List.suffix_append signs behind)
  exact (Text.infix_stripWhere isBlank after).trans
    (within.isInfix.trans (Text.infix_stripWhere isBlank line))

/-- The item of a list is the end of its line. -/
theorem suffix_of_listMarker? {ordered : Bool} (read : listMarker? line = some (ordered, item)) :
    item <:+ line := by
  unfold listMarker? at read
  split at read
  · simp only [Option.map_eq_some_iff, Prod.exists] at read
    obtain ⟨spaces, behind, space, same⟩ := read
    cases same
    exact (suffix_of_spaces? space).trans (List.suffix_cons _ _)
  · simp only [Option.bind_eq_bind, Option.bind_eq_some_iff, Prod.exists] at read
    obtain ⟨digits, behind, run, _, after, dot, spaces, last, space, same⟩ := read
    cases same
    rw [(Scanner.eq_of_run_eq_some run).1, Scanner.literal_eq_some_iff.mp dot]
    exact (suffix_of_spaces? space).trans
      ((List.suffix_append _ after).trans (List.suffix_append digits _))

/-- The text and the destination of a link stand in it. -/
theorem infix_of_link? {destination rest : Text}
    (read : link? line = some ((text, destination), rest)) :
    text <:+: line ∧ destination <:+: line := by
  unfold link? at read
  split at read
  · simp only [Option.bind_eq_bind, Option.bind_eq_some_iff, Prod.exists] at read
    obtain ⟨_, behind, first, _, after, second, same⟩ := read
    cases same
    rw [Text.eq_of_cut?_eq_some first, Text.eq_of_cut?_eq_some second]
    exact ⟨⟨['['], "](".toList ++ (destination ++ [')'] ++ rest), by simp⟩,
      ⟨'[' :: text ++ "](".toList, [')'] ++ rest, by simp⟩⟩
  · cases read

private theorem infix_of_keyword? {keyword : Text} (read : keyword? line = some keyword) :
    keyword <:+: line := by
  unfold keyword? at read
  split at read
  · rename_i item found
    cases read
    exact (Text.infix_stripWhere isBlank item).trans
      ((suffix_of_listMarker? found).isInfix.trans (Text.infix_stripWhere isBlank line))
  · cases read

end Line

/-! ## Paragraphs -/

namespace Paragraph

variable {c : Char} {lines : List Text} {text : Text}

private theorem kind_bodyOf (lines : List Text) :
    (∃ language, (bodyOf lines).1 = .code language) ∨ (bodyOf lines).1 = .text ∨
      (bodyOf lines).1 = .blockquote ∨ ∃ ordered, (bodyOf lines).1 = .list ordered := by
  cases fence : Line.fence? (lines.head?.getD []).trimStart with
  | none => exact .inr (bodyOf_of_none fence).2
  | some found =>
    cases lines with
    | nil => cases fence
    | cons first others =>
      rw [bodyOf_of_fence first fence]
      exact .inl ⟨_, rfl⟩

/-- A block of the body is no entry of the bibliography. -/
theorem citationId?_ofLines (lines : List Text) : (ofLines lines).citationId? = none := by
  by_cases empty : withoutLead lines = []
  · rw [ofLines, empty]
    rfl
  · rw [ofLines_of_ne_nil empty, citationId?]
    rcases kind_bodyOf (middle lines) with ⟨_, kind⟩ | kind | kind | ⟨_, kind⟩ <;> rw [kind]

/-- What stands in no line does not stand in the body of a paragraph. -/
theorem not_mem_bodyOf (other : c ≠ '\n') (absent : ∀ line ∈ lines, c ∉ line) :
    c ∉ (bodyOf lines).2 := by
  cases fence : Line.fence? (lines.head?.getD []).trimStart with
  | none =>
    rw [(bodyOf_of_none fence).1]
    exact Text.not_mem_joinLines other absent
  | some found =>
    cases lines with
    | nil => cases fence
    | cons first others =>
      rw [bodyOf_of_fence first fence]
      refine Text.not_mem_joinLines other fun line member => absent line ?_
      have code := codeLines_append_closingFence others
      exact List.mem_cons_of_mem first (code ▸ List.mem_append_left _ member)

/-- The strings of a block hold the characters of its lines. -/
theorem not_mem_strings_ofLines (other : c ≠ '\n') (absent : ∀ line ∈ lines, c ∉ line) :
    ∀ s ∈ (ofLines lines).strings, c ∉ s := by
  by_cases empty : withoutLead lines = []
  · have comment : ofLines lines = ⟨.comment, Text.joinLines lines, ⟨[], []⟩⟩ := by
      rw [ofLines, empty]
      rfl
    rw [comment]
    intro s member
    rw [List.mem_singleton.mp (show s ∈ [Text.joinLines lines] from member)]
    exact Text.not_mem_joinLines other absent
  · have trimmed : ∀ part : List Text, part ⊆ lines → ∀ s ∈ part.map Text.trim, c ∉ s := by
      intro part within s member
      obtain ⟨line, listed, rfl⟩ := List.mem_map.mp member
      exact Text.not_mem_trim (absent line (within listed))
    have kept : middle lines ++ trail (withoutLead lines) ⊆ lines := by
      rw [middle_append_trail]
      exact (List.dropWhile_suffix _).subset
    rw [List.append_subset] at kept
    rw [strings, citationId?_ofLines, ofLines_of_ne_nil empty, texts]
    simp only [Option.toList_none, List.nil_append, List.forall_mem_append, List.forall_mem_cons]
    exact ⟨trimmed _ (List.takeWhile_prefix _).subset,
      not_mem_bodyOf other fun line member => absent line (kept.1 member), trimmed _ kept.2⟩

private theorem not_mem_strings_split (other : c ≠ '\n') (absent : c ∉ text) :
    ∀ s ∈ (split text).flatMap strings, c ∉ s := by
  intro s member
  obtain ⟨item, listed, inside⟩ := List.mem_flatMap.mp member
  obtain ⟨block, cut, rfl⟩ := List.mem_map.mp listed
  refine not_mem_strings_ofLines other (fun line held => ?_) s inside
  exact Text.not_mem_lines absent line (flatten_blocks_subset _ _
    (List.mem_flatten_of_mem (List.mem_filter.mp cut).1 held))

/-! ## Lists -/

private theorem foldl_addListLine_ne_nil {items : List Text} (nonempty : items ≠ [] ∨ lines ≠ []) :
    lines.foldl addListLine items ≠ [] := by
  induction lines generalizing items with
  | nil => exact nonempty.resolve_right fun absent => absent rfl
  | cons line lines ih =>
    refine ih (.inl ?_)
    unfold addListLine
    split
    · exact List.cons_ne_nil _ _
    · cases items <;> exact List.cons_ne_nil _ _

/-- A list of which some line is not blank holds an item. -/
theorem listItems_ne_nil (member : c ∈ text) (solid : isBlank c = false) :
    listItems text ≠ [] := by
  obtain ⟨line, listed, inside⟩ := Text.exists_mem_lines member solid
  have nonempty : line.trim.isEmpty = false :=
    List.isEmpty_eq_false_iff.mpr (List.ne_nil_of_mem (Text.mem_stripWhere inside solid))
  have held : line.trim ∈ (text.lines.map Text.trim).filter (!·.isEmpty) :=
    List.mem_filter.mpr ⟨List.mem_map_of_mem listed, by rw [nonempty]; rfl⟩
  rw [listItems]
  exact mt List.reverse_eq_nil_iff.mp (foldl_addListLine_ne_nil (.inr (List.ne_nil_of_mem held)))

/-- The first line of a list has its marker, so it is not blank. -/
theorem isFilled_ofLines (lines : List Text) : (ofLines lines).IsFilled := by
  intro ordered kind
  by_cases empty : withoutLead lines = []
  · rw [ofLines, empty] at kind
    cases kind
  · rw [ofLines_of_ne_nil empty] at kind ⊢
    dsimp only at kind ⊢
    generalize middle lines = lines at kind ⊢
    cases fence : Line.fence? (lines.head?.getD []).trimStart with
    | some found =>
      rcases lines with _ | ⟨first, others⟩
      · cases fence
      · rw [bodyOf_of_fence first fence] at kind
        cases kind
    | none =>
      rw [(bodyOf_of_none fence).1]
      have solid : (lines.head?.getD []).trimStart ≠ [] := by
        intro blank
        rw [bodyOf, blank] at kind
        cases kind
      rcases lines with _ | ⟨first, others⟩
      · exact absurd rfl solid
      · have other := List.head_dropWhile_not isBlank (l := first) solid
        refine listItems_ne_nil ((Text.infix_join ['\n'] List.mem_cons_self).subset ?_) other
        exact (List.dropWhile_suffix isBlank).subset (List.head_mem solid)

private theorem isFilled_split (text : Text) : ∀ item ∈ split text, item.IsFilled := by
  intro item member
  obtain ⟨block, -, rfl⟩ := List.mem_map.mp member
  exact isFilled_ofLines block

end Paragraph

/-! ## Sections -/

namespace Document

open Paragraph (split)

variable {c : Char} {chunk : List Text} {text : Text} {metadata : Metadata}
  {citations : CitationTable}

/-- What the first heading of a chunk says, and what stands beside it. -/
theorem not_mem_of_firstHeading? {depth : Nat} {others : List Text} (other : c ≠ '\n')
    (absent : ∀ line ∈ chunk, c ∉ line)
    (read : firstHeading? chunk = some ((depth, text), others)) :
    c ∉ text ∧ c ∉ Text.joinLines others := by
  obtain ⟨front, line, behind, rfl, rfl, named, -⟩ := exists_of_firstHeading? read
  simp only [List.forall_mem_append, List.forall_mem_cons] at absent
  refine ⟨fun held => absent.2.1 ((Line.infix_of_headingText? named).subset held), ?_⟩
  exact Text.not_mem_joinLines other (List.forall_mem_append.mpr ⟨absent.1, absent.2.2⟩)

/-- What stands neither in the lines of a title nor in the metadata does not stand in the title. -/
theorem not_mem_strings_title (other : c ≠ '\n') (absent : ∀ line ∈ chunk, c ∉ line)
    (title : ∀ title ∈ metadata.title, c ∉ title.text ∧ c ∉ title.link) :
    ∀ s ∈ (Section.title (titleSection metadata chunk)).strings, c ∉ s := by
  have assembled : ∀ (name : Text) (link : Option Text) (rest : Text), c ∉ name →
      (∀ target ∈ link.toList, c ∉ target) → c ∉ rest →
      ∀ s ∈ (Section.title ⟨name, link, split rest⟩).strings, c ∉ s := by
    intro name link rest named linked below
    refine List.forall_mem_append.mpr ⟨linked, List.forall_mem_cons.mpr ⟨named, ?_⟩⟩
    exact Paragraph.not_mem_strings_split other below
  unfold titleSection
  cases read : firstHeading? chunk with
  | some found =>
    obtain ⟨⟨depth, text⟩, others⟩ := found
    obtain ⟨named, below⟩ := not_mem_of_firstHeading? other absent read
    dsimp only
    split
    · rename_i name link isLink
      obtain ⟨inText, inLink⟩ := Line.infix_of_link? isLink
      refine assembled _ _ _ (fun held => named (inText.subset held)) ?_ below
      exact List.forall_mem_singleton.mpr fun held => named (inLink.subset held)
    · exact assembled _ _ _ named (List.forall_mem_nil _) below
  | none =>
    have below := Text.not_mem_joinLines other absent
    dsimp only
    split
    · rename_i front named
      obtain ⟨inText, inLink⟩ := title front named
      refine assembled _ _ _ inText ?_ below
      split
      · exact List.forall_mem_nil _
      · exact List.forall_mem_singleton.mpr inLink
    · exact assembled _ _ _ List.not_mem_nil (List.forall_mem_nil _) below

/-- What stands in no line does not stand in the keywords. -/
theorem not_mem_keywordsOf {lines : List Text} (absent : ∀ line ∈ lines, c ∉ line) :
    ∀ s ∈ (keywordsOf lines).texts, c ∉ s := by
  induction lines with
  | nil => exact List.forall_mem_nil _
  | cons line lines ih =>
    obtain ⟨here, later⟩ := List.forall_mem_cons.mp absent
    have others := ih later
    rw [Keywords.texts, List.forall_mem_append] at others ⊢
    by_cases comment : Line.isComment line.trim = true
    · rw [keywordsOf_of_comment comment]
      exact ⟨List.forall_mem_cons.mpr ⟨Text.not_mem_trim here, others.1⟩, others.2⟩
    · rw [keywordsOf_of_plain comment]
      refine ⟨others.1, List.forall_mem_append.mpr ⟨fun keyword item => ?_, others.2⟩⟩
      have listed : Line.keyword? line = some keyword := by simpa using item
      exact fun held => here ((Line.infix_of_keyword? listed).subset held)

private theorem not_mem_citationParagraphs
    (entries : ∀ citation ∈ citations.entries, c ∉ citation.id ∧ c ∉ citation.rawContent) :
    ∀ s ∈ (citationParagraphs citations).flatMap Paragraph.strings, c ∉ s := by
  intro s member
  rw [citationParagraphs, List.flatMap_map] at member
  obtain ⟨citation, listed, inside⟩ := List.mem_flatMap.mp member
  obtain ⟨named, content⟩ := entries citation listed
  have held : s ∈ [citation.id, citation.rawContent] := inside
  rcases List.mem_cons.mp held with rfl | held
  · exact named
  · rw [List.mem_singleton.mp held]
    exact content

/-- What stands neither in the lines of a chunk nor in the citations does not stand in its section.
-/
theorem not_mem_strings_sectionOf (other : c ≠ '\n') (absent : ∀ line ∈ chunk, c ∉ line)
    (entries : ∀ citation ∈ citations.entries, c ∉ citation.id ∧ c ∉ citation.rawContent) :
    ∀ s ∈ (sectionOf citations chunk).strings, c ∉ s := by
  unfold sectionOf
  cases read : firstHeading? chunk with
  | none => exact Paragraph.not_mem_strings_split other (Text.not_mem_joinLines other absent)
  | some found =>
    obtain ⟨⟨depth, text⟩, others⟩ := found
    obtain ⟨named, below⟩ := not_mem_of_firstHeading? other absent read
    have paragraphs := Paragraph.not_mem_strings_split other below
    dsimp only
    split
    · exact paragraphs
    · split
      · rw [Section.strings]
        simp only [titleLink, Section.headTexts, Section.paragraphs, List.flatMap_nil,
          List.append_nil, List.nil_append]
        exact not_mem_keywordsOf (Text.not_mem_lines below)
      · split
        · refine fun s member => ?_
          have held : s ∈ (((split (Text.joinLines others)).filter (·.kind != .comment)) ++
            citationParagraphs citations).flatMap Paragraph.strings := member
          rw [List.flatMap_append, List.mem_append] at held
          refine held.elim (fun inside => paragraphs s ?_) (not_mem_citationParagraphs entries s)
          obtain ⟨item, kept, inside⟩ := List.mem_flatMap.mp inside
          exact List.mem_flatMap.mpr ⟨item, (List.mem_filter.mp kept).1, inside⟩
        · exact List.forall_mem_cons.mpr ⟨named, paragraphs⟩

private theorem strings_foldl_addSection (sections added : List Section) :
    ((added.foldl addSection sections).flatMap Section.strings).Perm
      (sections.flatMap Section.strings ++ added.flatMap Section.strings) := by
  refine perm_foldl_addSection (fun items lists added => ?_) sections added
  simp only [Section.strings, titleLink, Section.headTexts, Section.paragraphs,
    List.flatMap_append, List.flatMap_singleton, List.flatMap_nil, List.nil_append,
    List.append_nil, List.append_assoc]
  exact List.perm_append_comm.append_left _

/-- **Where characters come from.** A character other than a line feed that stands neither
in the body nor in the title of the metadata nor in a citation stands in no string of the
document. -/
theorem not_mem_strings_build {body : Text} (other : c ≠ '\n') (absent : c ∉ body)
    (title : ∀ title ∈ metadata.title, c ∉ title.text ∧ c ∉ title.link)
    (entries : ∀ citation ∈ citations.entries, c ∉ citation.id ∧ c ∉ citation.rawContent) :
    ∀ s ∈ (build metadata citations body).strings, c ∉ s := by
  have lines : ∀ chunk ∈ chunks false body.lines, ∀ line ∈ chunk, c ∉ line :=
    fun chunk member line inside => Text.not_mem_lines absent line
      (flatten_chunks_subset _ _ (List.mem_flatten_of_mem member inside))
  have sections : ∀ s ∈ (sectionsOf metadata citations (chunks false body.lines)).flatMap
      Section.strings, c ∉ s := by
    cases parts : chunks false body.lines with
    | nil => exact List.forall_mem_nil _
    | cons first others =>
      rw [parts] at lines
      obtain ⟨here, later⟩ := List.forall_mem_cons.mp lines
      intro s member
      rw [sectionsOf] at member
      have held := (strings_foldl_addSection _ _).subset member
      rw [List.flatMap_singleton, List.mem_append, List.flatMap_map] at held
      refine held.elim (not_mem_strings_title other here title s) fun inside => ?_
      obtain ⟨chunk, listed, inside⟩ := List.mem_flatMap.mp inside
      exact not_mem_strings_sectionOf other (later chunk listed) entries s inside
  rw [strings, build]
  split
  · exact sections
  · rw [List.flatMap_append, List.flatMap_singleton]
    exact List.forall_mem_append.mpr ⟨sections, not_mem_citationParagraphs entries⟩

private theorem paragraphs_foldl_addSection (sections added : List Section) :
    ((added.foldl addSection sections).flatMap Section.paragraphs).Perm
      (sections.flatMap Section.paragraphs ++ added.flatMap Section.paragraphs) := by
  refine perm_foldl_addSection (fun items lists added => ?_) sections added
  simp only [Section.paragraphs, List.append_nil, List.Perm.refl]

private theorem isFilled_citationParagraphs :
    ∀ item ∈ citationParagraphs citations, item.IsFilled := by
  intro item member
  obtain ⟨citation, -, rfl⟩ := List.mem_map.mp member
  exact nofun

/-- No paragraph of a section is empty. -/
theorem isFilled_sectionOf : ∀ item ∈ (sectionOf citations chunk).paragraphs, item.IsFilled := by
  unfold sectionOf
  cases firstHeading? chunk with
  | none => exact Paragraph.isFilled_split _
  | some found =>
    dsimp only
    split
    · exact Paragraph.isFilled_split _
    · split
      · exact List.forall_mem_nil _
      · split
        · refine List.forall_mem_append.mpr ⟨fun item member => ?_, isFilled_citationParagraphs⟩
          exact Paragraph.isFilled_split _ item (List.mem_filter.mp member).1
        · exact Paragraph.isFilled_split _

/-- **The lists of a document hold items.** -/
theorem isFilled_build (metadata : Metadata) (citations : CitationTable) (body : Text) :
    ∀ item ∈ (build metadata citations body).paragraphs, item.IsFilled := by
  have title : ∀ chunk, ∀ item ∈ (titleSection metadata chunk).paragraphs, item.IsFilled := by
    intro chunk
    unfold titleSection
    dsimp only
    split <;> split <;> exact Paragraph.isFilled_split _
  have sections : ∀ item ∈ (sectionsOf metadata citations (chunks false body.lines)).flatMap
      Section.paragraphs, item.IsFilled := by
    cases chunks false body.lines with
    | nil => exact List.forall_mem_nil _
    | cons first others =>
      intro item member
      rw [sectionsOf] at member
      have held := (paragraphs_foldl_addSection _ _).subset member
      rw [List.flatMap_singleton, List.mem_append, List.flatMap_map] at held
      refine held.elim (title first item) fun inside => ?_
      obtain ⟨chunk, -, inside⟩ := List.mem_flatMap.mp inside
      exact isFilled_sectionOf item inside
  rw [paragraphs, build]
  split
  · exact sections
  · rw [List.flatMap_append, List.flatMap_singleton]
    exact List.forall_mem_append.mpr ⟨sections, isFilled_citationParagraphs⟩

end Document

end Scriptorium
