import Scriptorium.Latex.Document
import Scriptorium.Proofs.Latex.Written
/-! # What a paper is set from

A document consists of passages, which are set as running text or as they stand, and of
the destinations of its links (`Latex.documentContents`). Its body in LaTeX holds the
marks of all its passages, and beside them marks of destinations only
(`Latex.setAs_body`).
-/

namespace Scriptorium.Latex

variable {config : Config} {s : Text}

/-! ## Paragraphs -/

/-- What a paragraph without its annotations consists of. -/
def paragraphBodyContents (paragraph : Paragraph) : Contents :=
  match paragraph.kind with
  | .text => contents paragraph.content
  | .blockquote => contents (quotedText paragraph.content)
  | .list _ => .gather contents (listItems paragraph.content)
  | .citation id => .ofPassages [id] ++ contents paragraph.content
  | .code _ | .comment => .ofPassages [paragraph.content]

/-- What a paragraph consists of. -/
def paragraphContents (paragraph : Paragraph) : Contents :=
  .ofPassages paragraph.annotations.pre ++ (paragraphBodyContents paragraph ++
    .ofPassages paragraph.annotations.post)

private theorem marks_environment {name : String} (plain : '-' ∉ name.toList) (body : Text) :
    marks (environment name body) = marks body := by
  rw [environment, marks_append_cons Mark.isMarkChar_newline,
    marks_append_cons Mark.isMarkChar_newline, marks_openEnvironment plain,
    marks_closeEnvironment plain, List.nil_append, List.append_nil]

/-- What is written for a list holds the marks of what is written for its items. -/
theorem marks_list (config : Config) (ordered : Bool) (content : Text) :
    marks (list config ordered content) =
      ((listItems content).map (inline config)).flatMap marks := by
  have item : ∀ text, marks ("\\item ".toList ++ text) = marks text :=
    fun text => marks_append_of_no_start (by decide) (by decide) text
  unfold list
  rw [marks_environment (by cases ordered <;> decide), marks_joinLines, List.flatMap_map,
    List.flatMap_map]
  simp only [item]

/-- The body of a paragraph is its contents, set. -/
theorem setAs_paragraphBody (site : marks config.siteBaseUrl = []) (paragraph : Paragraph) :
    (paragraphBodyContents paragraph).SetAs [paragraphBody config paragraph] := by
  unfold paragraphBodyContents paragraphBody
  cases paragraph.kind with
  | text => exact setAs_inline site _
  | blockquote =>
    apply (setAs_inline site (quotedText paragraph.content)).ofMarks
    rw [marks_environment (by decide), List.flatMap_singleton]
  | list ordered =>
    exact (Contents.SetAs.gather fun item _ => setAs_inline site item).ofMarks
      (marks_list config ordered _)
  | citation id =>
    apply ((Contents.setAs_ofPassages [id]).append (setAs_inline site _)).ofMarks
    rw [marks_append_cons (by decide), marks_command (by decide)]
    simp only [List.cons_append, List.nil_append, List.flatMap_cons, List.flatMap_nil,
      List.append_nil]
  | code language =>
    apply (Contents.setAs_ofPassages [paragraph.content]).ofMarks
    rw [marks_environment (by decide), List.flatMap_singleton]
  | comment => exact Contents.setAs_ofPassages [paragraph.content]

private theorem setAs_paragraph (site : marks config.siteBaseUrl = []) (item : Paragraph) :
    (paragraphContents item).SetAs [paragraph config item] := by
  have body := (setAs_paragraphBody site item).append
    (Contents.setAs_ofPassages item.annotations.post)
  apply ((Contents.setAs_ofPassages item.annotations.pre).append body).ofMarks
  rw [paragraph, marks_joinLines]
  rfl

/-! ## Blank lines between -/

private theorem marks_append_blankLine (s behind : Text) :
    marks (s ++ (blankLine ++ behind)) = marks s ++ marks behind := by
  rw [blankLine, List.cons_append, marks_append_cons Mark.isMarkChar_newline, List.cons_append,
    marks_cons Mark.isMarkChar_newline, List.nil_append]

private theorem marks_concat_blankLine (s : Text) : marks (s ++ blankLine) = marks s := by
  rw [← List.append_nil blankLine, marks_append_blankLine, marks_nil, List.append_nil]

private theorem closes_blankLine (s : Text) : Closes (s ++ blankLine) := by
  intro behind
  rw [List.append_assoc, marks_append_blankLine, marks_concat_blankLine]

/-- Closed texts one behind the other are a closed text with the marks of all. -/
theorem marks_flatMap {α : Type} {write : α → Text} {parts : List α}
    (each : ∀ part ∈ parts, Closes (write part)) :
    Closes (parts.flatMap write) ∧
      marks (parts.flatMap write) = (parts.map write).flatMap marks := by
  induction parts with
  | nil => exact ⟨closes_nil, marks_nil⟩
  | cons part parts ih =>
    have first := each part List.mem_cons_self
    obtain ⟨closes, same⟩ := ih fun part member => each part (List.mem_cons_of_mem _ member)
    rw [List.flatMap_cons]
    exact ⟨first.append closes, (first _).trans (congrArg (marks (write part) ++ ·) same)⟩

private theorem marks_paragraphs (config : Config) (items : List Paragraph) :
    marks (paragraphs config items) = (items.map (paragraph config)).flatMap marks :=
  marks_join (Mark.delimited Mark.isMarkChar_newline Mark.isMarkChar_newline rfl rfl)
    (marks_of_no_hyphen (by decide)) _

private theorem setAs_paragraphs (site : marks config.siteBaseUrl = []) (items : List Paragraph) :
    (Contents.gather paragraphContents items).SetAs (items.map (paragraph config)) :=
  .gather fun item _ => setAs_paragraph site item

private theorem closes_separately (config : Config) (items : List Paragraph) :
    Closes (separately config items) ∧
      marks (separately config items) = (items.map (paragraph config)).flatMap marks := by
  obtain ⟨closes, same⟩ := marks_flatMap fun item (_ : item ∈ items) =>
    closes_blankLine (paragraph config item)
  refine ⟨closes, same.trans ?_⟩
  rw [List.flatMap_map, List.flatMap_map]
  simp only [marks_concat_blankLine]

/-! ## Sections -/

/-- What keywords consist of. -/
def keywordsContents (keywords : Keywords) : Contents :=
  .ofPassages (keywords.annotations ++ keywords.keywords)

/-- What a title section consists of. -/
def titleContents (title : TitleSection) : Contents :=
  ⟨[title.text], title.link.toList⟩ ++ .gather paragraphContents title.paragraphs

/-- What the heading of a section consists of, if there is one. -/
def headingContents : Option Heading → Contents
  | none => .ofPassages []
  | some heading => contents heading.text

/-- What a section consists of. -/
def sectionContents : Section → Contents
  | .title title => titleContents title
  | .abstract items keywords =>
    .gather paragraphContents items ++ .gather keywordsContents keywords
  | .keywords keywords => keywordsContents keywords
  | .bibliography items => .gather paragraphContents items
  | .content heading items => headingContents heading ++ .gather paragraphContents items

/-- What a document consists of. -/
def documentContents (document : Document) : Contents :=
  .gather sectionContents document.sections

private theorem setAs_keywordsLine (keywords : Keywords) :
    (keywordsContents keywords).SetAs [keywordsLine keywords] := by
  apply (Contents.setAs_ofPassages (keywords.annotations ++ keywords.keywords)).ofMarks
  have between : marks " \\and ".toList = [] := marks_of_no_hyphen (by decide)
  rw [keywordsLine, marks_joinLines, List.flatMap_append, List.flatMap_append,
    List.flatMap_singleton, marks_command (by decide), marks_concat (by decide),
    marks_join (Mark.delimited (c := ' ') (d := ' ') (by decide) (by decide) rfl rfl) between,
    List.flatMap_map]
  simp only [marks_escape]

/-- The line of a title is its text and its link, set. -/
theorem setAs_titleLine (site : marks config.siteBaseUrl = []) (title : TitleSection) :
    Contents.SetAs ⟨[title.text], title.link.toList⟩ [titleLine config title] := by
  intro mark
  unfold titleLine
  cases title.link with
  | none =>
    simp only [Contents.total, Option.toList_none, tally_singleton, marks_escape, tally_nil]
    omega
  | some link =>
    have plain : '-' ∉ "href".toList := by decide
    have written : marks (linkCommand "href" (escapeUrl (absoluteUrl config link))
        (escape title.text)) = marks (absoluteUrl config link) ++ marks title.text := by
      rw [linkCommand, marks_concat (by decide), marks_append_cons (by decide),
        marks_command plain, marks_escapeUrl, marks_escape]
    have target : (marks (absoluteUrl config link)).count mark ≤ (marks link).count mark := by
      by_cases document : isDocumentLink link = true
      · rw [marks_absoluteUrl site document]
        exact Nat.zero_le _
      · exact Nat.le_of_eq (by rw [absoluteUrl, if_neg document])
    simp only [Contents.total, Option.toList_some, tally_singleton, written, List.count_append]
    omega

/-- A title block marks what the line of the title does. -/
theorem marks_titleBlock (config : Config) (title : TitleSection) :
    marks (titleBlock config title) = marks (titleLine config title) := by
  have opening : marks (openEnvironment "center") = [] := marks_openEnvironment (by decide)
  have closing : marks (closeEnvironment "center") = [] := marks_closeEnvironment (by decide)
  have above : Mark.lexicon.Delimited
      "\n    \x7b\\Large\\bfseries\\boldmath\n        ".toList :=
    Mark.delimited (d := ' ') Mark.isMarkChar_newline (by decide) rfl rfl
  have below : Mark.lexicon.Delimited "\n        \\par\x7d\n    \\vskip 0.8cm\n".toList :=
    Mark.delimited Mark.isMarkChar_newline Mark.isMarkChar_newline rfl rfl
  rw [titleBlock, marks_concat_blankLine, List.append_assoc, List.append_assoc, List.append_assoc,
    marks_between above, marks_between below, opening, closing,
    marks_of_no_hyphen (s := "\n    \x7b\\Large\\bfseries\\boldmath\n        ".toList) (by decide),
    marks_of_no_hyphen (s := "\n        \\par\x7d\n    \\vskip 0.8cm\n".toList) (by decide)]
  simp only [List.nil_append, List.append_nil]

private theorem setAs_blankLine {contents : Contents} {written : Text}
    (set : contents.SetAs [written]) :
    contents.SetAs [written ++ blankLine] :=
  set.ofMarks ((marks_concat_blankLine written).trans (List.flatMap_singleton ..).symm)

/-- Paragraphs with a blank line behind the last. -/
theorem setAs_paragraphsBlock (site : marks config.siteBaseUrl = []) (items : List Paragraph) :
    (Contents.gather paragraphContents items).SetAs [paragraphs config items ++ blankLine] :=
  setAs_blankLine ((setAs_paragraphs site items).ofMarks (marks_paragraphs config items))

/-- A title is its contents, set, and no mark reaches out of it. -/
theorem setAs_title (site : marks config.siteBaseUrl = []) (title : TitleSection) :
    Closes (titleSection config title) ∧
      (titleContents title).SetAs [titleSection config title] := by
  have name : Closes (if title.text.isEmpty then [] else titleBlock config title) ∧
      Contents.SetAs ⟨[title.text], title.link.toList⟩
        [if title.text.isEmpty then [] else titleBlock config title] := by
    split
    · rename_i empty
      refine ⟨closes_nil, fun mark => ?_⟩
      rw [List.isEmpty_iff.mp empty]
      exact ⟨Nat.le_refl _, Nat.le_add_right _ _⟩
    · exact ⟨closes_blankLine _, (setAs_titleLine site title).ofMarks
        ((marks_titleBlock config title).trans (List.flatMap_singleton ..).symm)⟩
  have items : Closes (if title.paragraphs.isEmpty then []
        else paragraphs config title.paragraphs ++ blankLine) ∧
      (Contents.gather paragraphContents title.paragraphs).SetAs
        [if title.paragraphs.isEmpty then []
          else paragraphs config title.paragraphs ++ blankLine] := by
    split
    · rename_i empty
      rw [List.isEmpty_iff.mp empty]
      exact ⟨closes_nil, (Contents.setAs_ofPassages []).ofMarks marks_nil⟩
    · exact ⟨closes_blankLine _, setAs_paragraphsBlock site _⟩
  exact ⟨name.1.append items.1, name.1.setAs name.2 items.2⟩

/-- A bibliography is the contents of its entries, set, and no mark reaches out of it. -/
theorem setAs_bibliography (site : marks config.siteBaseUrl = []) (items : List Paragraph) :
    Closes (bibliography config items) ∧
      (Contents.gather paragraphContents items).SetAs [bibliography config items] := by
  obtain ⟨closesOthers, others⟩ := closes_separately config (items.filter (!isCitation ·))
  obtain ⟨closesEntries, entries⟩ := closes_separately config (items.filter isCitation)
  have written : Closes (bibliography config items) ∧ marks (bibliography config items) =
      marks (separately config (items.filter (!isCitation ·))) ++
        marks (separately config (items.filter isCitation)) := by
    unfold bibliography
    dsimp only
    split
    · rename_i empty
      have none : separately config [] = [] := rfl
      rw [List.isEmpty_iff.mp empty, none, List.append_nil, marks_nil, List.append_nil]
      exact ⟨closesOthers, rfl⟩
    · have opens : openEnvironment "thebibliography" ++ "\x7b99\x7d\n\n".toList =
          openEnvironment "thebibliography" ++ "\x7b99\x7d".toList ++ blankLine := by
        rw [List.append_assoc]
        rfl
      have opening : marks (openEnvironment "thebibliography" ++ "\x7b99\x7d".toList) = [] :=
        marks_of_no_hyphen (by decide)
      have closing : marks (closeEnvironment "thebibliography") = [] :=
        marks_closeEnvironment (by decide)
      refine ⟨closesOthers.append (closes_blankLine _), ?_⟩
      rw [closesOthers, marks_concat_blankLine, opens, List.append_assoc, closes_blankLine,
        marks_concat_blankLine, opening, closesEntries, closing, List.nil_append, List.append_nil]
  have partition := List.filter_append_perm (!isCitation ·) items
  simp only [Bool.not_not] at partition
  refine ⟨written.1, (setAs_paragraphs site items).congr fun mark => ?_⟩
  rw [tally_singleton, written.2, others, entries, ← tally_perm (partition.map _), List.map_append,
    tally_append, List.count_append]
  rfl

private theorem setAs_heading (site : marks config.siteBaseUrl = []) (heading : Option Heading) :
    Closes ((heading.map (headingLine config)).getD []) ∧
      (headingContents heading).SetAs [(heading.map (headingLine config)).getD []] := by
  cases heading with
  | none => exact ⟨closes_nil, (Contents.setAs_ofPassages []).ofMarks marks_nil⟩
  | some heading =>
    have plain : '-' ∉ heading.level.command := by
      cases heading.level <;> decide
    exact ⟨closes_blankLine _, setAs_blankLine ((setAs_inline site heading.text).ofMarks
      ((marks_command plain _).trans (List.flatMap_singleton ..).symm))⟩

private theorem setAs_content (site : marks config.siteBaseUrl = []) (heading : Option Heading)
    (items : List Paragraph) :
    (sectionContents (.content heading items)).SetAs
      [section_ config (.content heading items)] := by
  obtain ⟨closes, set⟩ := setAs_heading site heading
  rw [section_, List.append_assoc]
  exact closes.setAs set (setAs_paragraphsBlock site items)

private theorem setAs_abstract (site : marks config.siteBaseUrl = []) (items : List Paragraph)
    (keywords : List Keywords) :
    (sectionContents (.abstract items keywords)).SetAs
      [section_ config (.abstract items keywords)] := by
  refine setAs_blankLine (((setAs_paragraphs site items).append
    (.gather fun keywords _ => setAs_keywordsLine keywords)).ofMarks ?_)
  rw [marks_environment (by decide), List.flatMap_append, ← marks_paragraphs]
  unfold abstractKeywords
  split
  · rename_i empty
    rw [List.isEmpty_iff.mp empty, List.append_nil]
    exact (List.append_nil _).symm
  · rw [marks_append_blankLine, marks_joinLines]

/-- What is written for a section is closed, and sets its contents. -/
theorem setAs_section (site : marks config.siteBaseUrl = []) (part : Section) :
    Closes (section_ config part) ∧ (sectionContents part).SetAs [section_ config part] := by
  cases part with
  | title title => exact setAs_title site title
  | abstract items keywords => exact ⟨closes_blankLine _, setAs_abstract site items keywords⟩
  | keywords keywords => exact ⟨closes_blankLine _, setAs_blankLine (setAs_keywordsLine keywords)⟩
  | bibliography items => exact setAs_bibliography site items
  | content heading items => exact ⟨closes_blankLine _, setAs_content site heading items⟩

/-- **What the body of a paper holds**: the marks of all passages of the document, and
beside them marks of destinations only. -/
theorem setAs_body (site : marks config.siteBaseUrl = []) (document : Document) :
    (documentContents document).SetAs [body config document] := by
  have written := marks_flatMap fun part (_ : part ∈ document.sections) =>
    (setAs_section site part).1
  exact (Contents.SetAs.gather fun part _ => (setAs_section site part).2).ofMarks written.2

end Scriptorium.Latex
