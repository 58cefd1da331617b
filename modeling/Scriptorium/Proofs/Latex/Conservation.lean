import Scriptorium.Proofs.Latex.Repair
import Scriptorium.Proofs.Latex.Source
/-! # Tokens are neither lost nor made

A document holds its tokens in its title, headings, keywords, paragraphs and annotations
(`Document.texts`). The body of a paper, before and after it is put right, holds exactly
these tokens, each as often as the document (`Latex.marks_body_perm`), as long as none
stands in the destination of a link or in the name of a citation.
-/

namespace Scriptorium

variable {mark : Mark}

/-- The texts of a paragraph: its content and the annotations around it. -/
def Paragraph.texts (paragraph : Paragraph) : List Text :=
  paragraph.annotations.pre ++ paragraph.content :: paragraph.annotations.post

/-- The name of the citation that a paragraph is the entry of. -/
def Paragraph.citationId? (paragraph : Paragraph) : Option Text :=
  match paragraph.kind with
  | .citation id => some id
  | _ => none

/-- The keywords and the comment lines among them. -/
def Keywords.texts (keywords : Keywords) : List Text :=
  keywords.annotations ++ keywords.keywords

namespace Section

/-- The paragraphs of a section. -/
def paragraphs : Section → List Paragraph
  | .title front => front.paragraphs
  | .abstract items _ | .bibliography items | .content _ items => items
  | .keywords _ => []

/-- The texts of a section beside its paragraphs: the title, the heading or keywords. -/
def headTexts : Section → List Text
  | .title front => [front.text]
  | .abstract _ lists => lists.flatMap Keywords.texts
  | .keywords list => list.texts
  | .bibliography _ => []
  | .content heading _ => (heading.map Heading.text).toList

end Section

namespace Document

/-- The paragraphs of a document. -/
def paragraphs (document : Document) : List Paragraph :=
  document.sections.flatMap Section.paragraphs

/-- The texts of a document: its title, headings and keywords, and the contents of its
paragraphs with their annotations. -/
def texts (document : Document) : List Text :=
  document.sections.flatMap Section.headTexts ++ document.paragraphs.flatMap Paragraph.texts

/-- No token stands in the destination of a link or in the name of a citation. -/
structure PlainTargets (document : Document) : Prop where
  destinations : ∀ destination ∈ (Latex.documentContents document).destinations,
    marks destination = []
  ids : ∀ paragraph ∈ document.paragraphs, ∀ id ∈ paragraph.citationId?, marks id = []

end Document

namespace Latex

open Paragraph (spells_paragraphBody)

/-- A paragraph consists of its texts, and of the name of a citation. -/
theorem total_paragraphContents (mark : Mark) (paragraph : Paragraph) :
    (paragraphContents paragraph).total mark =
      tally mark paragraph.texts + tally mark paragraph.citationId?.toList := by
  obtain ⟨kind, content, annotations⟩ := paragraph
  have body : (paragraphBodyContents ⟨kind, content, annotations⟩).total mark =
      (marks content).count mark +
        tally mark (Paragraph.citationId? ⟨kind, content, annotations⟩).toList := by
    have running : ∀ kind : ParagraphKind, (kind = .text ∨ kind = .blockquote ∨
        ∃ ordered, kind = .list ordered) →
        (paragraphBodyContents ⟨kind, content, annotations⟩).total mark =
          (marks content).count mark := by
      intro kind isRunning
      rw [← spells_paragraphBody annotations content isRunning mark, tally_singleton]
    cases kind with
    | text => exact running .text (.inl rfl)
    | blockquote => exact running .blockquote (.inr (.inl rfl))
    | list ordered => exact running (.list ordered) (.inr (.inr ⟨ordered, rfl⟩))
    | citation id =>
      have spells := spells_contents content mark
      rw [tally_singleton] at spells
      simp only [paragraphBodyContents, Contents.total_append, Contents.total_ofPassages,
        Paragraph.citationId?, Option.toList_some, spells, Nat.add_comm]
    | code | comment =>
      simp only [paragraphBodyContents, Contents.total_ofPassages, tally_singleton,
        Paragraph.citationId?, Option.toList_none, tally_nil, Nat.add_zero]
  simp only [paragraphContents, Contents.total_append, Contents.total_ofPassages, body,
    Paragraph.texts, tally_append, tally_cons]
  omega

private theorem total_gather_paragraphs (mark : Mark) (items : List Paragraph) :
    (Contents.gather paragraphContents items).total mark =
      tally mark (items.flatMap Paragraph.texts) +
        tally mark (items.flatMap fun item => item.citationId?.toList) := by
  induction items with
  | nil => rfl
  | cons item items ih =>
    rw [Contents.gather, Contents.total_append, total_paragraphContents, ih, List.flatMap_cons,
      List.flatMap_cons, tally_append, tally_append]
    omega

private theorem total_gather_keywords (mark : Mark) (lists : List Keywords) :
    (Contents.gather keywordsContents lists).total mark =
      tally mark (lists.flatMap Keywords.texts) := by
  induction lists with
  | nil => rfl
  | cons keywords lists ih =>
    rw [Contents.gather, Contents.total_append, ih, List.flatMap_cons, tally_append]
    rfl

/-- The link of a title, which is the only target of a section outside of running text. -/
def titleLink : Section → List Text
  | .title title => title.link.toList
  | _ => []

/-- A section consists of its texts, and of the link of its title and the names of
citations. -/
theorem total_sectionContents (mark : Mark) (part : Section) :
    (sectionContents part).total mark = tally mark part.headTexts +
      tally mark (part.paragraphs.flatMap Paragraph.texts) + (tally mark (titleLink part) +
        tally mark (part.paragraphs.flatMap fun item => item.citationId?.toList)) := by
  cases part with
  | title title =>
    simp only [sectionContents, titleContents, Contents.total_append, total_gather_paragraphs,
      Section.headTexts, Section.paragraphs, titleLink]
    simp only [Contents.total]
    omega
  | abstract items lists =>
    simp only [sectionContents, Contents.total_append, total_gather_paragraphs,
      total_gather_keywords, Section.headTexts, Section.paragraphs, titleLink, tally_nil]
    omega
  | keywords list => rfl
  | bibliography items =>
    simp only [sectionContents, total_gather_paragraphs, Section.headTexts, Section.paragraphs,
      titleLink, tally_nil, Nat.zero_add]
  | content heading items =>
    have head : (headingContents heading).total mark =
        tally mark (heading.map Heading.text).toList := by
      cases heading with
      | none => rfl
      | some heading => exact (spells_contents heading.text mark).symm
    simp only [sectionContents, Contents.total_append, total_gather_paragraphs, head,
      Section.headTexts, Section.paragraphs, titleLink, tally_nil, Nat.zero_add]
    omega

/-- A document consists of its texts, and of the links of titles and the names of
citations. -/
theorem total_documentContents (mark : Mark) (document : Document) :
    (documentContents document).total mark = tally mark document.texts +
      (tally mark (document.sections.flatMap titleLink) +
        tally mark (document.paragraphs.flatMap fun item => item.citationId?.toList)) := by
  simp only [documentContents, Document.texts, Document.paragraphs, tally_append]
  induction document.sections with
  | nil => rfl
  | cons part parts ih =>
    rw [Contents.gather, Contents.total_append, total_sectionContents, ih]
    simp only [List.flatMap_cons, List.flatMap_append, tally_append]
    omega

/-- Links lead where those of the parts lead. -/
theorem destinations_gather {α : Type} (contentsOf : α → Contents) (parts : List α) :
    (Contents.gather contentsOf parts).destinations =
      parts.flatMap fun part => (contentsOf part).destinations := by
  induction parts with
  | nil => rfl
  | cons part parts ih => rw [Contents.gather, Contents.destinations_append, ih, List.flatMap_cons]

/-- The link of a title is a destination of the document. -/
theorem titleLink_subset (document : Document) :
    document.sections.flatMap titleLink ⊆ (documentContents document).destinations := by
  intro link member
  obtain ⟨part, listed, inside⟩ := List.mem_flatMap.mp member
  rw [documentContents, destinations_gather]
  refine List.mem_flatMap.mpr ⟨part, listed, ?_⟩
  cases part with
  | title title => exact List.mem_append_left _ inside
  | abstract items lists | keywords list | bibliography items | content heading items =>
    exact absurd inside List.not_mem_nil

private theorem tally_eq_zero {texts : List Text} (none : ∀ text ∈ texts, marks text = [])
    (mark : Mark) : tally mark texts = 0 := by
  rw [tally, List.flatMap_eq_nil_iff.mpr none, List.count_nil]

/-- **Rendering neither loses nor makes tokens.** Where no token stands in the address of
the site, the destination of a link or the name of a citation, the body of a paper holds
each token as often as the texts of its document do, before repairs and after them. -/
theorem marks_body_perm {config : Config} (site : marks config.siteBaseUrl = [])
    {document : Document} (plain : document.PlainTargets) :
    (marks (body config document)).Perm (document.texts.flatMap marks) ∧
      (marks (repair (body config document))).Perm (document.texts.flatMap marks) := by
  rw [marks_repair, and_self, List.perm_iff_count]
  intro mark
  have names :
      tally mark (document.paragraphs.flatMap fun item => item.citationId?.toList) = 0 := by
    apply tally_eq_zero
    intro id member
    obtain ⟨item, listed, named⟩ := List.mem_flatMap.mp member
    exact plain.ids item listed id (Option.mem_toList.mp named)
  have links : tally mark (document.sections.flatMap titleLink) = 0 :=
    tally_eq_zero (fun link member => plain.destinations link (titleLink_subset document member)) _
  have targets : tally mark (documentContents document).destinations = 0 :=
    tally_eq_zero plain.destinations _
  -- Passages come out with all their tokens, and no destination adds one.
  obtain ⟨least, most⟩ := setAs_body site document mark
  have total := total_documentContents mark document
  rw [tally_singleton] at least most
  have whole : (documentContents document).total mark =
      tally mark (documentContents document).passages +
        tally mark (documentContents document).destinations := rfl
  have texts : tally mark document.texts = (document.texts.flatMap marks).count mark := rfl
  omega

/-- A document with tokens in its title, a heading, nested spans, a list, a quotation,
code, a comment and keywords, beside links to documents. -/
def scatteredTokens : Document where
  metadata := ⟨none, none, none, none, none, [], []⟩
  sections := [
    .title ⟨"On LATEX-INLINE-0-247824-END".toList, some "on.md".toList, []⟩,
    .abstract [⟨.text, "**a *LATEX-DISPLAY-0-61-END* [b CITATION-REF-6b-END](c.md)**".toList,
        ⟨["% CITATION-REF-6b-END".toList], []⟩⟩]
      [⟨["LATEX-INLINE-0-247824-END & x".toList], []⟩],
    .content (some ⟨.section, "See CITATION-REF-61-END".toList⟩)
      [⟨.list false, "- LATEX-ENV-0-62-END\nand CITATION-REF-6b-END\n- x".toList, ⟨[], []⟩⟩,
        ⟨.blockquote, "> LATEX-ENV-1-63-END\n>".toList, ⟨[], []⟩⟩,
        ⟨.code none, "CITATION-REF-6b-END".toList, ⟨[], []⟩⟩],
    .bibliography [⟨.citation ['k'], "K, *LATEX-INLINE-1-64-END*.".toList, ⟨[], []⟩⟩]]

/-- What becomes of this document holds its eleven tokens, before repair and after it. -/
theorem marks_body_perm_scatteredTokens :
    marks Config.standard.siteBaseUrl = [] ∧ scatteredTokens.PlainTargets ∧
      (scatteredTokens.texts.flatMap marks).length = 11 ∧
      (marks (body Config.standard scatteredTokens)).Perm (scatteredTokens.texts.flatMap marks) ∧
      (marks (repair (body Config.standard scatteredTokens))).Perm
        (scatteredTokens.texts.flatMap marks) := by
  have site : marks Config.standard.siteBaseUrl = [] := by decide +kernel
  have plain : scatteredTokens.PlainTargets := ⟨by decide +kernel, by decide +kernel⟩
  exact ⟨site, plain, by decide +kernel, marks_body_perm site plain⟩

end Latex

end Scriptorium
