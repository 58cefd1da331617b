import Scriptorium.Proofs.Citation.Table
import Scriptorium.Proofs.Strings
/-! # The entries of a bibliography

The entries of a document are the citations in its bibliographies
(`Document.bibliographyItems`). A body without a bibliography gets one, and every
bibliography of a body lists the whole table. So a citation is listed as often as the body
has bibliographies, but at least once, and the entries are the table in order exactly when
the body does not have two (`Document.bibliographyItems_build`).
-/

namespace Scriptorium

open Latex (isCitation)

private theorem Paragraph.isCitation_eq (item : Paragraph) :
    isCitation item = item.citationId?.isSome := by
  obtain ⟨kind, content, annotations⟩ := item
  cases kind <;> rfl

private theorem Paragraph.isCitation_split {text : Text} :
    ∀ item ∈ Paragraph.split text, ¬ isCitation item = true := by
  intro item member
  obtain ⟨lines, -, rfl⟩ := List.mem_map.mp member
  rw [isCitation_eq, citationId?_ofLines]
  exact Bool.false_ne_true

/-- The entries of a section: the citations in it if it is a bibliography. -/
def Section.bibliographyItems : Section → List Paragraph
  | .bibliography items => items.filter isCitation
  | _ => []

namespace Document

variable {metadata : Metadata} {citations : CitationTable} {chunk : List Text}
  {sections : List Section}

/-- The entries of the bibliographies of a document, one behind the other. -/
def bibliographyItems (document : Document) : List Paragraph :=
  document.sections.flatMap Section.bibliographyItems

/-- Whether the heading of a chunk says that it is a bibliography. -/
def isBibliographyChunk (chunk : List Text) : Bool :=
  match firstHeading? chunk with
  | some ((depth, text), _) => depth = 2 && text = "Bibliography".toList
  | none => false

/-- The bibliographies that a body has. -/
def bibliographyChunks (body : Text) : List (List Text) :=
  (chunks false body.lines).tail.filter isBibliographyChunk

/-! ## Sections -/

/-- The word in the heading of a bibliography opens neither an abstract nor keywords. -/
theorem startsWith_bibliography : ∀ word ∈ ["abstract".toList, "keywords".toList],
    Text.startsWith (Text.toLower "Bibliography".toList) word = false := by
  decide

/-- A chunk that is headed as a bibliography becomes one, with the entries of the table behind its
own text. -/
theorem sectionOf_of_isBibliographyChunk (citations : CitationTable)
    (named : isBibliographyChunk chunk = true) :
    ∃ text, sectionOf citations chunk = .bibliography
      ((Paragraph.split text).filter (·.kind != .comment) ++ citationParagraphs citations) := by
  have abstract := startsWith_bibliography "abstract".toList (by simp)
  have keywords := startsWith_bibliography "keywords".toList (by simp)
  unfold isBibliographyChunk at named
  unfold sectionOf
  generalize "Bibliography".toList = bibliography at *
  cases read : firstHeading? chunk with
  | none =>
    rw [read] at named
    cases named
  | some found =>
    obtain ⟨⟨depth, text⟩, others⟩ := found
    rw [read] at named
    have isWord : text = bibliography := of_decide_eq_true (Bool.and_eq_true_iff.mp named).2
    refine ⟨Text.joinLines others, ?_⟩
    dsimp only at named ⊢
    rw [if_pos named, isWord, if_neg (Bool.eq_false_iff.mp abstract),
      if_neg (Bool.eq_false_iff.mp keywords)]

/-- A section is a bibliography exactly when its chunk is headed as one. -/
theorem isBibliography_sectionOf (citations : CitationTable) (chunk : List Text) :
    isBibliography (sectionOf citations chunk) = isBibliographyChunk chunk := by
  by_cases named : isBibliographyChunk chunk = true
  · obtain ⟨text, made⟩ := sectionOf_of_isBibliographyChunk citations named
    rw [made, named]
    rfl
  · rw [Bool.eq_false_iff.mpr named]
    unfold isBibliographyChunk at named
    unfold sectionOf
    cases read : firstHeading? chunk with
    | none => rfl
    | some found =>
      rw [read] at named
      dsimp only at named ⊢
      rw [if_neg named]
      split
      · rfl
      · split <;> rfl

private theorem filter_isCitation_citationParagraphs (citations : CitationTable) :
    (citationParagraphs citations).filter isCitation = citationParagraphs citations := by
  apply List.filter_eq_self.mpr
  intro item member
  obtain ⟨citation, -, rfl⟩ := List.mem_map.mp member
  rfl

/-- A bibliography of a body lists the whole table. -/
theorem bibliographyItems_sectionOf (named : isBibliographyChunk chunk = true) :
    (sectionOf citations chunk).bibliographyItems = citationParagraphs citations := by
  obtain ⟨text, made⟩ := sectionOf_of_isBibliographyChunk citations named
  have others : ((Paragraph.split text).filter (·.kind != .comment)).filter isCitation = [] :=
    List.filter_eq_nil_iff.mpr fun item member =>
      Paragraph.isCitation_split item (List.mem_filter.mp member).1
  rw [made, Section.bibliographyItems, List.filter_append, others, List.nil_append,
    filter_isCitation_citationParagraphs]

/-- Only bibliographies have entries. -/
theorem flatMap_bibliographyItems (sections : List Section) :
    sections.flatMap Section.bibliographyItems =
      (sections.filter isBibliography).flatMap Section.bibliographyItems := by
  induction sections with
  | nil => rfl
  | cons first rest ih =>
    rw [List.flatMap_cons, ih]
    cases first <;> rfl

/-- Keywords are added to an abstract, so the bibliographies stay. -/
theorem filter_attachKeywords? {added : Keywords} {sections' : List Section}
    (attached : attachKeywords? added sections = some sections') :
    sections'.filter isBibliography = sections.filter isBibliography := by
  fun_induction attachKeywords? added sections generalizing sections' with
  | case1 => cases attached
  | case2 first rest later found ih =>
    cases attached
    rw [List.filter_cons, List.filter_cons, ih found]
  | case3 rest last items lists =>
    cases attached
    rfl
  | case4 => cases attached

/-- Sections are added with their bibliographies in order. -/
theorem filter_foldl_addSection (sections added : List Section) :
    (added.foldl addSection sections).filter isBibliography =
      sections.filter isBibliography ++ added.filter isBibliography := by
  have single : ∀ sections added, (addSection sections added).filter isBibliography =
      sections.filter isBibliography ++ [added].filter isBibliography := by
    intro sections added
    unfold addSection
    split
    · rename_i keywords
      cases attached : attachKeywords? keywords sections with
      | none => exact List.filter_append ..
      | some sections' => exact (filter_attachKeywords? attached).trans (List.append_nil _).symm
    · exact List.filter_append ..
  induction added generalizing sections with
  | nil => exact (List.append_nil _).symm
  | cons first added ih =>
    rw [List.foldl_cons, ih, single, List.append_assoc, ← List.filter_append,
      List.singleton_append]

private theorem filter_sectionsOf (metadata : Metadata) (citations : CitationTable)
    (parts : List (List Text)) :
    (sectionsOf metadata citations parts).filter isBibliography =
      (parts.tail.filter isBibliographyChunk).map (sectionOf citations) := by
  cases parts with
  | nil => rfl
  | cons first others =>
    have kinds : isBibliography ∘ sectionOf citations = isBibliographyChunk :=
      funext (isBibliography_sectionOf citations)
    rw [sectionsOf, filter_foldl_addSection, List.filter_map, kinds]
    rfl

/-! ## Documents -/

private theorem any_isBibliography_iff (metadata : Metadata) (citations : CitationTable)
    (body : Text) :
    (sectionsOf metadata citations (chunks false body.lines)).any isBibliography = true ↔
      bibliographyChunks body ≠ [] := by
  rw [bibliographyChunks, ne_eq, ← List.map_eq_nil_iff (f := sectionOf citations),
    ← filter_sectionsOf metadata, List.filter_eq_nil_iff, List.any_eq_true]
  simp only [not_forall, Bool.not_eq_true, Bool.not_eq_false, exists_prop]

/-- The entries of a document are the table, once for each bibliography of the body, but at
least once. -/
theorem bibliographyItems_eq (metadata : Metadata) (citations : CitationTable) (body : Text) :
    (build metadata citations body).bibliographyItems =
      (List.replicate (max 1 (bibliographyChunks body).length)
        (citationParagraphs citations)).flatten := by
  have own : (sectionsOf metadata citations (chunks false body.lines)).flatMap
      Section.bibliographyItems = (List.replicate (bibliographyChunks body).length
        (citationParagraphs citations)).flatten := by
    have each : (bibliographyChunks body).map
        (fun chunk => (sectionOf citations chunk).bibliographyItems) =
          (bibliographyChunks body).map fun _ => citationParagraphs citations :=
      List.map_congr_left fun chunk member =>
        bibliographyItems_sectionOf (List.mem_filter.mp member).2
    rw [flatMap_bibliographyItems, filter_sectionsOf, List.flatMap_map, List.flatMap_def]
    exact congrArg List.flatten (each.trans List.map_const')
  rw [bibliographyItems, build]
  by_cases without : bibliographyChunks body = []
  · have none := mt (any_isBibliography_iff metadata citations body).mp (not_not_intro without)
    rw [Bool.eq_false_iff.mpr none, Bool.false_or]
    rw [without, List.length_nil, List.replicate_zero, List.flatten_nil] at own
    rw [without, List.length_nil, Nat.max_zero, List.replicate_one, List.flatten_singleton]
    split
    · rename_i empty
      have no : citationParagraphs citations = [] := by
        rw [citationParagraphs, List.isEmpty_iff.mp empty, List.map_nil]
      rw [own, no]
    · rw [List.flatMap_append, own, List.nil_append, List.flatMap_singleton]
      exact filter_isCitation_citationParagraphs citations
  · have positive := List.length_pos_iff.mpr without
    rw [(any_isBibliography_iff metadata citations body).mpr without, Bool.true_or, if_pos rfl, own,
      Nat.max_eq_right positive]

/-- The entries list each citation of a table once, at the place that its number says. -/
def ListsEach (citations : CitationTable) (items : List Paragraph) : Prop :=
  items.length = citations.entries.length ∧
    ∀ citation ∈ citations.entries,
      items[citation.index]? = some ⟨.citation citation.id, citation.rawContent, ⟨[], []⟩⟩

instance (citations : CitationTable) (items : List Paragraph) :
    Decidable (ListsEach citations items) :=
  inferInstanceAs (Decidable (_ ∧ _))

private theorem listsEach_citationParagraphs (consistent : citations.IsConsistent) :
    ListsEach citations (citationParagraphs citations) := by
  refine ⟨List.length_map _, fun citation member => ?_⟩
  obtain ⟨place, found⟩ := List.mem_iff_getElem?.mp member
  rw [consistent.index_eq found, citationParagraphs, List.getElem?_map, found, Option.map_some]

private theorem citationIds_citationParagraphs (citations : CitationTable) :
    (citationParagraphs citations).filterMap Paragraph.citationId? =
      citations.entries.map Citation.id := by
  rw [citationParagraphs, List.filterMap_map]
  exact congrFun List.filterMap_eq_map _

/-- **How often a citation is listed.** The entries of a document are the citations of the
table in order, once for each bibliography of the body and at least once. So they list each
citation exactly once unless the body has a second bibliography for citations to stand in. -/
theorem bibliographyItems_build (metadata : Metadata) (edits : List CitationTable.Edit)
    (body : Text) :
    let citations := CitationTable.afterEdits edits
    let items := (build metadata citations body).bibliographyItems
    let count := (bibliographyChunks body).length
    items = (List.replicate (max 1 count) (citationParagraphs citations)).flatten ∧
      (∀ citation ∈ citations.entries,
        (items.filterMap Paragraph.citationId?).count citation.id = max 1 count) ∧
      (ListsEach citations items ↔ citations.entries = [] ∨ count ≤ 1) := by
  intro citations items count
  have consistent : citations.IsConsistent := CitationTable.isConsistent_afterEdits edits
  have repeated : items = _ := bibliographyItems_eq metadata citations body
  refine ⟨repeated, fun citation member => ?_, fun lists => ?_, fun few => ?_⟩
  · have named : citation.id ∈ citations.entries.map Citation.id := List.mem_map_of_mem member
    rw [repeated, List.filterMap_flatten, List.map_replicate, citationIds_citationParagraphs,
      List.count_flatten, List.map_replicate, List.sum_replicate_nat,
      List.count_eq_one_of_mem consistent.ids_nodup named, Nat.mul_one]
  · have length := lists.1
    rw [repeated, List.length_flatten, List.map_replicate, List.sum_replicate_nat,
      citationParagraphs, List.length_map] at length
    rcases Nat.eq_zero_or_pos citations.entries.length with none | filled
    · exact .inl (List.length_eq_zero_iff.mp none)
    · have once := Nat.eq_of_mul_eq_mul_right filled (length.trans (Nat.one_mul _).symm)
      exact .inr ((Nat.le_max_right 1 count).trans_eq once)
  · rcases few with none | few
    · have no : citationParagraphs citations = [] := by
        rw [citationParagraphs, none, List.map_nil]
      rw [repeated, no, List.flatten_replicate_nil, ← no]
      exact listsEach_citationParagraphs consistent
    · rw [repeated, Nat.max_eq_left few, List.replicate_one, List.flatten_singleton]
      exact listsEach_citationParagraphs consistent

/-- A body with two bibliographies. -/
def twoBibliographies : Text :=
  "# T\n---\n## Bibliography\n---\n## Bibliography".toList

/-- A table with one citation. -/
def oneCitation : CitationTable :=
  .afterEdits [.insert ['a'] "A.".toList]

/-- Both bibliographies list the citation. -/
theorem not_listsEach_twoBibliographies :
    ¬ ListsEach oneCitation (build .empty oneCitation twoBibliographies).bibliographyItems := by
  decide

end Document

end Scriptorium
