import Scriptorium.Proofs.Bibliography
/-! # Abstracts and their keywords

The chunks of a body fall into those in front of the first abstract and, for each abstract, those
up to the next one (`AbstractPart`). Every chunk is a section of its own, in order, apart from
the keywords behind an abstract: they are the keyword lists of the abstract that their part
starts with (`Document.sections_build`).
-/

namespace Scriptorium

namespace Section

/-- The keywords that a section is. -/
def keywords? : Section → Option Keywords
  | .keywords list => some list
  | _ => none

def isAbstract : Section → Bool
  | .abstract _ _ => true
  | _ => false

end Section

/-- An abstract with the sections of the chunks behind it, up to the next abstract. -/
structure AbstractPart where
  paragraphs : List Paragraph
  others : List Section

namespace AbstractPart

/-- The sections of the chunks of a part, one each. -/
def apart (part : AbstractPart) : List Section :=
  .abstract part.paragraphs [] :: part.others

/-- The sections of a part with its keywords at the abstract. -/
def attached (part : AbstractPart) : List Section :=
  .abstract part.paragraphs (part.others.filterMap Section.keywords?) ::
    part.others.filter (·.keywords?.isNone)

end AbstractPart

namespace Document

variable {sections others : List Section} {added : Keywords} {paragraphs : List Paragraph}
  {lists : List Keywords}

private theorem attachKeywords?_of_none (none : ∀ item ∈ sections, item.isAbstract = false) :
    attachKeywords? added sections = .none := by
  induction sections with
  | nil => rfl
  | cons first rest ih =>
    obtain ⟨here, later⟩ := List.forall_mem_cons.mp none
    unfold attachKeywords?
    rw [ih later]
    cases first with
    | abstract => cases here
    | _ => rfl

/-- Keywords go to the last abstract. -/
theorem attachKeywords?_append_cons (none : ∀ item ∈ others, item.isAbstract = false)
    (sections : List Section) :
    attachKeywords? added (sections ++ .abstract paragraphs lists :: others) =
      some (sections ++ .abstract paragraphs (lists ++ [added]) :: others) := by
  induction sections with
  | nil => rw [List.nil_append, attachKeywords?, attachKeywords?_of_none none, List.nil_append]
  | cons first rest ih =>
    rw [List.cons_append]
    unfold attachKeywords?
    rw [ih, List.cons_append]

private theorem addSection_of_none {item : Section} (other : item.keywords? = none)
    (sections : List Section) : addSection sections item = sections ++ [item] := by
  cases item with
  | keywords => cases other
  | _ => rfl

/-- Without an abstract, every section stands for itself. -/
theorem foldl_addSection_of_none (none : ∀ item ∈ sections ++ others, item.isAbstract = false) :
    others.foldl addSection sections = sections ++ others := by
  induction others generalizing sections with
  | nil => rw [List.foldl_nil, List.append_nil]
  | cons item others ih =>
    have here : addSection sections item = sections ++ [item] := by
      cases item with
      | keywords list =>
        rw [addSection, attachKeywords?_of_none fun item member =>
          none item (List.mem_append_left _ member)]
        rfl
      | _ => rfl
    rw [List.append_cons] at none ⊢
    rw [List.foldl_cons, here, ih none]

/-- Behind an abstract, keywords go to it and all other sections stand behind it. -/
theorem foldl_addSection_abstract (sections : List Section) {kept : List Section}
    (before : ∀ item ∈ kept, item.isAbstract = false)
    (none : ∀ item ∈ others, item.isAbstract = false) :
    others.foldl addSection (sections ++ .abstract paragraphs lists :: kept) =
      sections ++ .abstract paragraphs (lists ++ others.filterMap Section.keywords?) ::
        (kept ++ others.filter (·.keywords?.isNone)) := by
  induction others generalizing lists kept with
  | nil => simp only [List.foldl_nil, List.filterMap_nil, List.filter_nil, List.append_nil]
  | cons item others ih =>
    obtain ⟨here, later⟩ := List.forall_mem_cons.mp none
    rw [List.foldl_cons]
    cases list : item.keywords? with
    | none =>
      have still : ∀ item' ∈ kept ++ [item], item'.isAbstract = false :=
        List.forall_mem_append.mpr ⟨before, List.forall_mem_singleton.mpr here⟩
      rw [addSection_of_none list, List.append_assoc, List.cons_append, ih still later,
        List.filterMap_cons_none list, List.filter_cons_of_pos (by rw [list]; rfl),
        List.append_assoc, List.singleton_append]
    | some added =>
      have same : item = .keywords added := by
        cases item with
        | keywords => rw [Option.some.inj list]
        | _ => cases list
      rw [same, addSection, attachKeywords?_append_cons before, Option.getD_some, ih before later,
        ← same, List.filterMap_cons_some list,
        List.filter_cons_of_neg (by rw [list]; exact Bool.false_ne_true), List.append_assoc,
        List.singleton_append]

/-- **One part** of a body, whatever stands in front of it. -/
theorem foldl_addSection_apart (sections : List Section) (part : AbstractPart)
    (none : ∀ item ∈ part.others, item.isAbstract = false) :
    part.apart.foldl addSection sections = sections ++ part.attached := by
  rw [AbstractPart.apart, List.foldl_cons, addSection_of_none rfl,
    foldl_addSection_abstract sections (List.forall_mem_nil _) none]
  rfl

/-- **All parts** of a body, one after the other. -/
theorem foldl_addSection_flatMap_apart (sections : List Section) {parts : List AbstractPart}
    (none : ∀ part ∈ parts, ∀ item ∈ part.others, item.isAbstract = false) :
    (parts.flatMap AbstractPart.apart).foldl addSection sections =
      sections ++ parts.flatMap AbstractPart.attached := by
  induction parts generalizing sections with
  | nil => exact (List.append_nil _).symm
  | cons part parts ih =>
    obtain ⟨here, later⟩ := List.forall_mem_cons.mp none
    rw [List.flatMap_cons, List.foldl_append, foldl_addSection_apart sections part here,
      ih _ later, List.flatMap_cons, List.append_assoc]

/-- Sections whose abstracts have no keywords yet fall into those in front of the first abstract,
and for each abstract a part, which goes up to the next one. -/
theorem exists_parts
    (bare : ∀ paragraphs lists, Section.abstract paragraphs lists ∈ sections → lists = []) :
    ∃ leading, ∃ parts : List AbstractPart, sections = leading ++ parts.flatMap AbstractPart.apart ∧
      (∀ item ∈ leading, item.isAbstract = false) ∧
      ∀ part ∈ parts, ∀ item ∈ part.others, item.isAbstract = false := by
  induction sections with
  | nil => exact ⟨[], [], rfl, List.forall_mem_nil _, List.forall_mem_nil _⟩
  | cons first rest ih =>
    obtain ⟨leading, parts, rfl, plain, others⟩ :=
      ih fun paragraphs lists member => bare paragraphs lists (List.mem_cons_of_mem _ member)
    cases opening : first.isAbstract with
    | false =>
      exact ⟨first :: leading, parts, rfl, List.forall_mem_cons.mpr ⟨opening, plain⟩, others⟩
    | true =>
      cases first with
      | abstract paragraphs lists =>
        have empty := bare paragraphs lists List.mem_cons_self
        subst empty
        exact ⟨[], ⟨paragraphs, leading⟩ :: parts, rfl, List.forall_mem_nil _,
          List.forall_mem_cons.mpr ⟨plain, others⟩⟩
      | _ => cases opening

/-- A chunk gives an abstract without keywords. -/
theorem eq_nil_of_sectionOf_eq_abstract {citations : CitationTable} {chunk : List Text}
    (same : sectionOf citations chunk = .abstract paragraphs lists) : lists = [] := by
  unfold sectionOf at same
  generalize "abstract".toList = abstract, "keywords".toList = keywords,
    "Bibliography".toList = bibliography at same
  split at same
  · cases same
  · dsimp only at same
    split at same
    · cases same
      rfl
    · split at same
      · cases same
      · split at same <;> cases same

private theorem chunks_ne_nil (inFence : Bool) (lines : List Text) : chunks inFence lines ≠ [] := by
  fun_induction chunks inFence lines <;> exact List.cons_ne_nil _ _

private theorem any_foldl_addSection (sections added : List Section) :
    (added.foldl addSection sections).any isBibliography =
      (sections ++ added).any isBibliography := by
  have same := filter_foldl_addSection sections added
  rw [← List.filter_append] at same
  rw [Bool.eq_iff_iff, ← not_iff_not, Bool.not_eq_true, Bool.not_eq_true, List.any_eq_false,
    List.any_eq_false, ← List.filter_eq_nil_iff, same, List.filter_eq_nil_iff]

/-- **Which sections a document has.** The first chunk of a body is its title. The sections of
the others fall into those in front of the first abstract, which all stand in the document, and
for each abstract those up to the next one; there the keywords are the lists of that abstract, in
order, and the others stand behind it. So keywords stand for themselves only in front of the
first abstract. At the end a bibliography is added when there are citations and no chunk is
one. -/
theorem sections_build (metadata : Metadata) (citations : CitationTable) (body : Text) :
    ∃ first later leading, ∃ parts : List AbstractPart, chunks false body.lines = first :: later ∧
      later.map (sectionOf citations) = leading ++ parts.flatMap AbstractPart.apart ∧
      (∀ item ∈ leading, item.isAbstract = false) ∧
      (∀ part ∈ parts, ∀ item ∈ part.others, item.isAbstract = false) ∧
      (∀ item ∈ parts.flatMap AbstractPart.attached, item.keywords? = none) ∧
      (build metadata citations body).sections =
        .title (titleSection metadata first) ::
          (leading ++ parts.flatMap AbstractPart.attached ++
            if (later.map (sectionOf citations)).any isBibliography || citations.isEmpty then []
            else [.bibliography (citationParagraphs citations)]) := by
  obtain ⟨first, later, cut⟩ := List.exists_cons_of_ne_nil (chunks_ne_nil false body.lines)
  obtain ⟨leading, parts, split, plain, others⟩ : ∃ leading, ∃ parts : List AbstractPart,
      later.map (sectionOf citations) = leading ++ parts.flatMap AbstractPart.apart ∧
        (∀ item ∈ leading, item.isAbstract = false) ∧
        ∀ part ∈ parts, ∀ item ∈ part.others, item.isAbstract = false := by
    refine exists_parts fun paragraphs lists member => ?_
    obtain ⟨chunk, -, same⟩ := List.mem_map.mp member
    exact eq_nil_of_sectionOf_eq_abstract same
  have title : ∀ item ∈ [Section.title (titleSection metadata first)] ++ leading,
      item.isAbstract = false :=
    List.forall_mem_append.mpr ⟨List.forall_mem_singleton.mpr rfl, plain⟩
  have listed : ∀ item ∈ parts.flatMap AbstractPart.attached, item.keywords? = none := by
    intro item member
    obtain ⟨part, -, inside⟩ := List.mem_flatMap.mp member
    rcases List.mem_cons.mp inside with rfl | inside
    · rfl
    · exact Option.isNone_iff_eq_none.mp (List.mem_filter.mp inside).2
  refine ⟨first, later, leading, parts, cut, split, plain, others, listed, ?_⟩
  have sections : sectionsOf metadata citations (chunks false body.lines) =
      .title (titleSection metadata first) ::
        (leading ++ parts.flatMap AbstractPart.attached) := by
    rw [cut, sectionsOf, split, List.foldl_append, foldl_addSection_of_none title,
      foldl_addSection_flatMap_apart _ others, List.append_assoc, List.singleton_append]
  have own : (sectionsOf metadata citations (chunks false body.lines)).any isBibliography =
      (later.map (sectionOf citations)).any isBibliography := by
    rw [cut, sectionsOf, any_foldl_addSection]
    rfl
  rw [build, own, sections]
  split
  · rw [List.append_nil]
  · rw [List.cons_append]

end Document

end Scriptorium
