import Scriptorium.Proofs.Citation.Links
/-! # Names and destinations on a page

The destinations of a page lead to the names of entries and of first references. They
survive the publishing of links exactly when the anchors of all citations are stable
(`Citation.publishLinks_page`): a name behind its lead must be an anchor itself. The names
are pairwise distinct exactly when no anchor is that of a referred citation behind `ref-`
(`Citation.nodup_names_iff`): the first reference to the one would have the name of the entry
of the other.
-/

namespace Scriptorium.Citation

open Html Attribute

variable {attr : Attribute} {citation : Citation} {table : CitationTable} {html : Text}
  {seen : List Text}

/-- The page of a text: its tokens as links, and the bibliography behind it. -/
def page (table : CitationTable) (html : Text) : Text :=
  resolve table html ++ bibliography table

private theorem values_resolve_append (plain : ∀ citation ∈ table.entries, citation.IsPlain)
    (lacks : Lacks attr table html) {rest : Text} (apart : ∀ c ∈ rest.head?, attr.IsForeign c) :
    attr.values (resolve table html ++ rest) =
      (withFirst [] (referred table html)).flatMap (fun link => linkValues attr link.1 link.2) ++
        attr.values rest :=
  -- No text of the page is pending in front of its first token.
  have text : attr.IsAbsent ([] ++ html) := lacks.text
  values_resolvePieces plain text lacks.names apart

/-! ## Destinations -/

private theorem linkValues_href (isFirst : Bool) :
    linkValues href citation isFirst = ['#' :: citation.entryName] := by
  cases isFirst <;> rfl

private theorem entryValues_href (citation : Citation) :
    entryValues href citation = ['#' :: citation.referenceName] :=
  rfl

private theorem bibliographyValues_href (table : CitationTable) :
    bibliographyValues href table =
      table.entries.map fun citation => '#' :: citation.referenceName := by
  cases empty : table.isEmpty with
  | true =>
    rw [bibliographyValues, empty, List.isEmpty_iff.mp empty]
    rfl
  | false =>
    have entries : table.entries.flatMap (entryValues href) =
        table.entries.map fun citation => '#' :: citation.referenceName := by
      rw [funext entryValues_href, List.map_eq_flatMap]
    rw [bibliographyValues, empty, entries]
    rfl

private theorem map_fst_withFirst (seen : List Text) (references : List Citation) :
    (withFirst seen references).map Prod.fst = references := by
  induction references generalizing seen with
  | nil => rfl
  | cons citation later ih => rw [withFirst, List.map_cons, ih]

private theorem head?_bibliography (table : CitationTable) :
    ∀ c ∈ (bibliography table).head?, c ∈ delimiters := by
  unfold bibliography
  cases table.isEmpty with
  | true => exact fun _ => by rintro ⟨⟩
  | false =>
    rintro c ⟨⟩
    decide

/-- **The destinations of a page** lead to the entries of the citations that are referred to,
and from each entry back to the first reference. -/
theorem destinations_page (plain : ∀ citation ∈ table.entries, citation.IsPlain)
    (lacks : Lacks href table html) :
    destinations (page table html) =
      (referred table html).map (fun citation => '#' :: citation.entryName) ++
        table.entries.map fun citation => '#' :: citation.referenceName := by
  have apart : ∀ c ∈ (bibliography table).head?, href.IsForeign c :=
    fun c member => isForeign_of_mem (head?_bibliography table c member)
  rw [destinations, page, values_resolve_append plain lacks apart,
    (yields_bibliography plain).values_eq, bibliographyValues_href]
  have links : (withFirst [] (referred table html)).map (fun link => '#' :: link.1.entryName) =
      (referred table html).map fun citation => '#' :: citation.entryName := by
    conv_rhs => rw [← map_fst_withFirst [] (referred table html), List.map_map]
    rfl
  simp only [linkValues_href, ← List.map_eq_flatMap, links]

private theorem isFragment_of_mem_destinations_page
    (plain : ∀ citation ∈ table.entries, citation.IsPlain)
    (lacks : Lacks href table html) :
    ∀ destination ∈ destinations (page table html), IsFragment destination := by
  rw [destinations_page plain lacks]
  intro destination member
  rcases List.mem_append.mp member with link | back
  · obtain ⟨citation, reference, rfl⟩ := List.mem_map.mp link
    have entry := plain citation (mem_entries_of_mem_referred reference)
    exact ⟨_, rfl, entry.isAnchorChar_entryName⟩
  · obtain ⟨citation, entry, rfl⟩ := List.mem_map.mp back
    exact ⟨_, rfl, (plain citation entry).isAnchorChar_referenceName⟩

/-- A stable anchor is what a name can be made of, and only that. -/
theorem squeeze_name_eq_self_iff (lead : Text) (last : lead.getLast?.any isHyphen = false)
    (kept : lead.squeeze isHyphen '-' = lead) (anchor : Text) :
    Text.squeeze isHyphen '-' (lead ++ '-' :: anchor) = lead ++ '-' :: anchor ↔
      Anchor.IsStable anchor := by
  rw [Text.squeeze_append last, kept, List.append_right_inj, Anchor.squeeze_hyphen_cons_eq_self_iff]

private theorem squeeze_entryName_eq_self_iff : Text.squeeze isHyphen '-' citation.entryName =
    citation.entryName ↔ Anchor.IsStable citation.anchor :=
  squeeze_name_eq_self_iff "citation".toList (by decide) (by decide) citation.anchor

private theorem squeeze_referenceName_eq_self_iff :
    Text.squeeze isHyphen '-' citation.referenceName =
    citation.referenceName ↔ Anchor.IsStable citation.anchor :=
  squeeze_name_eq_self_iff "citation-ref".toList (by decide) (by decide) citation.anchor

/-- Publishing leaves the links of a page alone exactly when all anchors are stable. -/
theorem publishLinks_page_eq_self_iff (plain : ∀ citation ∈ table.entries, citation.IsPlain)
    (lacks : Lacks href table html) :
    publishLinks (page table html) = page table html ↔
      ∀ citation ∈ table.entries, Anchor.IsStable citation.anchor := by
  rw [publishLinks_eq_self_iff (isFragment_of_mem_destinations_page plain lacks),
    destinations_page plain lacks]
  constructor
  · intro kept citation entry
    have back : '#' :: citation.referenceName ∈ table.entries.map fun citation =>
        '#' :: citation.referenceName := List.mem_map_of_mem entry
    exact squeeze_referenceName_eq_self_iff.mp (kept _ (List.mem_append_right _ back))
  · intro stable t member
    rcases List.mem_append.mp member with link | back
    · obtain ⟨citation, reference, same⟩ := List.mem_map.mp link
      rw [← (List.cons_eq_cons.mp same).2]
      exact squeeze_entryName_eq_self_iff.mpr
        (stable citation (mem_entries_of_mem_referred reference))
    · obtain ⟨citation, entry, same⟩ := List.mem_map.mp back
      rw [← (List.cons_eq_cons.mp same).2]
      exact squeeze_referenceName_eq_self_iff.mpr (stable citation entry)

/-! ## Names -/

private theorem linkValues_elementId (isFirst : Bool) :
    linkValues elementId citation isFirst = if isFirst then [citation.referenceName] else [] := by
  cases isFirst <;> rfl

private theorem entryValues_elementId (citation : Citation) :
    entryValues elementId citation = [citation.entryName] :=
  rfl

/-- The names in a bibliography: that of its heading, and those of its entries. -/
theorem bibliographyValues_elementId (nonempty : table.isEmpty = false) :
    bibliographyValues elementId table = "bibliography".toList :: table.entries.map entryName := by
  have entries : table.entries.flatMap (entryValues elementId) = table.entries.map entryName := by
    rw [funext entryValues_elementId, List.map_eq_flatMap]
  rw [bibliographyValues, nonempty, entries]
  rfl

/-- The references that are the first ones to their citations. -/
def firsts (seen : List Text) (references : List Citation) : List Citation :=
  ((withFirst seen references).filter Prod.snd).map Prod.fst

private theorem firsts_cons (seen : List Text) (citation : Citation) (later : List Citation) :
    firsts seen (citation :: later) = if citation.anchor ∈ seen
      then firsts (citation.anchor :: seen) later
      else citation :: firsts (citation.anchor :: seen) later := by
  by_cases again : citation.anchor ∈ seen
  · rw [if_pos again, firsts, withFirst, List.filter_cons_of_neg (by simpa using again)]
    rfl
  · rw [if_neg again, firsts, withFirst, List.filter_cons_of_pos (by simpa using again)]
    rfl

/-- First references are to citations that were not referred to before, and to each only
once. -/
theorem nodup_firsts (seen : List Text) (references : List Citation) :
    ((firsts seen references).map Citation.anchor).Nodup ∧
      ∀ citation ∈ firsts seen references, citation.anchor ∉ seen := by
  induction references generalizing seen with
  | nil => exact ⟨.nil, List.forall_mem_nil _⟩
  | cons citation later ih =>
    obtain ⟨distinct, new⟩ := ih (citation.anchor :: seen)
    have newer : ∀ other ∈ firsts (citation.anchor :: seen) later, other.anchor ∉ seen :=
      fun other member held => new other member (List.mem_cons_of_mem _ held)
    rw [firsts_cons]
    by_cases again : citation.anchor ∈ seen
    · rw [if_pos again]
      exact ⟨distinct, newer⟩
    · rw [if_neg again, List.map_cons, List.nodup_cons, List.forall_mem_cons]
      refine ⟨⟨fun held => ?_, distinct⟩, again, newer⟩
      obtain ⟨other, member, same⟩ := List.mem_map.mp held
      exact new other member (same ▸ List.mem_cons_self)

/-- Each citation that is referred to has a first reference. -/
theorem exists_mem_firsts {references : List Citation} (reference : citation ∈ references)
    (new : citation.anchor ∉ seen) : ∃ first ∈ firsts seen references,
      first.anchor = citation.anchor := by
  induction references generalizing seen with
  | nil => cases reference
  | cons other later ih =>
    rw [firsts_cons]
    by_cases here : other.anchor = citation.anchor
    · rw [here, if_neg new]
      exact ⟨other, List.mem_cons_self, here⟩
    · have behind : citation ∈ later := by
        rcases List.mem_cons.mp reference with rfl | behind
        · exact absurd rfl here
        · exact behind
      have newer : citation.anchor ∉ other.anchor :: seen :=
        List.not_mem_cons_of_ne_of_not_mem (Ne.symm here) new
      obtain ⟨first, member, same⟩ := ih behind newer
      by_cases again : other.anchor ∈ seen
      · rw [if_pos again]
        exact ⟨first, member, same⟩
      · rw [if_neg again]
        exact ⟨first, List.mem_cons_of_mem _ member, same⟩

private theorem mem_of_mem_firsts {references : List Citation}
    (first : citation ∈ firsts seen references) : citation ∈ references := by
  obtain ⟨link, member, rfl⟩ := List.mem_map.mp first
  rw [← map_fst_withFirst seen references]
  exact List.mem_map_of_mem (List.mem_filter.mp member).1

/-- **The names in a text with its tokens as links** are those of the first references. -/
theorem names_resolve (plain : ∀ citation ∈ table.entries, citation.IsPlain)
    (lacks : Lacks elementId table html) :
    elementId.values (resolve table html) =
      (firsts [] (referred table html)).map referenceName := by
  have apart : ∀ c ∈ ([] : Text).head?, elementId.IsForeign c := fun _ => by rintro ⟨⟩
  have whole := values_resolve_append plain lacks apart
  rw [List.append_nil, values_nil, List.append_nil] at whole
  rw [whole]
  simp only [linkValues_elementId]
  unfold firsts
  generalize withFirst [] (referred table html) = links
  induction links with
  | nil => rfl
  | cons link links ih =>
    obtain ⟨citation, isFirst⟩ := link
    cases isFirst with
    | false => exact ih
    | true => exact congrArg (citation.referenceName :: ·) ih

/-- The first reference to one citation has the name of the entry of another when this has
the anchor of that behind `ref-`. -/
theorem referenceName_eq_entryName_iff {entry : Citation} :
    citation.referenceName = entry.entryName ↔ entry.anchor = "ref-".toList ++ citation.anchor := by
  have split : citation.referenceName = "citation-".toList ++ ("ref-".toList ++ citation.anchor) :=
    rfl
  unfold entryName
  rw [split, List.append_right_inj]
  exact eq_comm

private theorem nodup_map_append {lead : Text} {citations : List Citation}
    (distinct : (citations.map Citation.anchor).Nodup) :
    (citations.map fun citation => lead ++ citation.anchor).Nodup := by
  have named := distinct.map (List.append_right_injective lead)
  rwa [List.map_map] at named

/-- The names in a text and in its bibliography are pairwise distinct exactly when no anchor is
that of a referred citation behind `ref-`. -/
theorem nodup_names (plain : ∀ citation ∈ table.entries, citation.IsPlain)
    (distinct : (table.entries.map Citation.anchor).Nodup) (lacks : Lacks elementId table html) :
    (elementId.values (resolve table html) ++ elementId.values (bibliography table)).Nodup ↔
      ∀ reference ∈ referred table html, ∀ entry ∈ table.entries,
        entry.anchor ≠ "ref-".toList ++ reference.anchor := by
  cases empty : table.isEmpty with
  | true =>
    have nothing : table.entries = [] := List.isEmpty_iff.mp empty
    have noReference : referred table html = [] := by
      apply List.eq_nil_iff_forall_not_mem.mpr
      intro citation reference
      have entry := mem_entries_of_mem_referred reference
      rw [nothing] at entry
      cases entry
    have noEntry : bibliography table = [] := by
      unfold bibliography
      rw [empty]
      rfl
    rw [names_resolve plain lacks, noEntry, noReference, values_nil]
    exact iff_of_true List.nodup_nil (List.forall_mem_nil _)
  | false =>
    rw [names_resolve plain lacks, (yields_bibliography plain).values_eq,
      bibliographyValues_elementId empty, List.nodup_append]
    have references : ((firsts [] (referred table html)).map referenceName).Nodup :=
      nodup_map_append (nodup_firsts [] _).1
    have heading : "bibliography".toList ∉ table.entries.map entryName := by
      intro member
      obtain ⟨entry, -, same⟩ := List.mem_map.mp member
      cases (List.cons_eq_cons.mp same).1
    have entries : ("bibliography".toList :: table.entries.map entryName).Nodup :=
      List.nodup_cons.mpr ⟨heading, nodup_map_append distinct⟩
    constructor
    · rintro ⟨-, -, disjoint⟩ reference referred entry member same
      obtain ⟨first, isFirst, anchor⟩ := exists_mem_firsts referred List.not_mem_nil
      refine disjoint _ (List.mem_map_of_mem isFirst) _
        (List.mem_cons_of_mem _ (List.mem_map_of_mem member)) ?_
      exact referenceName_eq_entryName_iff.mpr (by rw [anchor, same])
    · intro apart
      refine ⟨references, entries, ?_⟩
      rintro _ left _ right rfl
      obtain ⟨first, isFirst, rfl⟩ := List.mem_map.mp left
      rcases List.mem_cons.mp right with same | named
      · cases (List.cons_eq_cons.mp same).1
      · obtain ⟨entry, member, same⟩ := List.mem_map.mp named
        exact apart first (mem_of_mem_firsts isFirst) entry member
          (referenceName_eq_entryName_iff.mp same.symm)

/-! ## Tables of definitions -/

/-- **Links after publishing.** Each link of a reference leads to the name of an entry, and
each entry back to the name of a first reference. Publishing the links of the page leaves
them alone exactly when the anchors of all citations are stable. -/
theorem publishLinks_page {definitions : List (Text × Text)}
    (built : CitationTable.empty.insertAll definitions = table) (lacks : Lacks href table html) :
    destinations (page table html) =
        (referred table html).map (fun citation => '#' :: citation.entryName) ++
          table.entries.map (fun citation => '#' :: citation.referenceName) ∧
      (∀ citation ∈ table.entries,
        elementId.values (bibliographyItem citation) = [citation.entryName] ∧
          elementId.values (referenceLink citation true) = [citation.referenceName]) ∧
      (publishLinks (page table html) = page table html ↔
        ∀ citation ∈ table.entries, Anchor.IsStable citation.anchor) := by
  have plain : ∀ citation ∈ table.entries, citation.IsPlain := built ▸ isPlain_insertAll definitions
  refine ⟨destinations_page plain lacks, fun citation entry => ⟨?_, ?_⟩,
    publishLinks_page_eq_self_iff plain lacks⟩
  · rw [(plain citation entry).yields_bibliographyItem.values_eq, entryValues_elementId]
  · rw [((plain citation entry).yields_referenceLink true).values_eq, linkValues_elementId]
    rfl

/-- Two references to a name with a low line: their links stay as they are when they are published.
-/
theorem publishLinks_page_twoReferences :
    let table := CitationTable.empty.insertAll [("a_b".toList, "Text.".toList)]
    let html := tokens ["a_b".toList, "a_b".toList]
    Lacks href table html ∧ publishLinks (page table html) = page table html := by
  intro table html
  have lacks : Lacks href table html := lacks_tokens (by decide) (by decide)
  have entries : table.entries = [⟨"a_b".toList, "a-b".toList, "Text.".toList, 0, none⟩] := by
    decide
  refine ⟨lacks, (publishLinks_page rfl lacks).2.2.mpr ?_⟩
  rw [entries]
  intro citation member
  rw [List.mem_singleton.mp member]
  exact ⟨by decide, by decide⟩

/-- A name that starts with a low line has an anchor that starts with a hyphen, and once they
are published the links to it miss it. -/
theorem publishLinks_page_leadingLine :
    let table := CitationTable.empty.insertAll [("_a".toList, "Text.".toList)]
    let html := tokens ["_a".toList]
    elementId.values (bibliography table) = ["bibliography".toList, "citation--a".toList] ∧
      "#citation--a".toList ∈ destinations (page table html) ∧
      "#citation--a".toList ∉ destinations (publishLinks (page table html)) := by
  intro table html
  have plain : ∀ citation ∈ table.entries, citation.IsPlain := isPlain_insertAll _
  have lacks : Lacks href table html := lacks_tokens (by decide) (by decide)
  have names : table.entries.map entryName = ["citation--a".toList] := by decide
  have before : destinations (page table html) =
      ["#citation--a".toList, "#citation-ref--a".toList] := by
    rw [destinations_page plain lacks, referred_tokens (by decide)]
    decide
  refine ⟨?_, ?_, ?_⟩
  · rw [(yields_bibliography plain).values_eq, bibliographyValues_elementId (by decide),
      names]
  · rw [before]
    exact List.mem_cons_self
  · rw [destinations_publishLinks (isFragment_of_mem_destinations_page plain lacks), before]
    decide

/-- **Names on a page.** The names in a text and in its bibliography are pairwise distinct
exactly when no citation has the anchor of a referred one behind `ref-`. -/
theorem nodup_names_iff {definitions : List (Text × Text)}
    (built : CitationTable.empty.insertAll definitions = table)
    (lacks : Lacks elementId table html) :
    (elementId.values (resolve table html) ++ elementId.values (bibliography table)).Nodup ↔
      ∀ reference ∈ referred table html, ∀ entry ∈ table.entries,
        entry.anchor ≠ "ref-".toList ++ reference.anchor :=
  nodup_names (built ▸ isPlain_insertAll definitions)
    (built ▸ (CitationTable.isConsistent_insertAll definitions).anchors_nodup) lacks

/-- Two references to one of two citations: no name comes twice. -/
theorem nodup_names_twoCitations :
    let table := CitationTable.empty.insertAll
      [("a".toList, "A.".toList), ("b".toList, "B.".toList)]
    let html := tokens ["a".toList, "a".toList]
    Lacks elementId table html ∧
      (elementId.values (resolve table html) ++ elementId.values (bibliography table)).Nodup := by
  intro table html
  have lacks : Lacks elementId table html := lacks_tokens (by decide) (by decide)
  have known : ∀ reference ∈ ["a".toList, "a".toList].filterMap table.get?,
      ∀ entry ∈ table.entries, entry.anchor ≠ "ref-".toList ++ reference.anchor := by
    decide
  refine ⟨lacks, (nodup_names_iff rfl lacks).mpr ?_⟩
  rwa [referred_tokens (by decide)]

/-- The first reference to the one citation has the name of the entry of the other. -/
theorem not_nodup_names_leadInAnchor :
    let table := CitationTable.empty.insertAll
      [("a".toList, "A.".toList), ("ref-a".toList, "B.".toList)]
    let html := tokens ["a".toList]
    ¬ (elementId.values (resolve table html) ++ elementId.values (bibliography table)).Nodup := by
  intro table html
  have plain : ∀ citation ∈ table.entries, citation.IsPlain := isPlain_insertAll _
  have lacks : Lacks elementId table html := lacks_tokens (by decide) (by decide)
  have references : (firsts [] (["a".toList].filterMap table.get?)).map referenceName =
      ["citation-ref-a".toList] := by decide
  have entries : table.entries.map entryName =
      ["citation-a".toList, "citation-ref-a".toList] := by decide
  rw [names_resolve plain lacks, referred_tokens (by decide), references,
    (yields_bibliography plain).values_eq, bibliographyValues_elementId (by decide),
    entries]
  decide

end Scriptorium.Citation
