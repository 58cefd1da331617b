import Scriptorium.Proofs.Html.PublishingAgain
import Scriptorium.Proofs.KeptSign
/-! # What stands outside of destinations

Rewriting the destinations of HTML leaves what stands outside of them as it was, and each
attribute in its place, exactly when no new destination holds a quote
(`Html.outside_mapHrefs_iff`): a quote ends its attribute early.

Anchors and extensions bring no quotes with them. The page of a document has one where the path
of the document, as it is read, has one (`Html.quote_mem_changed_documentHref?_iff`). So
publishing the links keeps what stands outside exactly where no path to a document holds a quote
(`Html.outside_publishLinks`).
-/

namespace Scriptorium.Html

open Link (pagePath)

variable {change : Text → Option Text} {html href s value rest : Text}

/-- HTML with its destinations blanked: the characters outside of them, and `none` for each
attribute that holds one. -/
def outside (html : Text) : List (Option Char) :=
  (Scanner.pieces Attribute.href.scan html).map fun
    | .plain c => some c
    | .found _ => none

private theorem outside_nil : outside [] = [] := by
  rw [outside, Scanner.pieces, List.map_nil]

private theorem outside_of_none {c : Char} {cs : Text}
    (absent : Attribute.href.scan (c :: cs) = none) :
    outside (c :: cs) = some c :: outside cs := by
  rw [outside, Scanner.pieces_of_none absent]
  rfl

private theorem outside_of_scan (read : Attribute.href.scan s = some (value, rest)) :
    outside s = none :: outside rest := by
  rw [outside, Scanner.pieces_of_some read (Attribute.length_lt_of_scan read)]
  rfl

/-! ## Quotes -/

/-- The quotes in HTML that is given by what stands outside of its destinations: those outside,
and the two around each destination. -/
def quotes (around : List (Option Char)) : Nat :=
  around.count (some '"') + 2 * around.count none

private theorem count_hrefText (value : Text) :
    (hrefText value).count '"' = 2 + value.count '"' := by
  have lead := List.count_eq_zero.mpr Attribute.href.unquoted_lead
  rw [hrefText_eq, List.count_append, lead, List.count_cons_self, List.count_append,
    List.count_singleton_self]
  omega

/-- The double quotes of a text are those outside of its destinations. -/
theorem count_quote (html : Text) : html.count '"' = quotes (outside html) := by
  induction html using href_induction with
  | nil =>
    rw [outside_nil]
    rfl
  | plain c cs absent ih =>
    rw [outside_of_none absent, quotes, List.count_cons, List.count_cons, List.count_cons, ih,
      quotes]
    simp only [beq_iff_eq, Option.some.injEq, reduceCtorEq, ↓reduceIte]
    omega
  | destination s value rest read ih =>
    obtain ⟨unquoted, whole⟩ := scan_href_iff.mp read
    rw [outside_of_scan read, whole, List.count_append, count_hrefText,
      List.count_eq_zero.mpr unquoted, ih, quotes, quotes, List.count_cons_self,
      List.count_cons_of_ne (by nofun)]
    omega

/-- Rewriting adds the quotes of the new destinations. -/
theorem count_quote_mapHrefs (html : Text) : (mapHrefs change html).count '"' =
    html.count '"' + ((destinations html).map fun href => (changed change href).count '"').sum := by
  unfold destinations
  induction html using href_induction with
  | nil =>
    rw [mapHrefs_nil, Attribute.values_nil]
    rfl
  | plain c cs absent ih =>
    rw [mapHrefs_of_none absent, Attribute.values_of_none absent, List.count_cons, List.count_cons,
      ih]
    omega
  | destination s value rest read ih =>
    obtain ⟨unquoted, whole⟩ := scan_href_iff.mp read
    rw [mapHrefs_of_scan read, Attribute.values_of_scan read, List.count_append, count_hrefText, ih,
      whole, List.count_append, count_hrefText, List.count_eq_zero.mpr unquoted, List.map_cons,
      List.sum_cons]
    omega

/-- Destinations without quotes leave what stands outside. -/
theorem outside_mapHrefs (unquoted : ∀ href ∈ destinations html, '"' ∉ changed change href) :
    outside (mapHrefs change html) = outside html := by
  unfold destinations at unquoted
  induction html using href_induction with
  | nil => rw [mapHrefs_nil]
  | plain c cs absent ih =>
    rw [Attribute.values_of_none absent] at unquoted
    rw [mapHrefs_of_none absent, outside_of_none (scan_mapHrefs_eq_none absent), ih unquoted,
      outside_of_none absent]
  | destination s value rest read ih =>
    rw [Attribute.values_of_scan read, List.forall_mem_cons] at unquoted
    rw [mapHrefs_of_scan read, outside_of_scan (scan_hrefText unquoted.1 _), ih unquoted.2,
      outside_of_scan read]

/-- **Rewriting keeps what stands outside of destinations** exactly when no new destination
holds a quote. -/
theorem outside_mapHrefs_iff : outside (mapHrefs change html) = outside html ↔
    ∀ href ∈ destinations html, '"' ∉ changed change href := by
  refine ⟨fun same href member held => ?_, outside_mapHrefs⟩
  have more : (mapHrefs change html).count '"' = _ := count_quote_mapHrefs html
  rw [count_quote, same, ← count_quote] at more
  have none : ((destinations html).map fun href => (changed change href).count '"').sum = 0 := by
    omega
  have zero := List.sum_eq_zero_iff_forall_eq_nat.mp none _ (List.mem_map_of_mem member)
  exact List.count_eq_zero.mp zero held

/-! ## Published links -/

/-- A quote comes into a destination with the path of a document. -/
theorem quote_mem_changed_documentHref?_iff (unquoted : '"' ∉ href) :
    '"' ∈ changed documentHref? href ↔
      IsDocument (Link.decode href) ∧ '"' ∈ (Link.splitAnchor (Link.decode href)).1 := by
  have path (stem : Text) : '"' ∈ pagePath stem ↔ '"' ∈ stem ++ ".md".toList := by
    have extension : '"' ∉ ".md".toList := by decide
    rw [Link.mem_pagePath_iff (by decide) (by decide) (by decide) (by decide),
      List.mem_append, or_iff_left extension]
  cases leads : documentHref? href with
  | none =>
    rw [changed, leads, Option.getD_none]
    exact iff_of_false unquoted fun both => documentHref?_eq_none_iff.mp leads both.1
  | some page =>
    have document := (documentHref?_eq_some_iff.mp leads).1
    rw [changed, leads, Option.getD_some, and_iff_right document]
    obtain ⟨stem, absent, ⟨whole, rfl⟩ | ⟨anchor, whole, rfl⟩⟩ := documentHref?_cases leads
    · have single : '#' ∉ stem ++ ".md".toList := List.not_mem_append absent (by decide)
      rw [whole, Link.splitAnchor_of_not_mem single, path]
    · have single : '#' ∉ stem ++ ".md".toList := List.not_mem_append absent (by decide)
      have behind : '"' ∉ '#' :: Anchor.ofText anchor :=
        List.not_mem_cons_of_ne_of_not_mem (by decide)
          (not_mem_of_isAnchorChar (Link.isAnchorChar_ofText anchor) (by decide))
      rw [whole, Link.splitAnchor_append_cons single, List.mem_append, or_iff_left behind, path]

/-- **What publishing links keeps.** Anchors and extensions leave what stands outside of
destinations, and each attribute in its place. So do links to documents, exactly where no path to
a document holds a quote. -/
theorem outside_publishLinks (html : Text) :
    outside (anchorFragments html) = outside html ∧
    outside (completeExtensions html) = outside html ∧
    (outside (publishDocuments html) = outside html ↔ ∀ href ∈ destinations html,
      IsDocument (Link.decode href) → '"' ∉ (Link.splitAnchor (Link.decode href)).1) ∧
    (outside (publishLinks html) = outside html ↔ ∀ href ∈ destinations html,
      IsDocument (Link.decode href) → '"' ∉ (Link.splitAnchor (Link.decode href)).1) := by
  have anchors (html : Text) : outside (anchorFragments html) = outside html :=
    outside_mapHrefs fun _ member =>
      not_quote_changed_fragmentHref? (not_mem_of_mem_destinations member)
  have extensions (html : Text) : outside (completeExtensions html) = outside html := by
    refine outside_mapHrefs fun href member => ?_
    rw [changed_extensionHref?_eq]
    exact not_quote_withHtmlExtension (not_mem_of_mem_destinations member)
  have documents : outside (publishDocuments html) = outside html ↔
      ∀ href ∈ destinations html,
        IsDocument (Link.decode href) → '"' ∉ (Link.splitAnchor (Link.decode href)).1 := by
    rw [publishDocuments, outside_mapHrefs_iff]
    refine forall₂_congr fun href member => ?_
    rw [quote_mem_changed_documentHref?_iff (not_mem_of_mem_destinations member), not_and]
  refine ⟨anchors html, extensions html, documents, ?_⟩
  rw [publishLinks, extensions, anchors, documents]

/-- A quote in an anchor does no harm. -/
theorem outside_publishLinks_quotedAnchor :
    (∀ href ∈ destinations "<a href=\"A B.md#&quot;C&quot;\">x</a>".toList,
      IsDocument (Link.decode href) → '"' ∉ (Link.splitAnchor (Link.decode href)).1) ∧
    outside (publishLinks "<a href=\"A B.md#&quot;C&quot;\">x</a>".toList) =
      outside "<a href=\"A B.md#&quot;C&quot;\">x</a>".toList := by
  have links : destinations "<a href=\"A B.md#&quot;C&quot;\">x</a>".toList =
      ["A B.md#&quot;C&quot;".toList] := by decide +kernel
  have plain : ∀ href ∈ destinations "<a href=\"A B.md#&quot;C&quot;\">x</a>".toList,
      IsDocument (Link.decode href) → '"' ∉ (Link.splitAnchor (Link.decode href)).1 := by
    rw [links]
    exact List.forall_mem_singleton.mpr fun _ => by decide +kernel
  exact ⟨plain, (outside_publishLinks _).2.2.2.mpr plain⟩

/-- A quote in the name of a document ends the attribute, and can begin another one. -/
theorem outside_publishDocuments_quotedName :
    outside (publishDocuments "<a href=\"a%22b.md\">x</a>".toList) ≠
        outside "<a href=\"a%22b.md\">x</a>".toList ∧
      destinations (publishDocuments "<a href=\"a%22 href=%22b.md\">x</a>".toList) =
        ["a".toList, "b.html".toList] := by
  decide +kernel

end Scriptorium.Html
