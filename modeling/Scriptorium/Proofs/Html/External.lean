import Scriptorium.Proofs.Html.PublishingAgain
/-! # Links to other sites

A destination on another site names a host or a scheme, or it holds a colon and no number sign
(`Html.IsExternal`). Each of the three changes has a test of its own, and each test meets all
these forms (`Html.IsExternal.changed_documentHref?` and the two theorems behind it). The test
for documents looks at the destination as it is read; reading keeps the two slashes in front and
every colon.

A change that leaves a destination alone leaves it where it is read, though a destination before
it was given quotes (`Html.sublist_destinations_mapHrefs`). So all links to other sites are found
again, in order, when the links of a page are published (`Html.external_publishLinks`).
-/

namespace Scriptorium.Html

variable {change : Text → Option Text} {html href front rest : Text} {hrefs : List Text}

/-- A destination on another site. -/
inductive IsExternal : Text → Prop
  | host (rest : Text) : IsExternal ("//".toList ++ rest)
  | scheme {letter : Char} {name : Text} (rest : Text) : isAsciiLetter letter = true →
      (∀ c ∈ name, isSchemeChar c = true) → IsExternal (letter :: (name ++ "://".toList ++ rest))
  | colon {href : Text} : ':' ∈ href → '#' ∉ href → IsExternal href

namespace IsExternal

private theorem host_or_colon (external : IsExternal href) : "//".toList <+: href ∨ ':' ∈ href := by
  cases external with
  | host rest => exact .inl (List.prefix_append _ rest)
  | scheme rest => exact .inr (by simp)
  | colon held => exact .inr held

/-- A link that leads off the site is foreign, or has no anchor. -/
theorem isForeign_or_not_mem (external : IsExternal href) :
    isForeign href = true ∨ '#' ∉ href := by
  cases external with
  | host rest =>
    left
    rw [isForeign, Bool.or_eq_true]
    exact .inl (List.isPrefixOf_iff_prefix.mpr (List.prefix_append _ rest))
  | @scheme letter name rest first inside =>
    left
    have letterInside : isSchemeChar letter = true := by
      rw [isSchemeChar, isAsciiAlphanumeric, first]
      rfl
    have behind : (letter :: (name ++ "://".toList ++ rest)).dropWhile isSchemeChar =
        "://".toList ++ rest := by
      rw [List.dropWhile_cons_of_pos letterInside, List.append_assoc,
        List.dropWhile_append_of_pos inside]
      exact List.dropWhile_cons_of_neg (by decide)
    have starts : Text.startsWith ("://".toList ++ rest) "://".toList = true :=
      List.isPrefixOf_iff_prefix.mpr (List.prefix_append _ rest)
    have foreign : hasScheme (letter :: (name ++ "://".toList ++ rest)) = true := by
      rw [hasScheme, behind, starts, Bool.and_true]
      exact first
    rw [isForeign, foreign, Bool.or_true]
  | colon _ single => exact .inr single

/-- The reading of an external destination is no document. -/
theorem changed_documentHref? (external : IsExternal href) :
    changed documentHref? href = href := by
  have other : ¬ IsDocument (Link.decode href) := by
    rintro ⟨onSite, noScheme, -⟩
    rcases external.host_or_colon with slashes | held
    · have bare : ¬ ['<'] <+: href := by
        intro opens
        obtain ⟨rest, rfl⟩ := slashes
        exact absurd (List.cons_prefix_cons.mp opens).1 (by decide)
      rw [Link.decode_of_bare bare] at onSite
      exact onSite (Link.slashes_reading slashes)
    · exact noScheme ((Link.mem_decode_iff (by decide) (by decide)).mpr
        (Link.mem_reading (by decide) held))
  rw [changed, documentHref?_eq_none_iff.mpr other, Option.getD_none]

/-- A link to a fragment is not changed, where it leads off the site. -/
theorem changed_fragmentHref? (external : IsExternal href) :
    changed fragmentHref? href = href := by
  rcases external.isForeign_or_not_mem with foreign | single
  · have none : fragmentHref? href = none := by
      rw [fragmentHref?]
      exact if_pos foreign
    rw [changed, none, Option.getD_none]
  · exact changed_fragmentHref?_of_not_mem single

/-- A link to a document is not changed, where it leads off the site. -/
theorem changed_extensionHref? (external : IsExternal href) :
    changed extensionHref? href = href := by
  rw [changed_extensionHref?_eq, Link.withHtmlExtension, if_neg]
  intro needs
  obtain ⟨onSite, noScheme, -⟩ := Link.needsHtmlExtension_spec needs
  exact external.host_or_colon.elim onSite noScheme

end IsExternal

/-! ## Destinations that stay -/

/-- Behind a quote that ends a text, the destinations are found again, unless the quote opens one
of its own. -/
theorem sublist_destinations_append (closed : ¬ Attribute.href.lead <:+ front) (rest : Text) :
    (destinations rest).Sublist (destinations (front ++ '"' :: rest)) := by
  induction size : front.length using Nat.strongRecOn generalizing front with
  | _ size ih =>
    subst size
    cases read : Attribute.href.scan (front ++ '"' :: rest) with
    | none =>
      cases front with
      | nil =>
        have same : destinations ('"' :: rest) = destinations rest :=
          Attribute.values_of_none read
        exact same ▸ List.Sublist.refl _
      | cons c front =>
        have closed' : ¬ Attribute.href.lead <:+ front :=
          fun suffix => closed (suffix.trans (List.suffix_cons c front))
        have later := ih _ (Nat.lt_succ_self _) closed' rfl
        rw [List.cons_append] at read ⊢
        rwa [destinations, destinations, Attribute.values_of_none read]
    | some found =>
      obtain ⟨value, behind⟩ := found
      obtain ⟨inside, whole⟩ := Attribute.scan_eq_some_iff.mp read
      rw [destinations, destinations, Attribute.values_of_scan read]
      refine List.Sublist.cons value ?_
      -- The quote is not the one behind the lead, so the destination ends with it or before it.
      by_cases opened : '"' ∈ front
      · obtain ⟨lead, after, rfl, plain⟩ := List.eq_append_cons_of_mem opened
        rw [List.append_assoc, List.cons_append] at whole
        obtain ⟨rfl, split⟩ :=
          Attribute.eq_of_append_quote plain Attribute.href.unquoted_lead whole
        by_cases ended : '"' ∈ after
        · obtain ⟨inner, last, rfl, plain⟩ := List.eq_append_cons_of_mem ended
          rw [List.append_assoc, List.cons_append] at split
          obtain ⟨rfl, rfl⟩ := Attribute.eq_of_append_quote plain inside split
          have suffix : last <:+ Attribute.href.lead ++ '"' :: (inner ++ '"' :: last) :=
            ⟨Attribute.href.lead ++ '"' :: (inner ++ ['"']), by simp⟩
          refine ih _ ?_ (fun opens => closed (opens.trans suffix)) rfl
          simp only [List.length_append, List.length_cons]
          omega
        · obtain ⟨-, rfl⟩ := Attribute.eq_of_append_quote ended inside split
          exact List.Sublist.refl _
      · obtain ⟨rfl, -⟩ :=
          Attribute.eq_of_append_quote opened Attribute.href.unquoted_lead whole
        exact absurd List.suffix_rfl closed

/-- **Destinations that do not change are found again**, in order, unless a new destination
ends with the opening of another one. -/
theorem sublist_destinations_mapHrefs (kept : ∀ href ∈ hrefs, changed change href = href)
    (closed : ∀ href ∈ destinations html, '"' ∈ changed change href →
      ¬ Attribute.href.lead <:+ changed change href)
    (listed : hrefs.Sublist (destinations html)) :
    hrefs.Sublist (destinations (mapHrefs change html)) := by
  unfold destinations at closed listed
  induction html using href_induction generalizing hrefs with
  | nil =>
    rw [Attribute.values_nil] at listed
    rw [List.sublist_nil.mp listed]
    exact List.nil_sublist _
  | plain c cs absent ih =>
    rw [Attribute.values_of_none absent] at closed listed
    rw [mapHrefs_of_none absent, destinations,
      Attribute.values_of_none (scan_mapHrefs_eq_none absent)]
    exact ih kept closed listed
  | destination s value rest read ih =>
    rw [Attribute.values_of_scan read] at closed listed
    obtain ⟨here, later⟩ := List.forall_mem_cons.mp closed
    rw [mapHrefs_of_scan read]
    by_cases quoted : '"' ∈ changed change value
    · have other : value ∉ hrefs := by
        intro member
        rw [kept value member] at quoted
        exact (Attribute.scan_eq_some_iff.mp read).1 quoted
      have behind : hrefs.Sublist (Attribute.href.values rest) := by
        cases listed with
        | cons _ behind => exact behind
        | cons_cons _ behind => exact absurd List.mem_cons_self other
      obtain ⟨inner, after, whole, plain⟩ := List.eq_append_cons_of_mem quoted
      have apart : ¬ Attribute.href.lead <:+ after := by
        rw [whole] at quoted here
        exact fun opens => here quoted (opens.trans ⟨inner ++ ['"'], by simp⟩)
      have text : hrefText (changed change value) ++ mapHrefs change rest =
          hrefText inner ++ (after ++ '"' :: mapHrefs change rest) := by
        simp only [hrefText_eq, whole, List.append_assoc, List.cons_append, List.nil_append]
      rw [text, destinations_hrefText plain]
      exact ((ih kept later behind).trans (sublist_destinations_append apart _)).cons inner
    · rw [destinations_hrefText quoted]
      cases listed with
      | cons _ behind => exact (ih kept later behind).cons _
      | cons_cons _ behind =>
        obtain ⟨same, kept⟩ := List.forall_mem_cons.mp kept
        rw [same]
        exact (ih kept later behind).cons_cons value

/-- A page does not end with the opening of an attribute. -/
theorem not_lead_suffix_changed_documentHref? (unquoted : '"' ∉ href)
    (quoted : '"' ∈ changed documentHref? href) :
    ¬ Attribute.href.lead <:+ changed documentHref? href := by
  cases leads : documentHref? href with
  | none =>
    rw [changed, leads, Option.getD_none] at quoted
    exact absurd quoted unquoted
  | some page =>
    rw [changed, leads, Option.getD_some]
    suffices last : page.getLast? ≠ some '=' by
      rintro ⟨front, rfl⟩
      exact last (by rw [Attribute.lead, ← List.append_assoc, List.getLast?_concat])
    obtain ⟨stem, -, ⟨-, rfl⟩ | ⟨anchor, -, rfl⟩⟩ := documentHref?_cases leads
    · exact (Link.pageEnd_pagePath stem).getLast?_ne (by decide)
    · have other : '=' ∉ '#' :: Anchor.ofText anchor :=
        List.not_mem_cons_of_ne_of_not_mem (by decide)
          (not_mem_of_isAnchorChar (Link.isAnchorChar_ofText anchor) (by decide))
      rw [List.getLast?_append, List.getLast?_cons, Option.some_or]
      intro last
      exact other (List.mem_of_getLast? (by rw [List.getLast?_cons, last]))

/-! ## Published links -/

private theorem external_publishDocuments (external : ∀ href ∈ hrefs, IsExternal href)
    (listed : hrefs.Sublist (destinations html)) :
    hrefs.Sublist (destinations (publishDocuments html)) :=
  sublist_destinations_mapHrefs (fun href member => (external href member).changed_documentHref?)
    (fun _ member =>
      not_lead_suffix_changed_documentHref? (not_mem_of_mem_destinations member)) listed

private theorem external_anchorFragments (external : ∀ href ∈ hrefs, IsExternal href)
    (listed : hrefs.Sublist (destinations html)) :
    hrefs.Sublist (destinations (anchorFragments html)) :=
  sublist_destinations_mapHrefs (fun href member => (external href member).changed_fragmentHref?)
    (fun _ member quoted =>
      absurd quoted (not_quote_changed_fragmentHref? (not_mem_of_mem_destinations member))) listed

private theorem external_completeExtensions (external : ∀ href ∈ hrefs, IsExternal href)
    (listed : hrefs.Sublist (destinations html)) :
    hrefs.Sublist (destinations (completeExtensions html)) := by
  refine sublist_destinations_mapHrefs
    (fun href member => (external href member).changed_extensionHref?)
    (fun href member quoted => ?_) listed
  rw [changed_extensionHref?_eq] at quoted
  exact absurd quoted (not_quote_withHtmlExtension (not_mem_of_mem_destinations member))

/-- **Links to other sites stay.** None of the three changes has an effect on them, and they are
found again, in order, behind each change and behind all three. HTML whose links all lead to other
sites stays as it is. -/
theorem external_publishLinks (external : ∀ href ∈ hrefs, IsExternal href)
    (listed : hrefs.Sublist (destinations html)) :
    (∀ href ∈ hrefs, changed documentHref? href = href ∧ changed fragmentHref? href = href ∧
      changed extensionHref? href = href) ∧
    (hrefs.Sublist (destinations (publishDocuments html)) ∧
      hrefs.Sublist (destinations (anchorFragments html)) ∧
      hrefs.Sublist (destinations (completeExtensions html)) ∧
      hrefs.Sublist (destinations (publishLinks html))) ∧
    (hrefs = destinations html →
      publishDocuments html = html ∧ anchorFragments html = html ∧
        completeExtensions html = html ∧ publishLinks html = html) := by
  refine ⟨fun href member => ?_, ⟨external_publishDocuments external listed,
    external_anchorFragments external listed, external_completeExtensions external listed, ?_⟩, ?_⟩
  · have outside := external href member
    exact ⟨outside.changed_documentHref?, outside.changed_fragmentHref?,
      outside.changed_extensionHref?⟩
  · exact external_completeExtensions external
      (external_anchorFragments external (external_publishDocuments external listed))
  · rintro rfl
    have documents : publishDocuments html = html :=
      mapHrefs_eq_self fun href member => (external href member).changed_documentHref?
    have anchors : anchorFragments html = html :=
      mapHrefs_eq_self fun href member => (external href member).changed_fragmentHref?
    have extensions : completeExtensions html = html :=
      mapHrefs_eq_self fun href member => (external href member).changed_extensionHref?
    refine ⟨documents, anchors, extensions, ?_⟩
    rw [publishLinks, documents, anchors, extensions]

/-- Links to other sites by a host, by a scheme and by a colon. -/
def siteLinks : List Text :=
  ["//x/%20A.md#B C".toList, "git+ssh://x/a.md#B".toList, "mailto:a&amp;.md".toList]

/-- HTML whose first link is torn by a quote when it is published. -/
def tornLink : Text :=
  ("<a href=\"a%22b.md\">1</a><a href=\"//x/%20A.md#B C\">2</a>" ++
    "<a href=\"git+ssh://x/a.md#B\">3</a><a href=\"mailto:a&amp;.md\">4</a>").toList

/-- The links to other sites behind a torn one are found again. -/
theorem external_publishLinks_tornLink :
    (∀ href ∈ siteLinks, IsExternal href) ∧ siteLinks.Sublist (destinations tornLink) ∧
      siteLinks.Sublist (destinations (publishLinks tornLink)) := by
  have host : IsExternal "//x/%20A.md#B C".toList := by
    have spelled : "//x/%20A.md#B C".toList = "//".toList ++ "x/%20A.md#B C".toList := by
      decide
    exact spelled ▸ .host _
  have scheme : IsExternal "git+ssh://x/a.md#B".toList := by
    have spelled : "git+ssh://x/a.md#B".toList =
        'g' :: ("it+ssh".toList ++ "://".toList ++ "x/a.md#B".toList) := by decide
    exact spelled ▸ .scheme _ (by decide) (List.all_eq_true.mp (by decide))
  have colon : IsExternal "mailto:a&amp;.md".toList := .colon (by decide) (by decide)
  have external : ∀ href ∈ siteLinks, IsExternal href :=
    List.forall_mem_cons.mpr ⟨host, List.forall_mem_cons.mpr
      ⟨scheme, List.forall_mem_singleton.mpr colon⟩⟩
  have listed : siteLinks.Sublist (destinations tornLink) := by decide +kernel
  exact ⟨external, listed, (external_publishLinks external listed).2.1.2.2.2⟩

end Scriptorium.Html
