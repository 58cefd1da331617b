import Scriptorium.Proofs.AnchorForm
import Scriptorium.Proofs.Html.Document
/-! # Publishing links again

The three changes of a destination are made one after the other
(`Html.publishLinks_eq_mapHrefs`). Anchors and extensions are made once and for all. A
page stays as it is where it holds no escaped number sign
(`Html.publishedHref_of_documentHref?`), while a link to a document that was left alone for
a colon or a new line in its anchor becomes one to its page as soon as the anchor is made
(`Html.publishedHref_publishedHref_of_fragment`).

So publishing links again changes nothing exactly where no such anchor stands
(`Html.publishLinks_twice`).
-/

namespace Scriptorium

/-! ## Extensions -/

namespace Link

variable {path t : Text}

private theorem lastSegment_append (whole : '/' ∉ t) (path : Text) :
    lastSegment (path ++ t) = lastSegment path ++ t := by
  obtain ⟨front, last, parts, longer⟩ := Text.splitOn_append whole path
  rw [lastSegment, lastSegment, longer, parts, List.getLast?_concat, List.getLast?_concat]
  rfl

/-- What a destination that needs an extension does not hold. -/
theorem needsHtmlExtension_spec (needs : needsHtmlExtension path = true) :
    ¬ "//".toList <+: path ∧ ':' ∉ path ∧ '#' ∉ path ∧ lastSegment path ≠ [] := by
  simp only [needsHtmlExtension, isNameless, Bool.and_eq_true, Bool.not_eq_true',
    Bool.or_eq_false_iff, Text.startsWith, List.isEmpty_eq_false_iff, List.contains_eq_mem,
    decide_eq_false_iff_not] at needs
  obtain ⟨⟨⟨⟨⟨⟨-, remote⟩, colon⟩, sign⟩, -⟩, ⟨named, -⟩, -⟩, -⟩ := needs
  refine ⟨fun start => ?_, colon, sign, named⟩
  rw [List.isPrefixOf_iff_prefix.mpr start] at remote
  cases remote

/-- A destination with the extension needs none. -/
theorem needsHtmlExtension_append (named : lastSegment path ≠ []) :
    needsHtmlExtension (path ++ ".html".toList) = false := by
  have inner : hasInnerDot (lastSegment path ++ ".html".toList) = true := by
    cases parts : lastSegment path with
    | nil => exact absurd parts named
    | cons c segment => simp [hasInnerDot]
  rw [needsHtmlExtension, lastSegment_append (by decide), inner]
  exact Bool.and_false _

/-! ## Angle brackets -/

section Angles

variable {c : Char} {href s : Text}

/-- Reading a text back loses no boundary that stands in it. -/
theorem mem_reading (boundary : IsBoundary c) (member : c ∈ s) : c ∈ reading s := by
  obtain ⟨front, back, rfl⟩ := List.append_of_mem member
  rw [reading_append_cons boundary]
  simp

/-- Angle brackets hide no other character. -/
theorem mem_decode_iff (opening : c ≠ '<') (closing : c ≠ '>') :
    c ∈ decode href ↔ c ∈ reading href := by
  rw [decode_eq_reading]
  rcases dropAngles_cases href with kept | ⟨inner, rfl, dropped⟩
  · rw [kept]
  · rw [dropped, reading_cons (by decide), reading_concat (by decide)]
    simp [opening, closing]

end Angles

end Link

namespace Html

open Link (pagePath PageEnd)

variable {href page path fragment html : Text} {change second first : Text → Option Text}

/-! ## Two changes in a row -/

/-- No destination holds a double quote. -/
theorem not_mem_of_mem_destinations (member : href ∈ destinations html) : '"' ∉ href := by
  unfold destinations at member
  induction html using href_induction with
  | nil =>
    rw [Attribute.values_nil] at member
    cases member
  | plain c cs absent ih =>
    rw [Attribute.values_of_none absent] at member
    exact ih member
  | destination s value rest read ih =>
    rw [Attribute.values_of_scan read] at member
    rcases List.mem_cons.mp member with rfl | later
    · exact (Attribute.scan_eq_some_iff.mp read).1
    · exact ih later

/-- Changing links twice is changing them once by both changes, where the first brings no double
quote about. -/
theorem mapHrefs_mapHrefs
    (unquoted : ∀ href ∈ destinations html, '"' ∉ changed first href) :
    mapHrefs second (mapHrefs first html) =
      mapHrefs (fun href => some (changed second (changed first href))) html := by
  unfold destinations at unquoted
  induction html using href_induction with
  | nil => simp only [mapHrefs_nil]
  | plain c cs absent ih =>
    rw [Attribute.values_of_none absent] at unquoted
    rw [mapHrefs_of_none absent, mapHrefs_of_none (scan_mapHrefs_eq_none absent), ih unquoted,
      mapHrefs_of_none absent]
  | destination s value rest read ih =>
    rw [Attribute.values_of_scan read, List.forall_mem_cons] at unquoted
    rw [mapHrefs_of_scan read, mapHrefs_hrefText unquoted.1, ih unquoted.2, mapHrefs_of_scan read]
    rfl

/-- A change that has no effect on its own results has none on the text that it made. -/
theorem mapHrefs_idempotent
    (unquoted : ∀ href ∈ destinations html, '"' ∉ changed change href)
    (settled : ∀ href ∈ destinations html, changed change (changed change href) =
      changed change href) : mapHrefs change (mapHrefs change html) = mapHrefs change html := by
  apply mapHrefs_eq_self
  rw [destinations_mapHrefs unquoted]
  exact List.forall_mem_map.mpr settled

/-! ## Fragments and extensions -/

/-- The scheme of a destination stands before its number sign. -/
theorem hasScheme_append_cons (path fragment : Text) :
    hasScheme (path ++ '#' :: fragment) = hasScheme path := by
  have first : (path ++ '#' :: fragment).head?.any isAsciiLetter =
      path.head?.any isAsciiLetter := by
    cases path with
    | nil => rfl
    | cons c path => rfl
  have behind := Text.dropWhile_append_cons (p := isSchemeChar) (a := '#') (by decide) path fragment
  rw [hasScheme, first, behind, Text.startsWith_append_cons (by decide)]
  rfl

/-- Whether a path leads to another site. -/
def isForeign (path : Text) : Bool :=
  path.startsWith "//".toList || hasScheme path

/-- A destination without a fragment stays. -/
theorem changed_fragmentHref?_of_not_mem (absent : '#' ∉ href) :
    changed fragmentHref? href = href := by
  rw [changed, fragmentHref?, Link.splitAnchor_of_not_mem absent]
  split <;> rfl

private theorem changed_fragmentHref?_append_cons (absent : '#' ∉ path) (fragment : Text) :
    changed fragmentHref? (path ++ '#' :: fragment) =
      path ++ '#' :: (if isForeign path then fragment
        else Anchor.ofText (Link.decode fragment)) := by
  rw [changed, fragmentHref?, Link.splitAnchor_append_cons absent, hasScheme_append_cons,
    Text.startsWith_append_cons (by decide)]
  unfold isForeign
  split <;> rfl

private theorem changed_fragmentHref?_anchor {anchor : Text} (absent : '#' ∉ path)
    (allowed : ∀ c ∈ anchor, Anchor.isAnchorChar c = true)
    (stable : Anchor.ofText anchor = anchor) :
    changed fragmentHref? (path ++ '#' :: anchor) = path ++ '#' :: anchor := by
  rw [changed_fragmentHref?_append_cons absent, decode_of_isAnchorChar allowed, stable, ite_self]

private theorem changed_fragmentHref?_twice (href : Text) :
    changed fragmentHref? (changed fragmentHref? href) = changed fragmentHref? href := by
  rcases Link.splitAnchor_cases href with absent | ⟨path, fragment, absent, rfl⟩
  · rw [changed_fragmentHref?_of_not_mem absent, changed_fragmentHref?_of_not_mem absent]
  · by_cases foreign : isForeign path = true
    · simp only [changed_fragmentHref?_append_cons absent, foreign, ↓reduceIte]
    · rw [changed_fragmentHref?_append_cons absent, if_neg foreign]
      exact changed_fragmentHref?_anchor absent (Link.isAnchorChar_ofText _)
        (Anchor.ofText_ofText _)

/-- Making an anchor of a fragment brings no double quote about. -/
theorem not_quote_changed_fragmentHref? (unquoted : '"' ∉ href) :
    '"' ∉ changed fragmentHref? href := by
  rcases Link.splitAnchor_cases href with absent | ⟨path, fragment, absent, rfl⟩
  · rwa [changed_fragmentHref?_of_not_mem absent]
  · have whole : '"' ∉ path := fun held => unquoted (List.mem_append_left _ held)
    have anchor := not_mem_of_isAnchorChar (c := '"')
      (Link.isAnchorChar_ofText (Link.decode fragment)) (by decide)
    rw [changed_fragmentHref?_append_cons absent]
    split
    · exact unquoted
    · exact List.not_mem_append whole (List.not_mem_cons_of_ne_of_not_mem (by decide) anchor)

/-- Each destination gets the extension of pages, if it leads to one. -/
theorem changed_extensionHref?_eq (href : Text) :
    changed extensionHref? href = Link.withHtmlExtension href := by
  unfold changed extensionHref? Link.withHtmlExtension
  split <;> rfl

private theorem withHtmlExtension_of_mem (held : '#' ∈ href) :
    Link.withHtmlExtension href = href := by
  rw [Link.withHtmlExtension, if_neg]
  exact fun needs => (Link.needsHtmlExtension_spec needs).2.2.1 held

private theorem withHtmlExtension_twice (href : Text) :
    Link.withHtmlExtension (Link.withHtmlExtension href) = Link.withHtmlExtension href := by
  have complete (path : Text) (has : Link.needsHtmlExtension path = false) :
      Link.withHtmlExtension path = path := by
    rw [Link.withHtmlExtension, has, if_neg Bool.false_ne_true]
  cases needs : Link.needsHtmlExtension href with
  | true =>
    have named := (Link.needsHtmlExtension_spec needs).2.2.2
    have extended : Link.withHtmlExtension href = href ++ ".html".toList := by
      rw [Link.withHtmlExtension, if_pos needs]
    rw [extended, complete _ (Link.needsHtmlExtension_append named)]
  | false => rw [complete href needs, complete href needs]

/-- An extension brings no double quote about. -/
theorem not_quote_withHtmlExtension (unquoted : '"' ∉ href) :
    '"' ∉ Link.withHtmlExtension href := by
  unfold Link.withHtmlExtension
  split
  · exact List.not_mem_append unquoted (by decide)
  · exact unquoted

/-- Anchors are made once and for all. -/
theorem anchorFragments_twice (html : Text) :
    anchorFragments (anchorFragments html) = anchorFragments html :=
  mapHrefs_idempotent
    (fun _ member => not_quote_changed_fragmentHref? (not_mem_of_mem_destinations member))
    (fun href _ => changed_fragmentHref?_twice href)

/-- Extensions are given once and for all. -/
theorem completeExtensions_twice (html : Text) :
    completeExtensions (completeExtensions html) = completeExtensions html := by
  refine mapHrefs_idempotent (fun href member => ?_) (fun href _ => ?_)
  · rw [changed_extensionHref?_eq]
    exact not_quote_withHtmlExtension (not_mem_of_mem_destinations member)
  · simp only [changed_extensionHref?_eq, withHtmlExtension_twice]

/-! ## Documents among the results -/

/-- A character at the start of a destination does not make it a document, nor keep it from being
one. -/
theorem isMarkdownTarget_cons {c : Char} (other : c ≠ '#') (plain : c ≠ '.') (target : Text) :
    isMarkdownTarget (c :: target) = isMarkdownTarget target := by
  have ends (path : Text) :
      Text.endsWith (c :: path) ".md".toList = path.endsWith ".md".toList := by
    unfold Text.endsWith
    rw [Bool.eq_iff_iff, List.isSuffixOf_iff_suffix, List.isSuffixOf_iff_suffix,
      List.suffix_cons_iff]
    refine or_iff_right fun same => plain ?_
    exact (List.cons_eq_cons.mp same).1.symm
  rcases Link.splitAnchor_cases target with absent | ⟨path, anchor, absent, rfl⟩
  · have absent' := List.not_mem_cons_of_ne_of_not_mem other.symm absent
    rw [isMarkdownTarget_of_not_mem absent', isMarkdownTarget_of_not_mem absent, ends]
  · have absent' := List.not_mem_cons_of_ne_of_not_mem other.symm absent
    rw [← List.cons_append, isMarkdownTarget_append_cons absent',
      isMarkdownTarget_append_cons absent, ends]

private theorem isDocument_angle_iff {target : Text} (onSite : ¬ "//".toList <+: target) :
    IsDocument ('<' :: target) ↔ IsDocument target := by
  have markdown := isMarkdownTarget_cons (c := '<') (by decide) (by decide) target
  constructor
  · rintro ⟨-, noScheme, document⟩
    exact ⟨onSite, List.not_mem_of_not_mem_cons noScheme, markdown ▸ document⟩
  · rintro ⟨-, noScheme, document⟩
    refine ⟨fun start => ?_, List.not_mem_cons_of_ne_of_not_mem (by decide) noScheme,
      markdown.trans document⟩
    exact absurd (List.cons_prefix_cons.mp start).1 (by decide)

/-- What stands behind a number sign makes no document, and unmakes one only by a colon or a
new line. -/
theorem isDocument_append_iff (front back : Text) :
    IsDocument (front ++ '#' :: back) ↔
      IsDocument (front ++ ['#']) ∧ ':' ∉ back ∧ '\n' ∉ back := by
  have remote (back : Text) : "//".toList <+: front ++ '#' :: back ↔ "//".toList <+: front :=
    Text.prefix_append_cons_iff (by decide) front back
  have markdown := isMarkdownTarget_append front back
  constructor
  · rintro ⟨onSite, noScheme, document⟩
    rw [markdown, Bool.and_eq_true] at document
    simp only [List.mem_append, List.mem_cons, not_or] at noScheme
    refine ⟨⟨fun start => onSite ((remote back).mpr ((remote []).mp start)), ?_, document.1⟩,
      noScheme.2.2, by simpa using document.2⟩
    exact List.not_mem_append noScheme.1 (by decide)
  · rintro ⟨⟨onSite, noScheme, document⟩, colon, line⟩
    refine ⟨fun start => onSite ((remote []).mpr ((remote back).mp start)), ?_, ?_⟩
    · have whole : ':' ∉ front := fun held => noScheme (List.mem_append_left _ held)
      exact List.not_mem_append whole (List.not_mem_cons_of_ne_of_not_mem (by decide) colon)
    · rw [markdown, document, Bool.true_and]
      simpa using line

/-- What follows a text that is no document makes one of it only by an end of its own. -/
theorem IsDocument.of_append {target tail : Text} (document : IsDocument (target ++ tail))
    (single : '#' ∉ tail) (other : ¬ ".md".toList <:+ target ++ tail) : IsDocument target := by
  obtain ⟨onSite, noScheme, markdown⟩ := document
  refine ⟨fun start => onSite (start.trans (List.prefix_append _ _)),
    fun held => noScheme (List.mem_append_left _ held), ?_⟩
  rcases Link.splitAnchor_cases target with absent | ⟨path, anchor, absent, rfl⟩
  · rw [isMarkdownTarget_of_not_mem (List.not_mem_append absent single)] at markdown
    exact absurd (List.isSuffixOf_iff_suffix.mp markdown) other
  · rw [List.append_assoc, List.cons_append, isMarkdownTarget_append_cons absent,
      Bool.and_eq_true] at markdown
    rw [isMarkdownTarget_append_cons absent, Bool.and_eq_true]
    refine ⟨markdown.1, ?_⟩
    have noLine := markdown.2
    simp only [Bool.not_eq_true', List.contains_eq_mem, decide_eq_false_iff_not, List.mem_append,
      not_or] at noLine ⊢
    exact noLine.1

/-- Whether a destination with a fragment is a document is told by its path, colons and new
lines in the fragment apart. -/
theorem isDocument_decode_iff
    (onSite : ['<'] <+: path → ¬ "//".toList <+: Link.decode (path ++ '#' :: fragment)) :
    IsDocument (Link.decode (path ++ '#' :: fragment)) ↔
      IsDocument (Link.decode (path ++ ['#'])) ∧
        ':' ∉ Link.decode fragment ∧ '\n' ∉ Link.decode fragment := by
  have bare : Link.decode (path ++ ['#']) = Link.reading path ++ ['#'] :=
    Link.decode_append_anchor (fun _ held => absurd held List.not_mem_nil) path
  rw [bare, Link.mem_decode_iff (by decide) (by decide),
    Link.mem_decode_iff (by decide) (by decide)]
  rcases Link.dropAngles_cases (path ++ '#' :: fragment) with kept | ⟨inner, whole, dropped⟩
  · rw [Link.decode_eq_reading, kept, Link.reading_append_cons (by decide), isDocument_append_iff]
  · -- The brackets stand around both: one opens the path, the other closes the fragment.
    obtain ⟨start, rfl⟩ : ∃ start, path = '<' :: start := by
      cases path with
      | nil => cases whole
      | cons c start => exact ⟨start, by rw [(List.cons_eq_cons.mp whole).1]⟩
    obtain ⟨middle, rfl, rfl⟩ :
        ∃ middle, fragment = middle ++ ['>'] ∧ inner = start ++ '#' :: middle := by
      have behind : start ++ '#' :: fragment = inner ++ ['>'] := (List.cons_eq_cons.mp whole).2
      rcases List.eq_nil_or_concat fragment with rfl | ⟨middle, d, rfl⟩
      · exact absurd (List.append_inj' behind rfl).2 (by decide)
      · rw [List.concat_eq_append] at behind ⊢
        rw [← List.cons_append, ← List.append_assoc] at behind
        obtain ⟨front, last⟩ := List.append_inj' behind rfl
        exact ⟨middle, by rw [last], front.symm⟩
    have same : Link.decode ('<' :: start ++ '#' :: (middle ++ ['>'])) =
        Link.reading start ++ '#' :: Link.reading middle := by
      rw [Link.decode_eq_reading, dropped, Link.reading_append_cons (by decide)]
    have front := onSite (List.prefix_append ['<'] start)
    rw [same, Text.prefix_append_cons_iff (by decide)] at front
    rw [same, isDocument_append_iff, Link.reading_concat (by decide),
      Link.reading_cons (by decide), List.cons_append, isDocument_angle_iff]
    · simp
    · rwa [Text.prefix_append_cons_iff (by decide)]

/-! ## Pages -/

private theorem decode_append_html (path : Text) :
    Link.decode (path ++ ".html".toList) = Link.reading path ++ ".html".toList := by
  have last : (path ++ ".html".toList).getLast? ≠ some '>' := by simp
  have written : Link.reading "html".toList = "html".toList :=
    Link.reading_eq_self (by decide) (by decide)
  rw [Link.decode_eq_reading, Link.dropAngles_eq_self last,
    show path ++ ".html".toList = path ++ '.' :: "html".toList from rfl,
    Link.reading_append_cons (by decide), written]
  rfl

private theorem not_markdown_append_html (path : Text) :
    ¬ ".md".toList <:+ path ++ ".html".toList :=
  (PageEnd.extension path).not_suffix

private theorem changed_fragmentHref?_page (leads : documentHref? href = some page) :
    changed fragmentHref? page = page := by
  obtain ⟨stem, absent, ⟨-, rfl⟩ | ⟨anchor, -, rfl⟩⟩ := documentHref?_cases leads
  · exact changed_fragmentHref?_of_not_mem (Link.not_sign_pagePath absent)
  · exact changed_fragmentHref?_anchor (Link.not_sign_pagePath absent)
      (Link.isAnchorChar_ofText anchor) (Anchor.ofText_ofText anchor)

/-- A page in which no number sign is escaped is no document. -/
theorem not_isDocument_page (leads : documentHref? href = some page)
    (unescaped : ¬ "%23".toList <:+: page) : ¬ IsDocument (Link.decode page) := by
  obtain ⟨stem, absent, whole⟩ := documentHref?_cases leads
  have ends := Link.pageEnd_pagePath stem
  have bare (inside : pagePath stem <:+: page) : '#' ∉ Link.reading (pagePath stem) := by
    intro held
    rcases Link.infix_of_mem_reading (Link.not_ampersand_pagePath stem) held with sign | escape
    · exact Link.not_sign_pagePath absent sign
    · exact unescaped (escape.trans inside)
  rintro ⟨-, -, markdown⟩
  rcases whole with ⟨-, rfl⟩ | ⟨anchor, -, rfl⟩
  · rw [ends.decode, isMarkdownTarget_of_not_mem (bare List.infix_rfl)] at markdown
    exact ends.reading.not_suffix (List.isSuffixOf_iff_suffix.mp markdown)
  · rw [Link.decode_append_anchor (Link.isAnchorChar_ofText anchor),
      isMarkdownTarget_append_cons (bare (List.prefix_append _ _).isInfix),
      Bool.and_eq_true] at markdown
    exact ends.reading.not_suffix (List.isSuffixOf_iff_suffix.mp markdown.1)

/-- An extension makes no document of a destination. -/
theorem not_isDocument_withHtmlExtension (other : ¬ IsDocument (Link.decode href))
    (onSite : ['<'] <+: href → ¬ "//".toList <+: Link.decode href) :
    ¬ IsDocument (Link.decode (Link.withHtmlExtension href)) := by
  unfold Link.withHtmlExtension
  split
  · intro document
    rw [decode_append_html] at document
    rcases Link.dropAngles_cases href with kept | ⟨inner, rfl, dropped⟩
    · rw [Link.decode_eq_reading, kept] at other
      exact other (document.of_append (by decide) (not_markdown_append_html _))
    · have front := onSite (List.prefix_append ['<'] _)
      rw [Link.decode_eq_reading, dropped] at other front
      rw [Link.reading_cons (by decide), Link.reading_concat (by decide), List.cons_append,
        List.append_assoc, List.singleton_append, isDocument_angle_iff] at document
      · refine other (document.of_append (by decide) ?_)
        rw [show Link.reading inner ++ '>' :: ".html".toList =
          (Link.reading inner ++ ['>']) ++ ".html".toList by simp]
        exact not_markdown_append_html _
      · rwa [Text.prefix_append_cons_iff (by decide)]
  · exact other

private theorem not_isDocument_withHtmlExtension_page (leads : documentHref? href = some page)
    (unescaped : ¬ "%23".toList <:+: page) :
    ¬ IsDocument (Link.decode (Link.withHtmlExtension page)) := by
  have other := not_isDocument_page leads unescaped
  by_cases needs : Link.needsHtmlExtension page = true
  · rw [Link.withHtmlExtension, if_pos needs, decode_append_html]
    intro document
    have single := (Link.needsHtmlExtension_spec needs).2.2.1
    obtain ⟨stem, -, ⟨-, rfl⟩ | ⟨anchor, -, rfl⟩⟩ := documentHref?_cases leads
    · rw [(Link.pageEnd_pagePath stem).decode] at other
      exact other (document.of_append (by decide) (not_markdown_append_html _))
    · exact single (List.mem_append_right _ List.mem_cons_self)
  · rwa [Link.withHtmlExtension, if_neg needs]

private theorem ne_withHtmlExtension_page (leads : documentHref? href = some page) :
    href ≠ Link.withHtmlExtension page := by
  by_cases needs : Link.needsHtmlExtension page = true
  · rw [Link.withHtmlExtension, if_pos needs]
    rintro rfl
    have single := (Link.needsHtmlExtension_spec needs).2.2.1
    obtain ⟨stem, -, ⟨whole, -⟩ | ⟨anchor, -, same⟩⟩ := documentHref?_cases leads
    · rw [decode_append_html] at whole
      exact not_markdown_append_html _ ⟨stem, whole.symm⟩
    · rw [same] at single
      exact single (List.mem_append_right _ List.mem_cons_self)
  · rw [Link.withHtmlExtension, if_neg needs]
    exact ne_of_documentHref? leads

/-! ## All three changes -/

/-- What a destination becomes when links are published. -/
def publishedHref (href : Text) : Text :=
  changed extensionHref? (changed fragmentHref? (changed documentHref? href))

private theorem publishedHref_of_some (leads : documentHref? href = some page) :
    publishedHref href = Link.withHtmlExtension page := by
  have document : changed documentHref? href = page := by rw [changed, leads, Option.getD_some]
  rw [publishedHref, changed_extensionHref?_eq, document, changed_fragmentHref?_page leads]

private theorem publishedHref_of_none (none : documentHref? href = none) :
    publishedHref href = Link.withHtmlExtension (changed fragmentHref? href) := by
  have kept : changed documentHref? href = href := by rw [changed, none, Option.getD_none]
  rw [publishedHref, changed_extensionHref?_eq, kept]

/-- A published destination has its anchor. -/
theorem changed_fragmentHref?_publishedHref (href : Text) :
    changed fragmentHref? (publishedHref href) = publishedHref href := by
  rw [publishedHref, changed_extensionHref?_eq]
  generalize changed documentHref? href = href
  by_cases needs : Link.needsHtmlExtension (changed fragmentHref? href) = true
  · have single := (Link.needsHtmlExtension_spec needs).2.2.1
    rw [Link.withHtmlExtension, if_pos needs]
    exact changed_fragmentHref?_of_not_mem (List.not_mem_append single (by decide))
  · rw [Link.withHtmlExtension, if_neg needs]
    exact changed_fragmentHref?_twice href

/-- A published destination stays exactly when it is no document: its page would be another. -/
theorem publishedHref_publishedHref_iff (href : Text) :
    publishedHref (publishedHref href) = publishedHref href ↔
      ¬ IsDocument (Link.decode (publishedHref href)) := by
  rw [← documentHref?_eq_none_iff]
  constructor
  · intro same
    cases leads : documentHref? (publishedHref href) with
    | none => rfl
    | some page =>
      rw [publishedHref_of_some leads] at same
      exact absurd same.symm (ne_withHtmlExtension_page leads)
  · intro none
    rw [publishedHref_of_none none, changed_fragmentHref?_publishedHref]
    rw [publishedHref, changed_extensionHref?_eq, withHtmlExtension_twice]

/-- A destination without quotes whose page, if it has one, reads as no document in turn, and
which does not hide in angle brackets that it leads to another site. -/
structure IsPlain (href : Text) : Prop where
  unquoted : '"' ∉ Link.decode href
  unescaped : ∀ page, documentHref? href = some page → ¬ "%23".toList <:+: page
  on_site : ['<'] <+: href → ¬ "//".toList <+: Link.decode href

/-- A destination on another site is no document, whatever its fragment. -/
theorem not_isDocument_of_isForeign (foreign : isForeign path = true) :
    ¬ IsDocument (Link.decode (path ++ ['#'])) := by
  rw [Link.decode_append_anchor (fun _ held => absurd held List.not_mem_nil)]
  rintro ⟨onSite, noScheme, -⟩
  unfold isForeign at foreign
  rcases Bool.or_eq_true_iff.mp foreign with start | scheme
  · have slashes := Link.slashes_reading (List.isPrefixOf_iff_prefix.mp start)
    exact onSite (slashes.trans (List.prefix_append _ _))
  · rw [hasScheme, Bool.and_eq_true] at scheme
    obtain ⟨rest, behind⟩ := List.isPrefixOf_iff_prefix.mp scheme.2
    have held : ':' ∈ path.dropWhile isSchemeChar := by
      rw [← behind]
      exact List.mem_cons_self
    exact noScheme (List.mem_append_left _
      (Link.mem_reading (by decide) ((List.dropWhile_suffix _).subset held)))

/-- **What publishing leaves a document.** A published destination is a document exactly when
it was left alone for what stands in its fragment. -/
theorem isDocument_publishedHref_iff (plain : IsPlain href) :
    IsDocument (Link.decode (publishedHref href)) ↔
      ∃ path fragment, Link.splitAnchor href = (path, some fragment) ∧
        IsDocument (Link.decode (path ++ ['#'])) ∧
        (':' ∈ Link.decode fragment ∨ '\n' ∈ Link.decode fragment) := by
  cases leads : documentHref? href with
  | some page =>
    rw [publishedHref_of_some leads]
    refine iff_of_false
      (not_isDocument_withHtmlExtension_page leads (plain.unescaped page leads)) ?_
    rintro ⟨path, fragment, parts, -, special⟩
    obtain ⟨-, rfl⟩ := Link.splitAnchor_eq_some_iff.mp parts
    have document := (documentHref?_eq_some_iff.mp leads).1
    have front (angle : ['<'] <+: path) := plain.on_site (angle.trans (List.prefix_append _ _))
    obtain ⟨-, colon, line⟩ := (isDocument_decode_iff front).mp document
    exact special.elim colon line
  | none =>
    have other := documentHref?_eq_none_iff.mp leads
    rw [publishedHref_of_none leads]
    rcases Link.splitAnchor_cases href with absent | ⟨path, fragment, absent, rfl⟩
    · rw [changed_fragmentHref?_of_not_mem absent, Link.splitAnchor_of_not_mem absent]
      refine iff_of_false (not_isDocument_withHtmlExtension other plain.on_site) ?_
      rintro ⟨path, fragment, parts, -⟩
      cases parts
    · have front (angle : ['<'] <+: path) := plain.on_site (angle.trans (List.prefix_append _ _))
      have told := isDocument_decode_iff front
      have bare (allowed : ∀ c ∈ ([] : Text), Anchor.isAnchorChar c = true) :=
        Link.decode_append_anchor allowed path
      rw [changed_fragmentHref?_append_cons absent, withHtmlExtension_of_mem (by simp),
        Link.splitAnchor_append_cons absent]
      by_cases foreign : isForeign path = true
      · rw [if_pos foreign]
        refine iff_of_false other ?_
        rintro ⟨_, _, ⟨⟩, document, -⟩
        exact not_isDocument_of_isForeign foreign document
      · have anchored := Link.isAnchorChar_ofText (Link.decode fragment)
        rw [if_neg foreign, Link.decode_append_anchor anchored, isDocument_append_iff,
          ← bare (List.forall_mem_nil _)]
        constructor
        · rintro ⟨document, -⟩
          refine ⟨path, fragment, rfl, document, ?_⟩
          exact Classical.byContradiction fun plainly =>
            other (told.mpr ⟨document, not_or.mp plainly⟩)
        · rintro ⟨_, _, ⟨⟩, document, -⟩
          exact ⟨document, not_mem_of_isAnchorChar anchored (by decide),
            not_mem_of_isAnchorChar anchored (by decide)⟩

/-- A destination left a document holds no quote. -/
theorem IsPlain.not_quote_decode (plain : IsPlain href)
    (document : IsDocument (Link.decode (publishedHref href))) :
    '"' ∉ Link.decode (publishedHref href) := by
  obtain ⟨path, fragment, parts, -⟩ := (isDocument_publishedHref_iff plain).mp document
  obtain ⟨absent, rfl⟩ := Link.splitAnchor_eq_some_iff.mp parts
  cases leads : documentHref? (path ++ '#' :: fragment) with
  | some page =>
    rw [publishedHref_of_some leads] at document
    exact absurd document
      (not_isDocument_withHtmlExtension_page leads (plain.unescaped page leads))
  | none =>
    rw [publishedHref_of_none leads, changed_fragmentHref?_append_cons absent,
      withHtmlExtension_of_mem (by simp)]
    split
    · exact plain.unquoted
    · have unquoted := plain.unquoted
      have anchored := Link.isAnchorChar_ofText (Link.decode fragment)
      rw [Link.mem_decode_iff (by decide) (by decide), Link.reading_append_cons (by decide)]
        at unquoted
      rw [Link.decode_append_anchor anchored]
      exact List.not_mem_append (fun held => unquoted (List.mem_append_left _ held))
        (List.not_mem_cons_of_ne_of_not_mem (by decide)
          (not_mem_of_isAnchorChar anchored (by decide)))

/-! ## The whole text -/

/-- A page brings no quote with it. -/
theorem not_quote_changed_documentHref?
    (plain : IsDocument (Link.decode href) → '"' ∉ Link.decode href) (unquoted : '"' ∉ href) :
    '"' ∉ changed documentHref? href := by
  cases leads : documentHref? href with
  | none => rwa [changed, leads, Option.getD_none]
  | some page =>
    have read := plain (documentHref?_eq_some_iff.mp leads).1
    rw [changed, leads, Option.getD_some]
    have path (stem : Text) (whole : '"' ∉ stem) : '"' ∉ pagePath stem := by
      have counts := Link.count_pagePath_le (c := '"') (by decide) (by decide) (by decide)
        (by decide) stem
      rw [List.count_eq_zero.mpr whole] at counts
      exact List.count_eq_zero.mp (Nat.le_zero.mp counts)
    obtain ⟨stem, -, ⟨whole, rfl⟩ | ⟨anchor, whole, rfl⟩⟩ := documentHref?_cases leads
    · rw [whole] at read
      exact path stem fun held => read (List.mem_append_left _ held)
    · rw [whole, List.append_assoc] at read
      refine List.not_mem_append (path stem fun held => read (List.mem_append_left _ held)) ?_
      exact List.not_mem_cons_of_ne_of_not_mem (by decide)
        (not_mem_of_isAnchorChar (Link.isAnchorChar_ofText anchor) (by decide))

/-- Publishing links is one change of each destination. -/
theorem publishLinks_eq_mapHrefs
    (plain : ∀ href ∈ destinations html, '"' ∉ changed documentHref? href) :
    publishLinks html = mapHrefs (fun href => some (publishedHref href)) html := by
  have anchored (href : Text) (member : href ∈ destinations html) :
      '"' ∉ changed fragmentHref? (changed documentHref? href) :=
    not_quote_changed_fragmentHref? (plain href member)
  rw [publishLinks, completeExtensions, anchorFragments, publishDocuments, mapHrefs_mapHrefs plain,
    mapHrefs_mapHrefs anchored]
  rfl

private theorem not_quote_publishedHref (plain : '"' ∉ changed documentHref? href) :
    '"' ∉ publishedHref href := by
  rw [publishedHref, changed_extensionHref?_eq]
  exact not_quote_withHtmlExtension (not_quote_changed_fragmentHref? plain)

/-- Publishing links again changes nothing exactly when it changes no destination. -/
theorem publishLinks_twice_iff (plain : ∀ href ∈ destinations html, IsPlain href) :
    publishLinks (publishLinks html) = publishLinks html ↔
      ∀ href ∈ destinations html, publishedHref (publishedHref href) = publishedHref href := by
  have pages (href : Text) (member : href ∈ destinations html) :
      '"' ∉ changed documentHref? href :=
    not_quote_changed_documentHref? (fun _ => (plain href member).unquoted)
      (not_mem_of_mem_destinations member)
  have published (href : Text) (member : href ∈ destinations html) : '"' ∉ publishedHref href :=
    not_quote_publishedHref (pages href member)
  have links : destinations (publishLinks html) = (destinations html).map publishedHref := by
    rw [publishLinks_eq_mapHrefs pages, destinations_mapHrefs published]
    rfl
  have pagesAgain :
      ∀ href ∈ destinations (publishLinks html), '"' ∉ changed documentHref? href := by
    rw [links]
    refine List.forall_mem_map.mpr fun href member => ?_
    exact not_quote_changed_documentHref? (plain href member).not_quote_decode
      (published href member)
  rw [publishLinks_eq_mapHrefs pagesAgain, mapHrefs_eq_self_iff, links]
  · exact List.forall_mem_map
  · exact fun href member => not_quote_publishedHref (pagesAgain href member)

private theorem publishDocuments_twice (plain : ∀ href ∈ destinations html, IsPlain href) :
    publishDocuments (publishDocuments html) = publishDocuments html := by
  refine mapHrefs_idempotent (fun href member => ?_) (fun href member => ?_)
  · exact not_quote_changed_documentHref? (fun _ => (plain href member).unquoted)
      (not_mem_of_mem_destinations member)
  · cases leads : documentHref? href with
    | none => simp only [changed, leads, Option.getD_none]
    | some page =>
      have settled := documentHref?_eq_none_iff.mpr
        (not_isDocument_page leads ((plain href member).unescaped page leads))
      simp only [changed, leads, Option.getD_some, settled, Option.getD_none]

/-- **Publishing links again.** Anchors and extensions are made once and for all. Where every
destination is plain, so are pages; and publishing the links again changes nothing exactly
where no link to a document holds a colon or a new line in its fragment. -/
theorem publishLinks_twice (html : Text) :
    anchorFragments (anchorFragments html) = anchorFragments html ∧
    completeExtensions (completeExtensions html) = completeExtensions html ∧
    ((∀ href ∈ destinations html, IsPlain href) →
      publishDocuments (publishDocuments html) = publishDocuments html ∧
      (publishLinks (publishLinks html) = publishLinks html ↔
        ∀ href ∈ destinations html, ∀ path fragment,
          Link.splitAnchor href = (path, some fragment) → documentHref? (path ++ ['#']) ≠ none →
            ':' ∉ Link.decode fragment ∧ '\n' ∉ Link.decode fragment)) := by
  refine ⟨anchorFragments_twice html, completeExtensions_twice html, fun plain => ?_⟩
  refine ⟨publishDocuments_twice plain, ?_⟩
  rw [publishLinks_twice_iff plain]
  refine forall₂_congr fun href member => ?_
  rw [publishedHref_publishedHref_iff, isDocument_publishedHref_iff (plain href member)]
  simp only [ne_eq, documentHref?_eq_none_iff, Classical.not_not]
  constructor
  · intro settled path fragment parts document
    exact not_or.mp fun special => settled ⟨path, fragment, parts, document, special⟩
  · rintro plainly ⟨path, fragment, parts, document, special⟩
    have ⟨colon, line⟩ := plainly path fragment parts document
    exact special.elim colon line

/-- A link with a capital in its anchor is published once and for all. -/
theorem publishLinks_twice_capitalFragment :
    (∀ href ∈ destinations "<a href=\"a.md#B\">x</a>".toList, IsPlain href) ∧
      publishLinks (publishLinks "<a href=\"a.md#B\">x</a>".toList) =
        publishLinks "<a href=\"a.md#B\">x</a>".toList := by
  have links : destinations "<a href=\"a.md#B\">x</a>".toList = ["a.md#B".toList] := by
    decide +kernel
  have plain : ∀ href ∈ destinations "<a href=\"a.md#B\">x</a>".toList, IsPlain href := by
    rw [links]
    refine List.forall_mem_singleton.mpr ⟨by decide +kernel, ?_, by decide +kernel⟩
    have leads : documentHref? "a.md#B".toList = some "a.html#b".toList := by decide +kernel
    intro page found
    cases leads.symm.trans found
    decide +kernel
  refine ⟨plain, (((publishLinks_twice _).2.2 plain).2).mpr ?_⟩
  rw [links]
  refine List.forall_mem_singleton.mpr fun path fragment parts _ => ?_
  have cut : Link.splitAnchor "a.md#B".toList = ("a.md".toList, some ['B']) := by decide +kernel
  cases cut.symm.trans parts
  decide +kernel

/-- An escape of an escape is read once each time, and a colon in a fragment stands in the way
of the page the first time only. -/
theorem publishLinks_twice_escapedTwice :
    publishDocuments (publishDocuments "<a href=\"a%252emd%2523b.md\">1</a>".toList) ≠
        publishDocuments "<a href=\"a%252emd%2523b.md\">1</a>".toList ∧
      publishLinks (publishLinks "<a href=\"a%252emd%2523b.md\">1</a>".toList) ≠
        publishLinks "<a href=\"a%252emd%2523b.md\">1</a>".toList ∧
      publishLinks (publishLinks "<a href=\"a.md#b:c\">3</a>".toList) ≠
        publishLinks "<a href=\"a.md#b:c\">3</a>".toList := by
  decide +kernel

end Html

end Scriptorium
