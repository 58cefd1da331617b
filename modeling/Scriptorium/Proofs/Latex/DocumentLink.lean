import Scriptorium.Proofs.Html.Document
import Scriptorium.Proofs.Latex.LinkCommand
/-! # Links to documents in HTML and in LaTeX

HTML and LaTeX decide each on its own whether a destination is a document
(`Html.documentHref?`, `Latex.isDocumentLink`). They agree where the destination stays on
this site, unless a colon or a new line stands in it (`Latex.publishDocuments_ne_iff`), and
then both lead to one page: the command of the LaTeX link is made of the page alone
(`Latex.renderLink_of_document`) and keeps its anchor (`Latex.suffix_pageTarget`).
-/

namespace Scriptorium.Latex

open Html (documentHref? hrefText publishDocuments IsDocument isMarkdownTarget changed)

variable {href page path anchor target t : Text} {config : Config}

/-! ## Which links lead to documents -/

/-- A link leads to a document when its path has the extension, and nothing in it has a scheme. -/
theorem isDocumentLink_iff :
    isDocumentLink target = true ↔
      (Link.splitAnchor target).1.endsWith ".md".toList = true ∧
        Text.occursIn "://".toList target = false := by
  rw [isDocumentLink, Bool.and_eq_true, Bool.not_eq_true']

private theorem mem_of_occursIn {c : Char} {needle s : Text} (held : c ∈ needle)
    (occurs : Text.occursIn needle s = true) : c ∈ s :=
  (Text.occursIn_iff.mp occurs).subset held

/-- On this site a document of HTML is one of LaTeX without a colon, and without a new line
in its anchor. -/
theorem isDocument_iff (onSite : ¬ "//".toList <+: target) :
    IsDocument target ↔
      isDocumentLink target = true ∧ ':' ∉ target ∧
        ∀ path anchor, Link.splitAnchor target = (path, some anchor) → '\n' ∉ anchor := by
  have markdown : isMarkdownTarget target = true ↔
      (Link.splitAnchor target).1.endsWith ".md".toList = true ∧
        ∀ path anchor, Link.splitAnchor target = (path, some anchor) → '\n' ∉ anchor := by
    unfold isMarkdownTarget
    rcases Link.splitAnchor target with ⟨path, _ | anchor⟩
    · simp
    · simp
  constructor
  · rintro ⟨-, noScheme, document⟩
    obtain ⟨ends, line⟩ := markdown.mp document
    refine ⟨isDocumentLink_iff.mpr ⟨ends, ?_⟩, noScheme, line⟩
    exact Bool.eq_false_iff.mpr fun occurs => noScheme (mem_of_occursIn (by decide) occurs)
  · rintro ⟨document, noScheme, line⟩
    exact ⟨onSite, noScheme, markdown.mpr ⟨(isDocumentLink_iff.mp document).1, line⟩⟩

/-- One attribute is rewritten by its destination. -/
theorem publishDocuments_hrefText (unquoted : '"' ∉ href) :
    publishDocuments (hrefText href) = hrefText (changed documentHref? href) := by
  have read : Html.Attribute.href.scan (hrefText href) = some (href, []) :=
    Html.Attribute.scan_eq_some_iff.mpr ⟨unquoted, Html.hrefText_eq href⟩
  rw [publishDocuments, Html.mapHrefs_of_scan read, Html.mapHrefs_nil, List.append_nil]

private theorem hrefText_injective {first second : Text} (same : hrefText first = hrefText second) :
    first = second :=
  List.append_cancel_left (List.append_cancel_right same)

/-- HTML changes a destination exactly when it is a document. -/
theorem publishDocuments_ne_iff (unquoted : '"' ∉ href) :
    publishDocuments (hrefText href) ≠ hrefText href ↔ IsDocument (Link.decode href) := by
  rw [publishDocuments_hrefText unquoted]
  cases leads : documentHref? href with
  | none =>
    have other := Html.documentHref?_eq_none_iff.mp leads
    rw [changed, leads, Option.getD_none]
    exact iff_of_false (fun ne => ne rfl) other
  | some page =>
    rw [changed, leads, Option.getD_some]
    refine iff_of_true (fun same => ?_) (Html.documentHref?_eq_some_iff.mp leads).1
    exact Html.ne_of_documentHref? leads (hrefText_injective same).symm

/-! ## What the links lead to -/

/-- The address of a page on the site. -/
def siteAddress (config : Config) (page : Text) : Text :=
  config.siteBaseUrl.dropEndWhile (· == '/') ++
    '/' :: Text.join ['/'] ((Text.splitOn '/' (page.dropWhile (· == '/'))).dropWhile isDots)

/-- The command of a link to a page of the library, and its destination before it is
escaped. -/
def pageTarget (config : Config) (page : Text) : LinkName × Text :=
  if page.startsWith "../../".toList then (.lib, '/' :: lastTwoSegments page)
  else
    match Text.dropStart? "./".toList page with
    | some path => (.lib, '/' :: path)
    | none => (.href, siteAddress config page)

/-- A link to a document leads to the page of the document. -/
theorem linkTarget_of_document
    (document : isDocumentLink (Link.decode (Link.dropAngles href)) = true) :
    linkTarget config href =
      pageTarget config (Link.publish (Link.decode (Link.dropAngles href))) := by
  unfold linkTarget pageTarget
  dsimp only
  generalize Link.decode (Link.dropAngles href) = target at document ⊢
  rw [document, Bool.not_true, if_neg Bool.false_ne_true]
  split
  · rfl
  · cases Text.dropStart? "./".toList (Link.publish target) with
    | some path => rfl
    | none =>
      dsimp only
      rw [absoluteUrl, if_pos document]
      rfl

/-! ## Anchors of the links -/

private theorem suffix_lastTwoSegments (whole : '/' ∉ t) (path : Text) :
    t <:+ lastTwoSegments (path ++ t) := by
  obtain ⟨front, last, -, parts⟩ := Text.splitOn_append whole path
  rw [lastTwoSegments, parts]
  rw [List.drop_append_of_le_length (by simp), Text.join_concat_append]
  exact List.suffix_append _ _

/-- The address of a destination ends with its anchor. -/
theorem suffix_siteAddress (whole : '/' ∉ anchor) (path : Text) :
    '#' :: anchor <:+ siteAddress config (path ++ '#' :: anchor) := by
  have trimmed := Text.dropWhile_append_cons (p := (· == '/')) (a := '#') (by decide) path anchor
  have single : '/' ∉ '#' :: anchor := List.not_mem_cons_of_ne_of_not_mem (by decide) whole
  obtain ⟨front, last, -, parts⟩ := Text.splitOn_append single (path.dropWhile (· == '/'))
  have named : isDots (last ++ '#' :: anchor) = false := by
    have held : '#' ∈ last ++ '#' :: anchor := by simp
    rw [isDots, Bool.or_eq_false_iff, beq_eq_false_iff_ne, beq_eq_false_iff_ne]
    constructor <;>
    · intro dots
      rw [dots] at held
      exact absurd held (by decide)
  have kept := Text.dropWhile_append_cons (p := isDots) named front []
  rw [siteAddress, trimmed, parts, kept, Text.join_concat_append]
  exact (List.suffix_append _ _).trans
    ((List.suffix_cons '/' _).trans (List.suffix_append _ _))

/-- A link keeps the anchor of its page. -/
theorem suffix_pageTarget (whole : '/' ∉ anchor) (path : Text) :
    '#' :: anchor <:+ (pageTarget config (path ++ '#' :: anchor)).2 := by
  have single : '/' ∉ '#' :: anchor := List.not_mem_cons_of_ne_of_not_mem (by decide) whole
  unfold pageTarget
  split
  · exact (suffix_lastTwoSegments single path).trans (List.suffix_cons '/' _)
  · cases here : Text.dropStart? "./".toList (path ++ '#' :: anchor) with
    | none => exact suffix_siteAddress whole path
    | some rest =>
      -- The dot and the slash stand before the number sign.
      have whole := Text.dropStart?_eq_some_iff.mp here
      have front : "./".toList <+: path := by
        rw [← Text.prefix_append_cons_iff (c := '#') (by decide) path anchor, whole]
        exact List.prefix_append _ rest
      obtain ⟨path, rfl⟩ := front
      rw [List.append_assoc, List.append_cancel_left_eq] at whole
      rw [← whole]
      exact (List.suffix_append _ _).trans (List.suffix_cons '/' _)

private theorem not_slash_anchor (document : isDocumentLink target = true)
    (parts : Link.splitAnchor (Link.publish target) = (path, some anchor)) : '/' ∉ anchor := by
  obtain ⟨-, whole⟩ := Link.splitAnchor_eq_some_iff.mp parts
  obtain ⟨stem, absent, rfl | ⟨behind, rfl⟩⟩ :=
    Link.document_cases (isDocumentLink_iff.mp document).1
  · rw [Link.publish_document absent] at whole
    exact absurd (whole ▸ List.mem_append_right _ List.mem_cons_self)
      (Link.not_sign_pagePath absent)
  · rw [Link.publish_document_anchor absent] at parts
    rw [Link.splitAnchor_append_cons (Link.not_sign_pagePath absent)] at parts
    cases parts
    exact Html.not_mem_of_isAnchorChar (Link.isAnchorChar_ofText behind) (by decide)

/-! ## Agreement -/

/-- **HTML and LaTeX agree on links to documents.** On this site, and within one pair of
angle brackets at most, HTML changes a destination exactly when it is a document for LaTeX
and holds no colon, and no new line in its anchor. The attribute then has the page, and the
command of the LaTeX link is made of that page too, whose anchor it keeps. -/
theorem documentLinks_agree (config : Config) (text href : Text) (unquoted : '"' ∉ href)
    (onSite : ¬ "//".toList <+: Link.decode href)
    (single : Link.dropAngles (Link.dropAngles href) = Link.dropAngles href) :
    (publishDocuments (hrefText href) ≠ hrefText href ↔
      isDocumentLink (Link.decode (Link.dropAngles href)) = true ∧ ':' ∉ Link.decode href ∧
        ∀ path anchor, Link.splitAnchor (Link.decode href) = (path, some anchor) → '\n' ∉ anchor) ∧
    (publishDocuments (hrefText href) ≠ hrefText href →
      publishDocuments (hrefText href) = hrefText (Link.publish (Link.decode href))) ∧
    (isDocumentLink (Link.decode (Link.dropAngles href)) = true →
      renderLink config text href =
        linkCommand (pageTarget config (Link.publish (Link.decode href))).1.text
          (escapeUrl (pageTarget config (Link.publish (Link.decode href))).2) text ++
        (pageTarget config (Link.publish (Link.decode href))).1.tail ∧
      ∀ path anchor, Link.splitAnchor (Link.publish (Link.decode href)) = (path, some anchor) →
        '#' :: anchor <:+ (pageTarget config (Link.publish (Link.decode href))).2) := by
  have same : Link.decode (Link.dropAngles href) = Link.decode href := by
    rw [Link.decode_eq_reading, single, Link.decode_eq_reading]
  rw [publishDocuments_ne_iff unquoted, same]
  refine ⟨isDocument_iff onSite, fun document => ?_, fun document => ⟨?_, ?_⟩⟩
  · have leads := Html.documentHref?_eq_some_iff.mpr ⟨document, rfl⟩
    rw [publishDocuments_hrefText unquoted, changed, leads, Option.getD_some]
  · rw [renderLink_eq, linkTarget_of_document (same ▸ document), same]
  · intro path anchor parts
    exact (Link.splitAnchor_eq_some_iff.mp parts).2 ▸
      suffix_pageTarget (not_slash_anchor document parts) path

/-- A link with a capital in its anchor leads to the same place on the site and in a paper. -/
theorem documentLinks_agree_capitalAnchor :
    publishDocuments (hrefText "<./a%2Emd#B>".toList) = hrefText "./a.html#b".toList ∧
      renderLink .standard ['x'] "<./a%2Emd#B>".toList =
        "\\lib\x7b/a.html\\#b\x7d\x7bx\x7d".toList := by
  have document : isDocumentLink (Link.decode (Link.dropAngles "<./a%2Emd#B>".toList)) = true := by
    decide +kernel
  have agree := documentLinks_agree .standard ['x'] "<./a%2Emd#B>".toList (by decide)
    (by decide +kernel) (by decide +kernel)
  have changes := agree.1.mpr ⟨document, by decide +kernel, by
    have cut : Link.splitAnchor (Link.decode "<./a%2Emd#B>".toList) =
        ("./a.md".toList, some ['B']) := by decide +kernel
    intro path anchor parts
    cases cut.symm.trans parts
    decide⟩
  exact ⟨(agree.2.1 changes).trans (by decide +kernel),
    (agree.2.2 document).1.trans (by decide +kernel)⟩

/-- A colon in the anchor hides a document from HTML alone. -/
theorem documentLinks_agree_colonAnchor :
    publishDocuments (hrefText "a.md#b:c".toList) = hrefText "a.md#b:c".toList ∧
      isDocumentLink (Link.decode (Link.dropAngles "a.md#b:c".toList)) = true := by
  decide +kernel

end Scriptorium.Latex
