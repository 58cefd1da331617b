import Scriptorium.Proofs.Html.PublishingAgain
import Scriptorium.Proofs.KeptSign
import Scriptorium.Proofs.Link.Encode
import Scriptorium.Proofs.Link.Relative
/-! # Links by encoded paths

A path to a document, written as a destination with its signs encoded, is read as it was
(`Link.decode_written`). Publishing the links makes of it the path to the page, with the
published names of all segments, exactly when no name holds a number sign
(`Html.changed_documentHref?_written_iff`): the path is cut at number signs after it is
read, so that one in a name is taken for that of an anchor.

The path to the page is written as it is. So it is found in the attribute when no name
holds a quote either (`Html.publishDocuments_written`).
-/

namespace Scriptorium

open Scriptorium.Path (Below)

/-- The names of a relative path to a document `stem.md`, directories first. All have published
forms, and none holds a colon. -/
structure IsDocumentPath (directories : List Text) (stem : Text) : Prop where
  publishable : ∀ name ∈ directories ++ [stem], Name.Publishable name
  no_colon : ∀ name ∈ directories ++ [stem], ':' ∉ name

/-- The segments of the path to a document. -/
def documentSegments (directories : List Text) (stem : Text) : List Text :=
  directories ++ [stem ++ ".md".toList]

/-- The segments of the path to a page. -/
def pageSegments (directories : List Text) (stem : Text) : List Text :=
  directories.map Name.publish ++ [Name.publish stem ++ ".html".toList]

variable {directories : List Text} {stem : Text}

private theorem join_documentSegments (directories : List Text) (stem : Text) :
    Text.join ['/'] (documentSegments directories stem) =
      Text.join ['/'] (directories ++ [stem]) ++ ".md".toList :=
  Text.join_concat_append ..

namespace IsDocumentPath

private theorem join_pageSegments (path : IsDocumentPath directories stem) :
    Text.join ['/'] (pageSegments directories stem) =
      Link.pagePath (Text.join ['/'] (directories ++ [stem])) := by
  have named : Name.Publishable stem := path.publishable stem (by simp)
  have published : directories.map Link.publishSegment = directories.map Name.publish :=
    List.map_congr_left fun name member =>
      Link.publishSegment_name (path.publishable name (List.mem_append_left _ member))
  rw [Link.pagePath, Text.splitOn_join (by simp) fun name member =>
    (path.publishable name member).whole, Link.publishSegments_concat named.isName, published]
  rfl

private theorem splitOn_pageSegments (path : IsDocumentPath directories stem) :
    (Text.join ['/'] (pageSegments directories stem)).splitOn '/' =
      pageSegments directories stem := by
  refine Text.splitOn_join (by simp [pageSegments]) fun segment member => ?_
  rcases List.mem_append.mp member with directory | page
  · obtain ⟨name, listed, rfl⟩ := List.mem_map.mp directory
    exact Name.not_slash_publish (path.publishable name (List.mem_append_left _ listed)).whole
  · rw [List.mem_singleton.mp page]
    exact List.not_mem_append
      (Name.not_slash_publish (path.publishable stem (by simp)).whole) (by decide)

/-- A path starts with a name. -/
theorem head?_source (path : IsDocumentPath directories stem) :
    ∃ c rest, c ≠ '/' ∧ Text.join ['/'] (directories ++ [stem]) = c :: rest := by
  have named {name : Text} (listed : name ∈ directories ++ [stem]) :
      ∃ c rest, c ≠ '/' ∧ name = c :: rest := by
    have isName := (path.publishable name listed).isName
    cases name with
    | nil => exact absurd rfl isName.nonempty
    | cons c rest => exact ⟨c, rest, fun same => isName.whole (same ▸ List.mem_cons_self), rfl⟩
  cases directories with
  | nil =>
    obtain ⟨c, rest, other, rfl⟩ := named List.mem_cons_self
    exact ⟨c, rest, other, List.intercalate_singleton⟩
  | cons first directories =>
    obtain ⟨c, rest, other, rfl⟩ := named List.mem_cons_self
    refine ⟨c, rest ++ '/' :: Text.join ['/'] (directories ++ [stem]), other, ?_⟩
    rw [Text.join, List.cons_append, List.intercalate_cons_of_ne_nil (by simp)]
    simp [Text.join]

/-- A path without number signs is that of a document of the site. -/
theorem isDocument (path : IsDocumentPath directories stem)
    (single : '#' ∉ Text.join ['/'] (directories ++ [stem])) :
    Html.IsDocument (Text.join ['/'] (directories ++ [stem]) ++ ".md".toList) where
  on_site := by
    obtain ⟨c, rest, other, first⟩ := path.head?_source
    rw [first]
    exact fun start => other (List.cons_prefix_cons.mp start).1.symm
  no_scheme := by
    refine List.not_mem_append (fun held => ?_) (by decide)
    obtain ⟨name, listed, held⟩ := (Link.mem_join_iff (by decide)).mp held
    exact path.no_colon name listed held
  markdown := by
    rw [Html.isMarkdownTarget_of_not_mem (List.not_mem_append single (by decide))]
    exact List.isSuffixOf_iff_suffix.mpr (List.suffix_append _ _)

/-- The page of a document lies where the path to the page leads. -/
theorem below_publicPath (path : IsDocumentPath directories stem) (config : Config)
    {source : Path} (place : Below source config.sourceDir (documentSegments directories stem)) :
    Below (config.publicPath source) config.publicDir (pageSegments directories stem) := by
  have page := config.components_publicPath place fun name member =>
    (path.publishable name (List.mem_append_left _ member)).published
  rwa [pageName, markdownStem_append] at page

end IsDocumentPath

namespace Html

open Link (written)

variable {reserved : Char → Bool}

/-- What ends like a page has no anchor at its end. -/
theorem append_html_ne_append_anchor {front back anchor : Text}
    (allowed : ∀ c ∈ anchor, Anchor.isAnchorChar c = true) :
    back ++ ".html".toList ≠ front ++ '#' :: anchor := by
  intro same
  have extension : ".html".toList = '.' :: "html".toList := rfl
  rw [extension] at same
  rcases List.append_eq_append_iff.mp same with ⟨part, -, split⟩ | ⟨part, -, split⟩
  · have held : '#' ∈ '.' :: "html".toList := split ▸ by simp
    exact absurd held (by decide)
  · have held : '.' ∈ '#' :: anchor := split ▸ by simp
    exact not_mem_of_isAnchorChar allowed (by decide) (List.mem_of_ne_of_mem (by decide) held)

/-- **A written path leads to the page** exactly when no name holds a number sign. -/
theorem changed_documentHref?_written_iff (path : IsDocumentPath directories stem)
    (reserves : ∀ c, Config.isReserved c = true → reserved c = true) :
    changed documentHref? (written reserved (documentSegments directories stem)) =
        Text.join ['/'] (pageSegments directories stem) ↔
      ∀ name ∈ directories ++ [stem], '#' ∉ name := by
  have read := Link.decode_written reserves (documentSegments directories stem)
  rw [join_documentSegments] at read
  have signs : (∀ name ∈ directories ++ [stem], '#' ∉ name) ↔
      '#' ∉ Text.join ['/'] (directories ++ [stem]) := by
    rw [Link.mem_join_iff (by decide)]
    simp only [not_exists, not_and]
  rw [path.join_pageSegments, signs]
  generalize source : Text.join ['/'] (directories ++ [stem]) = s at read
  constructor
  · intro same held
    have paged : '#' ∈ Link.pagePath s :=
      (Link.mem_pagePath_iff (by decide) (by decide) (by decide) (by decide)).mpr held
    cases leads : documentHref? (written reserved (documentSegments directories stem)) with
    | none =>
      rw [changed, leads, Option.getD_none, Link.written_eq reserves] at same
      rw [← same] at paged
      exact Link.not_mem_encoded reserves (by decide) (by decide) _ paged
    | some page =>
      rw [changed, leads, Option.getD_some] at same
      obtain ⟨front, absent, ⟨whole, -⟩ | ⟨anchor, -, rfl⟩⟩ := documentHref?_cases leads
      · rw [read] at whole
        exact absent (List.append_cancel_right whole ▸ held)
      · rw [← source, ← path.join_pageSegments, pageSegments, Text.join_concat_append] at same
        exact append_html_ne_append_anchor (Link.isAnchorChar_ofText anchor) same.symm
  · intro single
    have document : IsDocument (s ++ ".md".toList) := source ▸ path.isDocument (source ▸ single)
    have leads := documentHref?_eq_some_iff.mpr ⟨read.symm ▸ document, rfl⟩
    rw [changed, leads, Option.getD_some, read, Link.publish_document single]

/-- A destination in front of other text is published, and so are those behind it. -/
theorem publishDocuments_hrefText {value : Text} (unquoted : '"' ∉ value) (rest : Text) :
    publishDocuments (hrefText value ++ rest) =
      hrefText (changed documentHref? value) ++ publishDocuments rest :=
  mapHrefs_hrefText unquoted rest

private theorem not_quote_written (reserves : ∀ c, Config.isReserved c = true → reserved c = true)
    (segments : List Text) : '"' ∉ written reserved segments := by
  rw [Link.written_eq reserves]
  exact Link.not_mem_encoded reserves (by decide) (by decide) segments

/-- The path to the page is found in the attribute exactly when no name holds a number sign or a
quote. -/
theorem destinations_written_iff (path : IsDocumentPath directories stem)
    (reserves : ∀ c, Config.isReserved c = true → reserved c = true) :
    destinations (publishDocuments
        (hrefText (written reserved (documentSegments directories stem)))) =
        [Text.join ['/'] (pageSegments directories stem)] ↔
      ∀ name ∈ directories ++ [stem], '#' ∉ name ∧ '"' ∉ name := by
  have unquoted := not_quote_written reserves (documentSegments directories stem)
  have rewritten := publishDocuments_hrefText unquoted []
  rw [publishDocuments, publishDocuments, mapHrefs_nil, List.append_nil, List.append_nil]
    at rewritten
  have quotes : (∀ name ∈ directories ++ [stem], '"' ∉ name) ↔
      '"' ∉ Text.join ['/'] (pageSegments directories stem) := by
    rw [path.join_pageSegments, Link.mem_pagePath_iff (by decide) (by decide) (by decide)
      (by decide), Link.mem_join_iff (by decide)]
    simp only [not_exists, not_and]
  have single {value : Text} (plain : '"' ∉ value) : destinations (hrefText value) = [value] := by
    have found := destinations_hrefText plain []
    rwa [List.append_nil, destinations, destinations, Attribute.values_nil] at found
  simp only [forall_and]
  rw [← changed_documentHref?_written_iff path reserves, quotes, publishDocuments, rewritten]
  constructor
  · intro found
    have plain : '"' ∉ Text.join ['/'] (pageSegments directories stem) :=
      not_mem_of_mem_destinations (found ▸ List.mem_cons_self)
    have read : '"' ∉ Link.decode (written reserved (documentSegments directories stem)) := by
      rw [Link.decode_written reserves, join_documentSegments]
      refine List.not_mem_append (fun held => ?_) (by decide)
      obtain ⟨name, listed, held⟩ := (Link.mem_join_iff (by decide)).mp held
      exact quotes.mpr plain name listed held
    have new := not_quote_changed_documentHref? (fun _ => read) unquoted
    rw [single new] at found
    exact ⟨List.singleton_inj.mp found, plain⟩
  · rintro ⟨same, plain⟩
    rw [same, single plain]

/-- **Encoded links reach the published page.** The link by a written path becomes the link to
the page, segment by segment, exactly when no name holds a number sign; the link is found in the
attribute when no name holds a quote either. It leads where the page of the document lies. -/
theorem publishDocuments_written (path : IsDocumentPath directories stem)
    (reserves : ∀ c, Config.isReserved c = true → reserved c = true) (behind : Text) :
    (publishDocuments
          (hrefText (written reserved (documentSegments directories stem)) ++ behind) =
        hrefText (Text.join ['/'] (pageSegments directories stem)) ++ publishDocuments behind ↔
      ∀ name ∈ directories ++ [stem], '#' ∉ name) ∧
    (destinations (publishDocuments
          (hrefText (written reserved (documentSegments directories stem)))) =
        [Text.join ['/'] (pageSegments directories stem)] ↔
      ∀ name ∈ directories ++ [stem], '#' ∉ name ∧ '"' ∉ name) ∧
    (Text.join ['/'] (pageSegments directories stem)).splitOn '/' =
      pageSegments directories stem ∧
    ∀ (config : Config) (source : Path),
      Below source config.sourceDir (documentSegments directories stem) →
        Below (config.publicPath source) config.publicDir (pageSegments directories stem) := by
  refine ⟨?_, destinations_written_iff path reserves, path.splitOn_pageSegments,
    fun config source place => path.below_publicPath config place⟩
  have unquoted := not_quote_written reserves (documentSegments directories stem)
  rw [← changed_documentHref?_written_iff path reserves, publishDocuments_hrefText unquoted,
    List.append_cancel_right_eq, hrefText_eq, hrefText_eq, List.append_cancel_left_eq,
    List.cons_inj_right, List.append_cancel_right_eq]

/-- The signs that an address reserves, and the dot. -/
def isReservedOrDot (c : Char) : Bool :=
  Config.isReserved c || c == '.'

/-- The extension of a document may be hidden by an escape. -/
theorem publishDocuments_written_hiddenExtension :
    IsDocumentPath ["Truth & Proof".toList] "02 - Gödel".toList ∧
    (∀ c, Config.isReserved c = true → isReservedOrDot c = true) ∧
    publishDocuments
        (hrefText "Truth%20%26%20Proof/02%20-%20G%C3%B6del%2Emd".toList ++ ">x".toList) =
      hrefText "truth-and-proof/gödel.html".toList ++ publishDocuments ">x".toList := by
  have path : IsDocumentPath ["Truth & Proof".toList] "02 - Gödel".toList := by
    constructor
    · refine List.forall_mem_cons.mpr ⟨⟨by decide, by decide +kernel⟩, ?_⟩
      exact List.forall_mem_singleton.mpr ⟨by decide, by decide +kernel⟩
    · decide
  have reserves : ∀ c, Config.isReserved c = true → isReservedOrDot c = true :=
    fun c listed => by rw [isReservedOrDot, listed, Bool.true_or]
  have destination : written isReservedOrDot
      (documentSegments ["Truth & Proof".toList] "02 - Gödel".toList) =
        "Truth%20%26%20Proof/02%20-%20G%C3%B6del%2Emd".toList := by decide
  have page : Text.join ['/'] (pageSegments ["Truth & Proof".toList] "02 - Gödel".toList) =
      "truth-and-proof/gödel.html".toList := by decide +kernel
  have leads := (publishDocuments_written path reserves ">x".toList).1.mpr (by decide)
  rw [destination, page] at leads
  exact ⟨path, reserves, leads⟩

/-- A number sign in a name is taken for that of an anchor, though it is escaped. -/
theorem publishDocuments_written_numberSign :
    IsDocumentPath [] "Note #1".toList ∧
    publishDocuments (hrefText (written Config.isReserved (documentSegments [] "Note #1".toList))) ≠
      hrefText (Text.join ['/'] (pageSegments [] "Note #1".toList)) ∧
    publishDocuments (hrefText "Note%20%231.md".toList) = hrefText "Note%20%231.md".toList := by
  refine ⟨⟨?_, by decide +kernel⟩, by decide +kernel, by decide +kernel⟩
  exact List.forall_mem_singleton.mpr ⟨by decide, by decide +kernel⟩

end Html

end Scriptorium
