import Scriptorium.Math.Decode
import Scriptorium.Metadata
import Scriptorium.Publication
/-! # Pages

A rendered fragment becomes a complete page: navigation above, the thoughts of its
author behind a button, and related documents below. All text from the metadata is
escaped where it stands.
-/

namespace Scriptorium.Page

/-- The destination of a metadata link, for an attribute. -/
def linkHref (link : MetaLink) : Text :=
  Html.escape (Link.publish link.link)

/-- The collection that a page belongs to or, failing that, its subject, with the
word in front of it. -/
def origin? (metadata : Metadata) : Option (Text × MetaLink) :=
  match metadata.collection with
  | some collection => some ("From".toList, collection)
  | none => metadata.subject.map fun subject => ("Subject".toList, subject)

/-- Whether a page has a navigation header at all. -/
def hasHeader (metadata : Metadata) : Bool :=
  (origin? metadata).isSome || metadata.previous.isSome || metadata.next.isSome ||
    !metadata.notes.isEmpty

/-- What a page belongs to. -/
def originBlock (origin : Text × MetaLink) : Text :=
  "\n    <div class=\"book-info\">\n      <span class=\"book-label\">".toList ++ origin.1 ++
    "</span>\n      <a href=\"".toList ++ linkHref origin.2 ++ "\" class=\"book-link\">".toList ++
    Html.escape origin.2.text ++ "</a>\n    </div>".toList

/-- The link to the page before. -/
def previousLink (previous : MetaLink) : Text :=
  "\n    <a href=\"".toList ++ linkHref previous ++
    "\" class=\"nav-link prev-link\" title=\"".toList ++ Html.escape previous.text ++
    ("\"><span class=\"nav-arrow\"></span><span class=\"nav-text\">Previous</span></a>").toList

/-- The link to the page behind. -/
def nextLink (next : MetaLink) : Text :=
  "\n    <a href=\"".toList ++ linkHref next ++
    "\" class=\"nav-link next-link\" title=\"".toList ++ Html.escape next.text ++
    ("\"><span class=\"nav-text\">Next</span><span class=\"nav-arrow\"></span></a>").toList

/-- The button that shows the thoughts. -/
def thoughtsButton : Text :=
  ("\n    <button type=\"button\" class=\"thoughts-button\"" ++
    " title=\"Show questions and thoughts\" aria-label=\"Show thoughts\">?</button>").toList

/-- The navigation header. -/
def header (metadata : Metadata) : Text :=
  if hasHeader metadata then
    ("<header class=\"academic-header\">\n  <div class=\"header-left\">\n" ++
      "    <a href=\"index.html\" class=\"index-link\"" ++
      " title=\"Return to Library Index\">Index</a>").toList ++
    ((origin? metadata).map originBlock).getD [] ++
    "\n  </div>\n  <div class=\"navigation-controls\">".toList ++
    (metadata.previous.map previousLink).getD [] ++ (metadata.next.map nextLink).getD [] ++
    (if metadata.notes.isEmpty then [] else thoughtsButton) ++ "\n  </div>\n</header>".toList
  else []

/-- The title of a page, linked to its source. -/
def titleHeading (config : Config) (source : Option Path) (title : MetaLink) : Text :=
  let href := (source.map config.repositoryUrl).getD config.repository.url
  "\n<h1 class=\"entry-title\"><a href=\"".toList ++ Html.escape href ++
    "\" class=\"github-source-link\">".toList ++ Html.escape title.text ++ "</a></h1>".toList

/-- The window with the thoughts. -/
def thoughtsWindow (notes : List Text) : Text :=
  if notes.isEmpty then []
  else
    ("\n<div class=\"thoughts-modal\" id=\"thoughtsModal\">\n" ++
      "  <div class=\"thoughts-modal-content\">\n" ++
      "    <div class=\"thoughts-modal-header\">\n" ++
      "      <h3>Thoughts &amp; Questions</h3>\n" ++
      "      <button type=\"button\" class=\"close-thoughts\">&times;</button>\n" ++
      "    </div>\n" ++
      "    <div class=\"thoughts-modal-body\">\n" ++
      "      <ul>").toList ++
    notes.flatMap (fun note => "\n        <li>".toList ++ Html.escape note ++ "</li>".toList) ++
    "\n      </ul>\n    </div>\n  </div>\n</div>".toList

/-- The link to a related document. -/
def relatedLink (related : MetaLink) : Text :=
  "\n      <a href=\"".toList ++ linkHref related ++ "\" class=\"related-link\">".toList ++
    Html.escape related.text ++ "</a>".toList

/-- The related documents of a page. -/
def relatedSection (related : List MetaLink) : Text :=
  if related.isEmpty then []
  else
    ("\n  <div class=\"footer-section\">\n" ++
      "    <h3 class=\"footer-heading\">Related Concepts</h3>\n" ++
      "    <div class=\"related-links\">").toList ++
    related.flatMap relatedLink ++ "\n    </div>\n  </div>".toList

/-- The footer of a page, which only pages with related documents or thoughts have. -/
def footer (config : Config) (metadata : Metadata) : Text :=
  if metadata.related.isEmpty && metadata.notes.isEmpty then []
  else
    "<footer class=\"academic-footer\">".toList ++ relatedSection metadata.related ++
    "\n  <div class=\"footer-section\">\n    <a href=\"".toList ++
    Html.escape config.repository.url ++
    ("\" class=\"github-repo-link\" target=\"_blank\"><span>View on GitHub</span></a>\n" ++
      "  </div>\n</footer>").toList

/-- The name of a page without a title. -/
def titleText (metadata : Metadata) : Text :=
  match metadata.title with
  | some title => title.text
  | none => "Untitled".toList

/-- What stands above the fragment of a page. -/
def preamble (config : Config) (source : Option Path) (metadata : Metadata) : Text :=
  header metadata ++ (metadata.title.map (titleHeading config source)).getD [] ++
    thoughtsWindow metadata.notes

/-- The complete page around a fragment. -/
def render (config : Config) (source : Option Path) (metadata : Metadata) (fragment : Text) :
    Text :=
  ("<!DOCTYPE html>\n<html>\n  <head>\n    <meta charset=\"utf-8\">\n" ++
    "    <meta name=\"viewport\" content=\"width=device-width, initial-scale=1.0\">\n" ++
    "    <title>").toList ++
  Html.escape (titleText metadata) ++ " | ".toList ++ Html.escape config.html.siteTitle ++
  ("</title>\n    <link rel=\"stylesheet\" href=\"https://cdn.jsdelivr.net/npm/" ++
    "github-markdown-css@5.1.0/github-markdown.min.css\">\n    ").toList ++
  Math.formulaHead ++
  "\n  </head>\n  <body>\n    <div class=\"container\">\n      ".toList ++
  preamble config source metadata ++
  ("\n\n      <div class=\"article-container\">\n" ++
    "        <article class=\"markdown-body\">\n          ").toList ++
  fragment ++
  "\n        </article>\n      </div>\n\n      ".toList ++
  footer config metadata ++
  "\n    </div>\n  </body>\n</html>\n".toList

end Scriptorium.Page
