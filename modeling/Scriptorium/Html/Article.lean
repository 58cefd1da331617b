import Scriptorium.Citation.Bibliography
import Scriptorium.Citation.Extraction
import Scriptorium.Citation.Format
import Scriptorium.Html.Fixes
import Scriptorium.Html.Href
import Scriptorium.Markdown.Fragment
import Scriptorium.Math.Encode
import Scriptorium.Metadata
import Scriptorium.Page
/-! # Articles

A document compiled to HTML (`Article.compile`). Citations are taken out before
formulas are protected, so that a dollar sign in a citation is none of a formula, and
formulas are protected before Markdown is read, so that no mark in them is one of
Markdown.
-/

namespace Scriptorium

/-- A document as HTML, without the page around it. -/
structure Article where
  fragment : Text
  metadata : Metadata
  citations : CitationTable
  deriving DecidableEq, Repr

/-- How the parts of an article that have more than one way are made. -/
structure ArticleStyle where
  formatter : Citation.Formatter
  highlighter : Html.Highlighter
  /-- Makes HTML of Markdown. It leaves runs of letters, digits and hyphens alone. -/
  render : Text → Text

/-- The style of a highlighter, with the standard formatter and Markdown. -/
def ArticleStyle.ofHighlighter (highlighter : Html.Highlighter) : ArticleStyle where
  formatter := Citation.format
  highlighter := highlighter
  render := Markdown.toHtml highlighter

/-- The style of articles whose code is not highlighted. -/
def ArticleStyle.standard : ArticleStyle :=
  .ofHighlighter Html.plainHighlighter

namespace Article

/-- The HTML of a body with its formulas and the references to its citations, and with
the bibliography in its place. -/
def assemble (style : ArticleStyle) (citations : CitationTable) (body : Text) : Text :=
  let html := Html.decodeMath .html (style.render (Math.encode body))
  Citation.attach (Citation.resolve citations html) (Citation.bibliography citations)

/-- The article of a document. -/
def compile (config : Config) (style : ArticleStyle) (markdown : Text) : Article :=
  let parsed := ParsedDocument.parse markdown
  let extraction := Extraction.ofBody parsed.body
  let citations := extraction.citations.format style.formatter
  let html := assemble style citations extraction.markdown
  { fragment := Html.publishLinks (Html.postProcess config.html style.highlighter html)
    metadata := parsed.metadata
    citations := citations }

/-- The page of an article, which leads to its source. -/
def page (config : Config) (source : Option Path) (article : Article) : Text :=
  Page.render config source article.metadata article.fragment

end Article

end Scriptorium
