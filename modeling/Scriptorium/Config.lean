import Scriptorium.Path
import Scriptorium.Text.Blank
/-! # Configuration

How a library is laid out and published. Every setting has a default, so an empty
configuration is a valid one.
-/

namespace Scriptorium

/-- Where the source tree is kept under version control. -/
structure Repository where
  url : Text
  branch : Text
  deriving DecidableEq, Repr

/-- A literal replacement applied to finished pages. -/
structure Replacement where
  old : Text
  new : Text
  deriving DecidableEq, Repr

/-- Settings of the HTML output. -/
structure HtmlSettings where
  siteTitle : Text
  replacements : List Replacement
  deriving DecidableEq, Repr

/-- Settings of the LaTeX output; without a template the built-in one is used. -/
structure LatexSettings where
  template : Option Path
  deriving DecidableEq, Repr

/-- The configuration of a library. -/
structure Config where
  /-- The root of the source tree. -/
  sourceDir : Path
  /-- The root of the published tree. -/
  publicDir : Path
  repository : Repository
  /-- The address of the published site. -/
  siteBaseUrl : Text
  /-- The stems that are published from files whose names start with a dot. -/
  collectionIndices : List Text
  html : HtmlSettings
  latex : LatexSettings
  deriving DecidableEq, Repr

namespace Repository

/-- The repository taken when none is configured. -/
def standard : Repository where
  url := "https://github.com/DNA-Platform/inexplicable-phenomena".toList
  branch := "main".toList

end Repository

namespace HtmlSettings

/-- The page settings taken when none are configured. -/
def standard : HtmlSettings where
  siteTitle := "Inexplicable Phenomena".toList
  replacements := [
    { old := "<a href=\"/encyclopedia/semantic-reference-theory.html\" class=\"book-link\">".toList
      new :=
        "<a href=\"../encyclopedia/semantic-reference-theory.html\" class=\"book-link\">".toList }]

end HtmlSettings

namespace Config

/-- The configuration taken when nothing is configured. -/
def standard : Config where
  sourceDir := ⟨"library".toList⟩
  publicDir := ⟨"library/.public".toList⟩
  repository := .standard
  siteBaseUrl := "https://dna-platform.github.io/inexplicable-phenomena".toList
  collectionIndices := ["dictionary".toList, "encyclopedia".toList,
    "godel-and-the-human-brain".toList, "articles".toList, "books".toList, "index".toList]
  html := .standard
  latex := ⟨none⟩

/-- The address under which the repository shows its files, with a slash behind. -/
def sourceBaseUrl (config : Config) : Text :=
  config.repository.url.dropEndWhile (· == '/') ++ "/blob/".toList ++ config.repository.branch ++
    ['/']

/-- Whether a stem is published from a file whose name starts with a dot. -/
def isCollectionIndex (config : Config) (stem : Text) : Bool :=
  config.collectionIndices.contains stem

end Config

end Scriptorium
