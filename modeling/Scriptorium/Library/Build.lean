import Scriptorium.Html.Article
import Scriptorium.Latex.Paper
import Scriptorium.Library.Scan
import Scriptorium.Manifest
import Scriptorium.Toml.Configuration
/-! # Building a library

Every document of a library becomes a page (`Library.buildHtml`) or a paper
(`Library.buildLatex`). That no two documents have the same page is known before
anything is written, and every file is replaced whole.
-/

namespace Scriptorium.Library

/-- What a build has done. -/
structure BuildReport where
  written : List Path
  /-- The sources that could no longer be read, and why. -/
  failed : List (Path × FileError)
  deriving DecidableEq, Repr

namespace BuildReport

/-- The report of a build that has done nothing. -/
def empty : BuildReport := ⟨[], []⟩

/-- The report of two builds. -/
def append (first second : BuildReport) : BuildReport :=
  ⟨first.written ++ second.written, first.failed ++ second.failed⟩

end BuildReport

variable {m : Type → Type} [Monad m] [FileStore m]

/-- Puts a text in its place, whole or not at all. -/
def write (path : Path) (text : Text) : ExceptT Error m Unit :=
  (FileStore.replaceText path text).adapt fun cause => .config (.unwritable path cause)

/-- The configuration in a file. -/
def loadConfig (path : Path) : ExceptT Error m Config := do
  let text ← (FileStore.readText path).adapt fun cause => .config (.unreadable path cause)
  match Config.fromToml text with
  | .ok config => return config
  | .error cause => throw (.config cause)

/-- The template of papers: the configured one, which must have a place for the body, or
the standard one. -/
def loadTemplate (config : Config) : ExceptT Error m Text := do
  match config.latex.template with
  | none => return Latex.standardTemplate config.siteBaseUrl
  | some path =>
    let template ← (FileStore.readText path).adapt fun cause => .config (.unreadable path cause)
    if Text.occursIn Latex.placeholder template then return template
    else throw (.config (.missingPlaceholder path))

/-- The page of a document. -/
def compilePage (config : Config) (source : Path) (markdown : Text) : Text :=
  (Article.compile config .standard markdown).page config (some source)

/-- The paper of a document. -/
def compilePaper (config : Config) (markdown : Text) : ExceptT Error m Text := do
  let template ← loadTemplate config
  return Latex.paper config template markdown

/-- The documents of a library with their pages. -/
def manifest (config : Config) : ExceptT Error m Manifest := do
  let sources ← scan config
  liftM (Manifest.build config sources)

/-- Compiles documents one after the other and writes each to its place. One that cannot
be read is reported and passed over. -/
def writeAll (compile : Path → Text → ExceptT Error m Text) (place : Path → Path) :
    List ManifestEntry → ExceptT Error m BuildReport
  | [] => return .empty
  | entry :: entries => do
    match ← liftM (FileStore.readText (m := m) entry.source).run with
    | .error cause =>
      let report ← writeAll compile place entries
      return { report with failed := (entry.source, cause) :: report.failed }
    | .ok markdown =>
      let text ← compile entry.source markdown
      let target := place entry.page
      write target text
      let report ← writeAll compile place entries
      return { report with written := target :: report.written }

/-- The name of the manifest in the published tree. -/
def manifestName : Text :=
  "manifest.json".toList

/-- Writes the pages of all documents, and the manifest. -/
def buildHtml (config : Config) : ExceptT Error m BuildReport := do
  let manifest ← manifest config
  let report ← writeAll (fun source markdown => return compilePage config source markdown) id
    manifest.entries
  write (config.publicDir.push manifestName) manifest.toJson
  return report

/-- Writes the papers of all documents, each beside the page. -/
def buildLatex (config : Config) : ExceptT Error m BuildReport := do
  let manifest ← manifest config
  writeAll (fun _ markdown => compilePaper config markdown) (·.withExtension "tex".toList)
    manifest.entries

end Scriptorium.Library
