import Scriptorium.Config
import Scriptorium.Files.Store
import Scriptorium.Text.Lines
/-! # The sources of a library

The documents of a library are the Markdown files of its source tree
(`Library.scan`). Hidden directories and the published tree are left out, and so are
drafts. A hidden file is a document like any other.
-/

namespace Scriptorium.Library

/-- Whether a name is that of something hidden. -/
def isHidden (name : Text) : Bool :=
  name.startsWith ['.']

/-- Whether a walk through the source tree enters the directories of the given names,
the first of which stands in `place` and each other one in the one before it. -/
def enters (config : Config) (place : Path) : List Text → Bool
  | [] => true
  | name :: names =>
    !isHidden name && !(place.push name).same config.publicDir &&
      enters config (place.push name) names

/-- Whether a path has the name of a Markdown document. -/
def isMarkdown (path : Path) : Bool :=
  path.extension? == some "md".toList

/-- Whether a document is a draft: its first line says so. -/
def isDraft (markdown : Text) : Bool :=
  markdown.lines.head?.any fun line => line.trim == "[draft]".toList

variable {m : Type → Type} [Monad m] [FileStore m]

/-- Whether a file is to be published. -/
def isPublishable (path : Path) : ExceptT Error m Bool := do
  if isMarkdown path then
    let markdown ← (FileStore.readText path).adapt Error.file
    return !isDraft markdown
  else return false

/-- The documents among what a walk through the source tree comes upon. -/
def sourcesAmong (config : Config) : List Found → ExceptT Error m (List Path)
  | [] => return []
  | found :: others => do
    let path := config.sourceDir.join found.names
    match found.sight with
    | .closed cause =>
      if enters config config.sourceDir found.names then throw (.walk path cause)
      else sourcesAmong config others
    | .kind .file =>
      if enters config config.sourceDir found.names.dropLast then
        if ← isPublishable path then return path :: (← sourcesAmong config others)
        else sourcesAmong config others
      else sourcesAmong config others
    | .kind _ => sourcesAmong config others

/-- The documents of a library, in the order of the walk. -/
def scan (config : Config) : ExceptT Error m (List Path) := do
  let found ← (ExceptT.mk (FileStore.walk config.sourceDir)).adapt (Error.walk config.sourceDir)
  sourcesAmong config found

end Scriptorium.Library
