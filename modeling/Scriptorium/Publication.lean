import Scriptorium.Config
import Scriptorium.Link
/-! # Where documents are published

A document is known by its source path. Its page has a place in the published tree
(`Config.publicPath`), and its source an address in the repository
(`Config.repositoryUrl`). Going back from a page to a source is a guess
(`Config.sourcePath`), since several names have one published form.
-/

namespace Scriptorium

/-- A file name without the extension of Markdown documents. -/
def markdownStem (file : Text) : Text :=
  (Text.dropEnd? ".md".toList file).getD file

namespace Config

/-- The file that names lead to from a directory: all but the last are directories. -/
def placeBelow (base : Path) (directory file : Text → Text) : List Text → Path
  | [] => base
  | [name] => base.push (file name)
  | name :: rest => placeBelow (base.push (directory name)) directory file rest

/-- The page of a source document. -/
def publicPath (config : Config) (source : Path) : Path :=
  placeBelow config.publicDir Name.publish
    (fun file => Name.publish (markdownStem file) ++ ".html".toList)
    (source.namesBelow config.sourceDir)

/-- The name of the source file that a page name suggests: the stem of a collection
index has its dot again. -/
def sourceName (config : Config) (file : Text) : Text :=
  let stem := (Text.dropEnd? ".html".toList file).getD file
  if config.isCollectionIndex stem then '.' :: stem ++ ".md".toList else stem ++ ".md".toList

/-- The source document that a page suggests. -/
def sourcePath (config : Config) (page : Path) : Path :=
  placeBelow config.sourceDir id config.sourceName (page.namesBelow config.publicDir)

/-- The characters that are escaped in a repository address, besides those beyond
ASCII. -/
def isReserved (c : Char) : Bool :=
  c.toNat < 0x20 || c.toNat == 0x7F || " \"#%&<>?\x60\x7b\x7d".toList.contains c

/-- A text without the longest run of `./` at its start. -/
def dropCurrent : Text → Text
  | '.' :: '/' :: rest => dropCurrent rest
  | s => s

/-- A text with slashes for backslashes. -/
def withSlashes (s : Text) : Text :=
  s.map fun c => if c = '\\' then '/' else c

/-- The part of a path that the repository knows: from the source root on, or the
whole path when it does not lead through the source root. -/
def repositoryPath (config : Config) (source : Path) : Text :=
  let path := withSlashes source.text
  let marker := (withSlashes config.sourceDir.text).dropEndWhile (· == '/') ++ ['/']
  if path.startsWith marker then path
  else
    match Text.cut? ('/' :: marker) path with
    | some (_, below) => marker ++ below
    | none => (dropCurrent path).dropWhile (· == '/')

/-- The address of a source document in the repository. -/
def repositoryUrl (config : Config) (source : Path) : Text :=
  config.sourceBaseUrl ++ Percent.encode isReserved (config.repositoryPath source)

end Config

end Scriptorium
