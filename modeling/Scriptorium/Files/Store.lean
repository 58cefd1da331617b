import Scriptorium.Error
import Scriptorium.Text.Utf8
/-! # File stores

What a build needs of a file system (`FileStore`): to read a file, to put one in its
place whole, to ask what stands at a place, and to list a tree. A build is written for
any file store, so that the one in memory can take the place of the real one.
-/

namespace Scriptorium

/-- What can stand at a place. -/
inductive FileKind where
  | file
  | directory
  /-- Neither, as is a link that is not followed. -/
  | other
  deriving DecidableEq, Repr

/-- What a walk comes upon. -/
inductive Sight where
  | kind (kind : FileKind)
  /-- A directory that cannot be listed. -/
  | closed (cause : FileError)
  deriving DecidableEq, Repr

/-- A place that a walk comes to: the names that lead to it from where the walk
began, and what stands there. -/
structure Found where
  names : List Text
  sight : Sight
  deriving DecidableEq, Repr

/-- A file system. -/
class FileStore (m : Type → Type) where
  /-- The bytes of a file. -/
  read : Path → m (Except FileError (List UInt8))
  /-- Puts a file at a place, where it stands either whole or not at all. The
  directories on the way are made. -/
  replace : Path → List UInt8 → m (Except FileError Unit)
  /-- What stands at a place, if anything. -/
  kind? : Path → m (Option FileKind)
  /-- All that stands at a place and below it. A directory comes before what is in it,
  and the names in a directory come in order. -/
  walk : Path → m (Except FileError (List Found))

namespace FileStore

variable {m : Type → Type} [Monad m] [FileStore m]

/-- The text of a file. -/
def readText (path : Path) : ExceptT FileError m Text := do
  let bytes ← ExceptT.mk (read path)
  match Utf8.decode? bytes with
  | some text => return text
  | none => throw .notUtf8

/-- Puts a text file at a place. -/
def replaceText (path : Path) (text : Text) : ExceptT FileError m Unit :=
  ExceptT.mk (replace path (Utf8.encode text))

/-- Whether a file stands at a place. -/
def isFile (path : Path) : m Bool := do
  return (← kind? path) = some .file

/-- Whether a directory stands at a place. -/
def isDirectory (path : Path) : m Bool := do
  return (← kind? path) = some .directory

end FileStore

end Scriptorium
