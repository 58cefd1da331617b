import Scriptorium.Library.Build
/-! # Checking a library

The published tree is compared with the source tree (`Library.check`): every document
should have its page, and every page its document.
-/

namespace Scriptorium.Library

/-- How the two trees differ. -/
structure CheckReport where
  /-- The sources without a page. -/
  missing : List Path
  /-- The pages without a source. -/
  orphans : List Path
  deriving DecidableEq, Repr

/-- Whether the two trees agree. -/
def CheckReport.isClean (report : CheckReport) : Bool :=
  report.missing.isEmpty && report.orphans.isEmpty

/-- Whether a path has the name of a page. -/
def isPage (path : Path) : Bool :=
  path.extension? == some "html".toList

/-- The pages without a source among what a walk through the published tree comes
upon. -/
def orphansAmong (config : Config) (manifest : Manifest) : List Found → Except Error (List Path)
  | [] => .ok []
  | found :: others =>
    let path := config.publicDir.join found.names
    match found.sight with
    | .closed cause => .error (.walk path cause)
    | .kind .file =>
      if isPage path && (manifest.sourceFor? path).isNone then
        (orphansAmong config manifest others).map (path :: ·)
      else orphansAmong config manifest others
    | .kind _ => orphansAmong config manifest others

variable {m : Type → Type} [Monad m] [FileStore m]

/-- The sources whose page does not exist. -/
def missingAmong : List ManifestEntry → m (List Path)
  | [] => return []
  | entry :: entries => do
    let published ← FileStore.isFile entry.page
    let missing ← missingAmong entries
    return if published then missing else entry.source :: missing

/-- The pages without a source. There are none where nothing is published. -/
def orphans (config : Config) (manifest : Manifest) : ExceptT Error m (List Path) := do
  if ← liftM (FileStore.isDirectory (m := m) config.publicDir) then
    let found ← (ExceptT.mk (FileStore.walk config.publicDir)).adapt (Error.walk config.publicDir)
    liftM (orphansAmong config manifest found)
  else return []

/-- Compares the published tree with the source tree. -/
def check (config : Config) : ExceptT Error m CheckReport := do
  let manifest ← manifest config
  let missing ← liftM (missingAmong (m := m) manifest.entries)
  let orphans ← orphans config manifest
  return ⟨missing, orphans⟩

end Scriptorium.Library
