import Scriptorium.Command.Arguments
import Scriptorium.Library.Check
/-! # Commands

What a command does to the files of a library, and what it says (`Request.answer`).
-/

namespace Scriptorium

/-- What a run of the program leaves behind beside its files. -/
structure Outcome where
  exitCode : Nat
  output : Text
  /-- What is said to whoever watches the run. -/
  remarks : Text
  deriving DecidableEq, Repr

namespace Outcome

/-- A run that went well. -/
def success (output : Text) : Outcome := ⟨0, output, []⟩

/-- The end of a run by an error. -/
def ofError (cause : Error) : Outcome :=
  ⟨cause.exitCode, [], cause.message ++ ['\n']⟩

/-- What a run says about a build. A source that could not be read is a failure. -/
def ofBuild (report : Library.BuildReport) : Outcome where
  exitCode := if report.failed.isEmpty then 0 else 1
  output := "wrote ".toList ++ Text.ofNat report.written.length ++ " files\n".toList
  remarks := report.failed.flatMap fun (source, cause) =>
    "failed: ".toList ++ source.text ++ ": ".toList ++ cause.message ++ ['\n']

/-- What a run says about a comparison. A difference is a failure. -/
def ofCheck (report : Library.CheckReport) : Outcome where
  exitCode := if report.isClean then 0 else 1
  output :=
    report.missing.flatMap (fun source => "missing page: ".toList ++ source.text ++ ['\n']) ++
      report.orphans.flatMap fun page => "orphan page: ".toList ++ page.text ++ ['\n']
  remarks := []

end Outcome

/-- The file that holds the configuration when no other is named. -/
def standardConfigFile : Path :=
  ⟨"duality.toml".toList⟩

/-- What is said about the version. -/
def versionText : Text :=
  "duality 0.1.0\n".toList

/-- What is said about the use of the program. -/
def usageText : Text :=
  ("Usage: duality [-c PATH] [-v] COMMAND\n\nCommands:\n" ++
    "  html INPUT [-o OUTPUT]   compile one document to a page\n" ++
    "  tex INPUT [-o OUTPUT]    compile one document to a paper\n" ++
    "  build [--tex]            compile every document of the library\n" ++
    "  verify                   compare the public tree with the source tree\n").toList

section

variable {m : Type → Type} [Monad m] [FileStore m]

/-- The configuration of a run: in the named file, in the standard one if there is one,
or the standard configuration. -/
def configure (file : Option Path) : ExceptT Error m Config := do
  match file with
  | some file => Library.loadConfig file
  | none =>
    if ← liftM (FileStore.isFile (m := m) standardConfigFile) then
      Library.loadConfig standardConfigFile
    else return .standard

/-- Gives a text out: to a file, or as what the run says. -/
def deliver (output : Option Path) (text : Text) : ExceptT Error m Outcome := do
  match output with
  | some path =>
    Library.write path text
    return .success []
  | none => return .success text

/-- Does what a command says. -/
def Command.run (config : Config) : Command → ExceptT Error m Outcome
  | .page input output => do
    let markdown ← (FileStore.readText input).adapt Error.file
    deliver output (Library.compilePage config input markdown)
  | .paper input output => do
    let markdown ← (FileStore.readText input).adapt Error.file
    deliver output (← Library.compilePaper config markdown)
  | .build papers => do
    let pages ← Library.buildHtml config
    if papers then return .ofBuild (pages.append (← Library.buildLatex config))
    else return .ofBuild pages
  | .check => return .ofCheck (← Library.check config)

/-- Does what a command line asks for. -/
def Request.answer : Request → m Outcome
  | .run file command => do
    match ← (configure file >>= fun config => command.run config).run with
    | .ok outcome => return outcome
    | .error cause => return .ofError cause
  | .version => return .success versionText
  | .help => return .success usageText
  | .misuse => return ⟨2, [], usageText⟩

end

end Scriptorium
