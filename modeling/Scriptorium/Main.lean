import Scriptorium.Command.Run
/-! # The program

The command line on the files of the machine.
-/

namespace Scriptorium

/-- The cause of a refusal by the system. -/
def FileError.ofSystem : IO.Error → FileError
  | .noFileOrDirectory .. => .notFound
  | .alreadyExists .. => .alreadyExists
  | .inappropriateType _ code reason =>
    if code = 20 then .notDirectory
    else if code = 21 then .isDirectory
    else .other reason.toList
  | .resourceBusy .. => .busy
  | refusal => .other refusal.toString.toList

/-- An action with the cause when the system refuses it. -/
def attempt {α : Type} (action : IO α) : IO (Except FileError α) := do
  match ← action.toBaseIO with
  | .ok a => return .ok a
  | .error refusal => return .error (.ofSystem refusal)

/-- What metadata say stands at a place. -/
def FileKind.ofMetadata (metadata : IO.FS.Metadata) : FileKind :=
  match metadata.type with
  | .file => .file
  | .dir => .directory
  | _ => .other

/-- A path as the system knows it. -/
def Path.system (path : Path) : IO.FS.DirEntry :=
  ⟨String.ofList path.text, ""⟩

/-- All that stands below a directory, which the given names lead to. -/
partial def walkBelow (directory : Path) (names : List Text) : IO (List Found) := do
  match ← attempt directory.system.root.readDir with
  | .error cause => return [⟨names, .closed cause⟩]
  | .ok entries =>
    let below := (entries.toList.map fun entry => entry.fileName.toList).mergeSort
      fun first second => !decide (second < first)
    let found ← below.mapM fun name => do
      let place := directory.push name
      let names := names ++ [name]
      match ← attempt place.system.root.symlinkMetadata with
      | .error cause => return [⟨names, .closed cause⟩]
      | .ok metadata =>
        let kind := FileKind.ofMetadata metadata
        let here : Found := ⟨names, .kind kind⟩
        if kind = .directory then return here :: (← walkBelow place names) else return [here]
    return found.flatten

/-- Puts a file at a place by way of one beside it, which takes its name once it is
complete. -/
def replaceFile (path : Path) (content : List UInt8) : IO Unit := do
  let target := String.ofList path.text
  let directory := (path.parent?.getD ⟨['.']⟩).text
  let directory := String.ofList (if directory.isEmpty then ['.'] else directory)
  IO.FS.createDirAll directory
  let beside := s!"{directory}/.tmp{← IO.rand 0 1000000000000}"
  try
    IO.FS.writeBinFile beside ⟨content.toArray⟩
    IO.FS.rename beside target
  catch refusal =>
    discard (IO.FS.removeFile beside).toBaseIO
    throw refusal

/-- The file store of the machine. -/
instance : FileStore IO where
  read path := attempt do return (← IO.FS.readBinFile (String.ofList path.text)).toList
  replace path content := attempt (replaceFile path content)
  kind? path := do
    match ← attempt path.system.root.metadata with
    | .ok metadata => return some (.ofMetadata metadata)
    | .error _ => return none
  walk path := do
    match ← attempt path.system.root.metadata with
    | .error cause => return .error cause
    | .ok metadata =>
      let kind := FileKind.ofMetadata metadata
      let below ← if kind = .directory then walkBelow path [] else pure []
      return .ok (⟨[], .kind kind⟩ :: below)

end Scriptorium

/-- Does what the command line asks for. -/
def main (arguments : List String) : IO UInt32 := do
  let outcome ← (Scriptorium.Request.ofArguments (arguments.map String.toList)).answer
  IO.print (String.ofList outcome.output)
  IO.eprint (String.ofList outcome.remarks)
  return UInt32.ofNat outcome.exitCode
