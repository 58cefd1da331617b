import Scriptorium.Path
/-! # What can go wrong

Content that cannot be understood never stops a build. What does is listed here by
its cause; the wording of each cause, and the exit status that goes with it, are
functions of the cause.
-/

namespace Scriptorium

/-- Why the file system refused an operation. -/
inductive FileError where
  | notFound
  | alreadyExists
  | notDirectory
  | isDirectory
  | busy
  /-- The file was read, but its bytes are no text. -/
  | notUtf8
  | other (reason : Text)
  deriving DecidableEq, Repr

/-- Why a citation could not be formatted. -/
inductive FormatError where
  /-- The text begins like a BibTeX entry but is not a complete one. -/
  | unterminatedEntry (raw : Text)
  | refused (reason : Text)
  deriving DecidableEq, Repr

/-- Why the environment of a build is unusable. -/
inductive ConfigError where
  | invalid
  | unreadable (path : Path) (cause : FileError)
  | unwritable (path : Path) (cause : FileError)
  | missingPlaceholder (template : Path)
  deriving DecidableEq, Repr

/-- Why a document or a build was given up. -/
inductive Error where
  | config (cause : ConfigError)
  /-- Two sources have the same page. -/
  | duplicatePublicName (page first second : Path)
  | format (cause : FormatError)
  | file (cause : FileError)
  /-- A tree could not be listed from the given path on. -/
  | walk (path : Path) (cause : FileError)
  /-- A recorded manifest is not in the form that manifests are written in. -/
  | invalidManifest
  deriving DecidableEq, Repr

namespace FileError

/-- A cause that the operating system numbers. -/
def numbered (reason : String) (number : Nat) : Text :=
  reason.toList ++ " (os error ".toList ++ Text.ofNat number ++ [')']

/-- The wording of a refusal of the file system. -/
def message : FileError → Text
  | notFound => numbered "No such file or directory" 2
  | alreadyExists => numbered "File exists" 17
  | notDirectory => numbered "Not a directory" 20
  | isDirectory => numbered "Is a directory" 21
  | busy => numbered "Device or resource busy" 16
  | notUtf8 => "stream did not contain valid UTF-8".toList
  | other reason => reason

end FileError

namespace FormatError

/-- The wording of a failure to format. -/
def message : FormatError → Text
  | unterminatedEntry raw => "unterminated BibTeX entry: ".toList ++ raw
  | refused reason => reason

end FormatError

namespace ConfigError

/-- The wording of a fault of the environment. -/
def message : ConfigError → Text
  | invalid => "Invalid configuration".toList
  | unreadable path cause =>
    "Cannot read ".toList ++ path.text ++ ": ".toList ++ cause.message
  | unwritable path cause =>
    "Cannot write ".toList ++ path.text ++ ": ".toList ++ cause.message
  | missingPlaceholder template =>
    "Template ".toList ++ template.text ++ " has no %%CONTENT%% placeholder".toList

end ConfigError

namespace Error

/-- The wording of an error, with the kind of trouble in front. -/
def message : Error → Text
  | config cause => "Configuration error: ".toList ++ cause.message
  | duplicatePublicName page first second =>
    "Path error: ".toList ++ first.text ++ " and ".toList ++ second.text ++
      " both publish to ".toList ++ page.text
  | format cause => "Citation format error: ".toList ++ cause.message
  | file cause => "IO error: ".toList ++ cause.message
  | walk path cause =>
    "IO error: IO error for operation on ".toList ++ path.text ++ ": ".toList ++ cause.message
  | invalidManifest => "IO error: invalid manifest".toList

/-- The exit status for an error: two for a fault of the environment, one for
trouble with content or files. -/
def exitCode : Error → Nat
  | config _ => 2
  | _ => 1

end Error

end Scriptorium
