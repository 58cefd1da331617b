import Scriptorium.Path
/-! # Arguments

The arguments of the command line, read from left to right (`Request.ofArguments`). The
first of them that is wrong, or that asks for the version or for help, settles what is
done.
-/

namespace Scriptorium

/-- What the program is told to do. -/
inductive Command where
  /-- Compile one document to a page. -/
  | page (input : Path) (output : Option Path)
  /-- Compile one document to a paper. -/
  | paper (input : Path) (output : Option Path)
  /-- Build the library, with its papers or without. -/
  | build (papers : Bool)
  /-- Compare the published tree with the source tree. -/
  | check
  deriving DecidableEq, Repr

/-- What a command line asks for. -/
inductive Request where
  | run (config : Option Path) (command : Command)
  | version
  | help
  /-- The arguments are wrong. -/
  | misuse
  deriving DecidableEq, Repr

namespace Arguments

/-- What arguments stand behind: the name of the program, or that of a command. -/
inductive Level where
  | program
  | page
  | paper
  | build
  | check
  deriving DecidableEq, Repr

/-- An option. -/
inductive Switch where
  | config
  | output
  | verbose
  | papers
  | version
  | help
  deriving DecidableEq, Repr

/-- Whether an option has a value. -/
def Switch.hasValue : Switch → Bool
  | .config | .output => true
  | _ => false

/-- Whether an option is known behind a name. -/
def Switch.isKnown (level : Level) : Switch → Bool
  | .config | .verbose | .help => true
  | .output => level == .page || level == .paper
  | .papers => level == .build
  | .version => level == .program

/-- The option of a long name. -/
def longSwitch? (level : Level) (name : Text) : Option Switch :=
  ([("config", Switch.config), ("output", .output), ("verbose", .verbose), ("tex", .papers),
    ("version", .version), ("help", .help)].find? fun (long, switch) =>
      name == long.toList && switch.isKnown level).map Prod.snd

/-- The option of a letter. -/
def shortSwitch? (level : Level) (letter : Char) : Option Switch :=
  ([('c', Switch.config), ('o', .output), ('v', .verbose), ('V', .version), ('h', .help)].find?
    fun (short, switch) => letter == short && switch.isKnown level).map Prod.snd

/-- The command of a name. -/
def level? (name : Text) : Option Level :=
  ([("html", Level.page), ("tex", .paper), ("build", .build), ("verify", .check)].find?
    fun (command, _) => name == command.toList).map Prod.snd

/-- What has been given behind one name. -/
structure Given where
  flags : List Switch
  values : List (Switch × Path)
  input : Option Path
  deriving DecidableEq, Repr

namespace Given

/-- Nothing. -/
def nothing : Given := ⟨[], [], none⟩

/-- The value of an option. -/
def value? (given : Given) (switch : Switch) : Option Path :=
  (given.values.find? (·.1 == switch)).map Prod.snd

/-- Adds an option without a value, which comes once. Asking for the version or for help
ends the reading. -/
def addFlag (given : Given) (switch : Switch) : Except Request Given :=
  if switch = .version then throw .version
  else if switch = .help then throw .help
  else if given.flags.contains switch then throw .misuse
  else return { given with flags := switch :: given.flags }

/-- Adds the value of an option, which comes once and is not empty. -/
def addValue (given : Given) (switch : Switch) (value : Text) : Except Request Given :=
  if value.isEmpty || (given.value? switch).isSome then throw .misuse
  else return { given with values := (switch, ⟨value⟩) :: given.values }

/-- Adds an argument that belongs to no option. -/
def addWord (given : Given) (level : Level) (word : Text) : Except Request Given :=
  if word.isEmpty || given.input.isSome || !(level == .page || level == .paper) then
    throw .misuse
  else return { given with input := some ⟨word⟩ }

end Given

/-- What has been given, and the option whose value comes next. -/
abbrev Reading := Given × Option Switch

/-- Reads an option with a long name, of which the two hyphens have been read. -/
def readLong (level : Level) (given : Given) (text : Text) : Except Request Reading :=
  let name := text.takeWhile (· != '=')
  match longSwitch? level name, text.dropWhile (· != '=') with
  | none, _ => throw .misuse
  | some switch, [] =>
    if switch.hasValue then return (given, some switch)
    else return (← given.addFlag switch, none)
  | some switch, _ :: value =>
    if switch.hasValue then return (← given.addValue switch value, none) else throw .misuse

/-- Reads options by their letters, of which the hyphen has been read. What follows an
option with a value is that value. -/
def readShort (level : Level) (given : Given) : Text → Except Request Reading
  | [] => return (given, none)
  | letter :: rest =>
    match shortSwitch? level letter with
    | none => throw .misuse
    | some switch =>
      if switch.hasValue then
        match rest with
        | [] => return (given, some switch)
        | '=' :: value => return (← given.addValue switch value, none)
        | value => return (← given.addValue switch value, none)
      else do readShort level (← given.addFlag switch) rest

/-- The command of a name with what has been given. -/
def command? (level : Level) (given : Given) : Option Command :=
  match level, given.input with
  | .page, some input => some (.page input (given.value? .output))
  | .paper, some input => some (.paper input (given.value? .output))
  | .build, none => some (.build (given.flags.contains .papers))
  | .check, none => some .check
  | _, _ => none

/-- What arguments ask for in the end. An option that is known behind the program's name
and behind the command's has the value given last. -/
def request (outer : Given) (level : Level) (given : Given) : Request :=
  match command? level given with
  | some command => .run (given.value? .config <|> outer.value? .config) command
  | none => .misuse

/-- Reads the arguments behind a name; `outer` is what was given behind the name of the
program. An argument that starts with a hyphen is an option, unless it is nothing more or
stands behind two hyphens alone. -/
def read (outer : Given) (level : Level) : (reading : Reading) → List Text → Except Request Request
  | (given, none), [] => return request outer level given
  | (_, some _), [] => throw .misuse
  | (given, pending), argument :: arguments =>
    match argument, pending with
    | ['-', '-'], none => do
      return request outer level (← arguments.foldlM (fun given => given.addWord level) given)
    | '-' :: '-' :: text, none => do
      read outer level (← readLong level given text) arguments
    | '-' :: c :: text, none => do
      read outer level (← readShort level given (c :: text)) arguments
    | '-' :: _ :: _, some _ => throw .misuse
    | value, some switch => do
      read outer level (← given.addValue switch value, none) arguments
    | word, none =>
      match level, level? word with
      | .program, some command => read given command (.nothing, none) arguments
      | .program, none =>
        if word = "help".toList then throw .help else throw .misuse
      | _, _ => do read outer level (← given.addWord level word, none) arguments

end Arguments

/-- What a command line asks for. -/
def Request.ofArguments (arguments : List Text) : Request :=
  match Arguments.read .nothing .program (.nothing, none) arguments with
  | .ok request => request
  | .error request => request

end Scriptorium
