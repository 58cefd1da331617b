import Scriptorium.Files.Tree
/-! # Files in memory

The operations of a file store on a tree of files. They are those of the real thing: a
path may lead through directories only, what stands before a slash must be one, and above
the root there is nothing but the root.
-/

namespace Scriptorium

/-- A step on the way that a path leads. -/
inductive Step where
  | stay
  /-- To the root, from anywhere. -/
  | top
  | up
  | down (name : Text) (isName : Path.IsName name)
  deriving DecidableEq, Repr

/-- Where a step leads from a place. There is nothing above the root but the root. -/
def Step.move (step : Step) (place : Location) : Location :=
  match step with
  | .stay => place
  | .top => []
  | .up => place.dropLast
  | .down name _ => place ++ [name]

/-- The step of a segment. -/
def Step.ofSegment (segment : Text) : Step :=
  if isName : Path.IsName segment then .down segment isName
  else if segment = ['.', '.'] then .up
  else .stay

/-- The steps of a path. A slash at its end is a step too, which only a directory
allows. -/
def Path.steps (path : Path) : List Step :=
  (if path.isAbsolute then [.top] else []) ++ (path.text.splitOn '/').map Step.ofSegment

namespace FileTree

/-- The place that steps lead to. Each of them starts from a directory, but the one to the
root. -/
def follow (tree : FileTree) (place : Location) : List Step → Except FileError Location
  | [] => .ok place
  | .top :: steps => tree.follow [] steps
  | step :: steps =>
    match tree.get? place with
    | none => .error .notFound
    | some (.file _) => .error .notDirectory
    | some .directory => tree.follow (step.move place) steps

/-- The node that a path leads to, and its place. -/
def lookup (tree : FileTree) (path : Path) : Except FileError (Location × Node) := do
  if path.text.isEmpty then throw .notFound
  let place ← tree.follow tree.working path.steps
  match tree.get? place with
  | some node => return (place, node)
  | none => throw .notFound

/-- The bytes of a file. -/
def read (tree : FileTree) (path : Path) : Except FileError (List UInt8) := do
  match ← tree.lookup path with
  | (_, .file content) => return content
  | (_, .directory) => throw .isDirectory

/-- What stands where a path leads to. -/
def kind? (tree : FileTree) (path : Path) : Option FileKind :=
  match tree.lookup path with
  | .ok (_, node) => some node.kind
  | .error _ => none

/-- A node as it is seen from the place where a walk began. -/
def seenFrom (place : Location) (entry : Location × Node) : Option Found :=
  (place.isPrefixOf? entry.1).map fun names => ⟨names, .kind entry.2.kind⟩

/-- The place of a path and all that is below it. -/
def walk (tree : FileTree) (path : Path) : Except FileError (List Found) := do
  match ← tree.lookup path with
  | (_, .file _) => return [⟨[], .kind .file⟩]
  | (place, .directory) =>
    return ⟨[], .kind .directory⟩ ::
      (tree.nodes.filterMap (seenFrom place)).filter fun found => !found.names.isEmpty

/-- The place of the directory that steps lead to. -/
def directory (tree : FileTree) (steps : List Step) : Except FileError Location :=
  tree.follow tree.working (steps ++ [.stay])

/-- The tree with a new directory, where nothing stands yet. -/
def makeDirectory (tree : FileTree) (before : List Step) (last : Step) :
    Except FileError FileTree := do
  let parent ← tree.directory before
  match last with
  | .stay | .top | .up => throw .alreadyExists
  | .down name isName =>
    if vacant : tree.get? (parent ++ [name]) = none then
      if within : tree.get? parent = some .directory then
        return tree.put parent name .directory isName within (by simp [vacant])
      else throw .notDirectory
    else throw .alreadyExists

/-- The tree with a directory that may have been there before, or why there can be
none. -/
def ensureDirectory (tree : FileTree) (before : List Step) (last : Step) :
    Except FileError Unit × FileTree :=
  match tree.makeDirectory before last with
  | .ok tree => (.ok (), tree)
  | .error cause =>
    match tree.directory (before ++ [last]) with
    | .ok _ => (.ok (), tree)
    | .error _ => (.error cause, tree)

/-- The tree with all the directories on the way of steps, which are given in
reverse. They are made from the first missing one on. -/
def makeDirectories (tree : FileTree) : List Step → Except FileError Unit × FileTree
  | [] => (.ok (), tree)
  | last :: before =>
    match tree.makeDirectory before.reverse last with
    | .error .notFound =>
      match tree.makeDirectories before with
      | (.ok (), tree) => tree.ensureDirectory before.reverse last
      | failed => failed
    | _ => tree.ensureDirectory before.reverse last

/-- The tree with a file in the directory that a path leads through. A file that is
there is replaced; nothing else is. -/
def putFile (tree : FileTree) (path : Path) (content : List UInt8) :
    Except FileError FileTree := do
  if path.text.isEmpty then throw .notFound
  let trimmed : Path := ⟨path.text.dropEndWhile (· == '/')⟩
  let parent ← tree.directory trimmed.steps.dropLast
  match trimmed.steps.getLast? with
  | some (.down name isName) =>
    if trimmed ≠ path then throw .notDirectory
    else if free : tree.get? (parent ++ [name]) ≠ some .directory then
      if within : tree.get? parent = some .directory then
        return tree.put parent name (.file content) isName within free
      else throw .notDirectory
    else throw .isDirectory
  | _ => throw .busy

/-- The tree with a file at a path, and the directories on the way to it. They stay when
the file itself cannot be put there. -/
def replace (tree : FileTree) (path : Path) (content : List UInt8) :
    Except FileError Unit × FileTree :=
  match tree.makeDirectories ((path.parent?.getD ⟨['.']⟩).steps.reverse) with
  | (.error cause, tree) => (.error cause, tree)
  | (.ok (), tree) =>
    match tree.putFile path content with
    | .ok tree => (.ok (), tree)
    | .error cause => (.error cause, tree)

/-- The places of all files, in order. -/
def files (tree : FileTree) : List Location :=
  tree.nodes.filterMap fun
    | (place, .file _) => some place
    | (_, .directory) => none

end FileTree

/-- The file store of a tree in memory. -/
instance : FileStore (StateM FileTree) where
  read path := do return (← get).read path
  replace path content := modifyGet fun tree => tree.replace path content
  kind? path := do return (← get).kind? path
  walk path := do return (← get).walk path

end Scriptorium
