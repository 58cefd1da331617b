import Scriptorium.Text.Basic
/-! # Paths

A path keeps the spelling it was given, since that spelling is shown. Two paths
name the same place when their components agree: repeated slashes, and segments
of a single dot behind the first one, make no difference.
-/

namespace Scriptorium

/-- A path as it was written. -/
structure Path where
  text : Text
  deriving DecidableEq, Repr

namespace Path

/-- A text that stands as one named segment of a path. -/
structure IsName (name : Text) : Prop where
  nonempty : name ≠ []
  not_current : name ≠ ['.']
  not_parent : name ≠ ['.', '.']
  whole : '/' ∉ name

instance (name : Text) : Decidable (IsName name) :=
  decidable_of_iff (name ≠ [] ∧ name ≠ ['.'] ∧ name ≠ ['.', '.'] ∧ '/' ∉ name)
    ⟨fun ⟨nonempty, notCurrent, notParent, whole⟩ => ⟨nonempty, notCurrent, notParent, whole⟩,
      fun ⟨nonempty, notCurrent, notParent, whole⟩ => ⟨nonempty, notCurrent, notParent, whole⟩⟩

/-- What a path is made of. -/
inductive Component where
  | root
  | current
  | parent
  | normal (name : Text)
  deriving DecidableEq, Repr

/-- The component that a segment behind the first one stands for, if any. -/
def Component.ofSegment? (segment : Text) : Option Component :=
  if segment = [] || segment = ['.'] then none
  else if segment = ['.', '.'] then some .parent
  else some (.normal segment)

/-- The component that opens a path by its first segment: a slash in front makes
the path absolute, and a single dot is kept there. -/
def firstComponents (text : Text) : List Component :=
  if text.startsWith ['/'] then [.root]
  else if (text.splitOn '/').head? = some ['.'] then [.current]
  else []

/-- The components of a path. -/
def components (p : Path) : List Component :=
  firstComponents p.text ++ (p.text.splitOn '/').filterMap Component.ofSegment?

/-- Whether two paths have the same components. -/
def same (p q : Path) : Bool :=
  p.components == q.components

/-- The names among components. -/
def names (components : List Component) : List Text :=
  components.filterMap fun
    | .normal name => some name
    | _ => none

/-- The names of a path below a base, or all its names when it does not start
with the base. -/
def namesBelow (p base : Path) : List Text :=
  names ((base.components.isPrefixOf? p.components).getD p.components)

/-- Whether a path starts at the root. -/
def isAbsolute (p : Path) : Bool :=
  p.text.startsWith ['/']

/-- A path continued by another one. An absolute one takes its place; otherwise a
slash stands between them, unless the first is empty or ends with one. -/
def push (p : Path) (segment : Text) : Path :=
  if segment.startsWith ['/'] then ⟨segment⟩
  else if p.text.isEmpty || p.text.endsWith ['/'] then ⟨p.text ++ segment⟩
  else ⟨p.text ++ '/' :: segment⟩

/-- A path continued by names, one after the other. -/
def join (p : Path) (names : List Text) : Path :=
  names.foldl push p

/-- The last component, when it is a name. -/
def fileName? (p : Path) : Option Text :=
  match p.components.getLast? with
  | some (.normal name) => some name
  | _ => none

/-- The spelling of a component. -/
def Component.text : Component → Text
  | .root => []
  | .current => ['.']
  | .parent => ['.', '.']
  | .normal name => name

/-- The path of the given components. -/
def ofComponents (components : List Component) : Path :=
  if components = [.root] then ⟨['/']⟩ else ⟨Text.join ['/'] (components.map Component.text)⟩

/-- The path without its last component, unless it is empty or the root. -/
def parent? (p : Path) : Option Path :=
  match p.components.getLast? with
  | none | some .root => none
  | some _ => some (ofComponents p.components.dropLast)

/-- A file name cut at its last dot: the stem, and the extension behind the dot.
A name that starts with its only dot has no extension. -/
def splitName (name : Text) : Text × Option Text :=
  let extension := (name.reverse.takeWhile (· != '.')).reverse
  if extension.length + 1 < name.length then
    (name.take (name.length - extension.length - 1), some extension)
  else (name, none)

/-- The part of the file name behind its last dot. -/
def extension? (p : Path) : Option Text :=
  p.fileName?.bind fun name => (splitName name).2

/-- The text of a path in reverse, without the slashes and single dots behind its
last name. -/
def dropTrailing : Text → Text
  | '/' :: rest => dropTrailing rest
  | '.' :: '/' :: rest => dropTrailing ('/' :: rest)
  | s => s

/-- The path with another extension, or with one where it had none. A path without
a file name stays. -/
def withExtension (p : Path) (extension : Text) : Path :=
  match p.fileName? with
  | none => p
  | some name =>
    let trimmed := (dropTrailing p.text.reverse).reverse
    let directory := trimmed.take (trimmed.length - name.length)
    ⟨directory ++ (splitName name).1 ++ '.' :: extension⟩

end Path

end Scriptorium
