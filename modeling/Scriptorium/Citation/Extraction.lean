import Scriptorium.Citation.Token
import Scriptorium.Text.Lines
/-! # Taking citations out of a document

The definitions are taken out of the body, and the markers in it become tokens.
Fenced code is left as it is. A definition starts at the beginning of a line and
runs up to a blank line, the next definition, a divider or a heading.
-/

namespace Scriptorium

/-- A body without its definitions, and the citations that they define. -/
structure Extraction where
  markdown : Text
  citations : CitationTable
  deriving DecidableEq, Repr

namespace Extraction

/-- What a line, or a line with those that continue it, is kept as. -/
inductive Item where
  | kept (line : Text)
  | defined (id raw : Text)
  deriving DecidableEq, Repr

/-- Whether a definition ends before the given line. -/
def endsDefinition (line : Text) : Bool :=
  line.trim.isEmpty || (Line.definition? line).isSome || Line.isDivider line.trim ||
    (Line.heading? line.trim).isSome

/-- Whether a line continues the definition before it. -/
def continuesDefinition (line : Text) : Bool :=
  !endsDefinition line

/-- The content of a definition: its lines trimmed, without blank ends. -/
def definitionContent (first : Text) (others : List Text) : Text :=
  Text.trim (Text.joinLines ((first :: others).map Text.trim))

/-- The items that the given lines form, the first of which lies in a fence or
not. -/
def items (inFence : Bool) : List Text → List Item
  | [] => []
  | line :: lines =>
    if Line.isFence line.trimStart then .kept line :: items (!inFence) lines
    else if inFence then .kept line :: items inFence lines
    else
      match Line.definition? line with
      | none => .kept (Citation.tokenize line) :: items inFence lines
      | some ((id, first), _) =>
        have := (List.dropWhile_suffix (l := lines) continuesDefinition).length_le
        .defined id (definitionContent first (lines.takeWhile continuesDefinition)) ::
          items inFence (lines.dropWhile continuesDefinition)
termination_by lines => lines.length

/-- The lines that are kept. -/
def keptLines (items : List Item) : List Text :=
  items.filterMap fun
    | .kept line => some line
    | .defined _ _ => none

/-- The definitions, in order. -/
def definitions (items : List Item) : List (Text × Text) :=
  items.filterMap fun
    | .kept _ => none
    | .defined id raw => some (id, raw)

/-- A text without blank characters at its end, with a line feed there unless it is
empty. -/
def closeText (s : Text) : Text :=
  match s.trimEnd with
  | [] => []
  | trimmed => trimmed ++ ['\n']

/-- Takes the citations out of a body. -/
def ofBody (markdown : Text) : Extraction :=
  let items := items false markdown.lines
  { markdown := closeText (Text.joinLines (keptLines items))
    citations := CitationTable.empty.insertAll (definitions items) }

end Extraction

end Scriptorium
