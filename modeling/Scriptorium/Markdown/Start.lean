import Scriptorium.Markdown.Html
import Scriptorium.Text.Digit
/-! # How blocks begin

The ways in which a line can begin a block: headings, thematic breaks, code fences,
the items of lists, and the rows of tables. The recognisers are given a line from
behind its indentation on, which is less than four columns.
-/

namespace Scriptorium.Markdown

/-- Whether a line is a thematic break: three or more of one mark, and white space. -/
def isRule (s : Text) : Bool :=
  let marks := s.filter (!isSpace ·)
  match marks with
  | [] => false
  | c :: _ => (c == '-' || c == '_' || c == '*') && 3 ≤ marks.length && marks.all (· == c)

/-- The text of a heading without the number signs that close it. -/
def dropClosingSigns (s : Text) : Text :=
  let trimmed := Text.dropEndWhile isSpace s
  let unclosed := Text.dropEndWhile (· == '#') trimmed
  if unclosed.isEmpty then []
  else if unclosed.endsWith [' '] then Text.dropEndWhile isSpace unclosed
  else trimmed

/-- A heading: its level and its text. -/
def atxHeading? (s : Text) : Option (Nat × Text) :=
  let signs := s.takeWhile (· == '#')
  let rest := s.dropWhile (· == '#')
  if 1 ≤ signs.length && signs.length ≤ 6 && rest.head?.all isSpace then
    some (signs.length, dropClosingSigns (rest.dropWhile isSpace))
  else none

/-- The level of the heading that a line makes of the paragraph above it. -/
def underline? (s : Text) : Option Nat :=
  match Text.dropEndWhile isSpace s with
  | [] => none
  | c :: cs =>
    if cs.all (· == c) then
      if c = '=' then some 1 else if c = '-' then some 2 else none
    else none

/-- A code fence: its mark, how often the mark stands there, and the info behind it. -/
structure Fence where
  mark : Char
  length : Nat
  info : Text
  deriving DecidableEq, Repr

/-- A fence that opens a code block. Behind backquotes there are no others. -/
def fence? (s : Text) : Option Fence :=
  match s with
  | [] => none
  | c :: _ =>
    let length := (s.takeWhile (· == c)).length
    let info := s.dropWhile (· == c)
    if (c = '\x60' && !info.contains '\x60' || c = '~') && 3 ≤ length then
      some ⟨c, length, Text.stripWhere isSpace info⟩
    else none

/-- Whether a line closes the code block that a fence opened. -/
def Fence.isClosedBy (fence : Fence) (s : Text) : Bool :=
  fence.length ≤ (s.takeWhile (· == fence.mark)).length &&
    (s.dropWhile (· == fence.mark)).all isSpace

/-- The marker of a list item: the mark that its list has in common, and its number. -/
structure ListMarker where
  mark : Char
  number : Nat
  deriving DecidableEq, Repr

/-- Whether the list of a marker is ordered. -/
def ListMarker.isOrdered (marker : ListMarker) : Bool :=
  marker.mark == '.' || marker.mark == ')'

/-- The number that decimal digits stand for. -/
def decimalValue (digits : Text) : Nat :=
  digits.foldl (fun n c => n * 10 + (c.toNat - '0'.toNat)) 0

/-- The marker of a list item, and its width. White space or the end of the line
follows it. -/
def listMarker? (s : Text) : Option (ListMarker × Nat) :=
  match s with
  | [] => none
  | c :: rest =>
    if c = '-' || c = '+' || c = '*' then
      if rest.head?.all isSpace && !isRule s then some (⟨c, 0⟩, 1) else none
    else
      let digits := s.takeWhile isAsciiDigit
      match s.dropWhile isAsciiDigit with
      | [] => none
      | mark :: rest =>
        if 1 ≤ digits.length && digits.length ≤ 9 && (mark = '.' || mark = ')') &&
            rest.head?.all isSpace then
          some (⟨mark, decimalValue digits⟩, digits.length + 1)
        else none

/-- A place behind the marker of a list item of the given width, and by how many
columns behind the marker's start the content of the item begins. One column of white
space belongs to the marker; so do up to three more, unless code begins there or the
line ends. -/
def afterMarker (cursor : Cursor) (width : Nat) : Nat × Cursor :=
  let behind := cursor.advanceBy width
  let first := (behind.space?).getD behind
  if first.isBlank then (width + 1, first)
  else
    let (more, next) := first.spaces 4
    if more < 4 then (width + 1 + more, next) else (width + 1, first)

/-- How the cells of a column of a table are set. -/
inductive Alignment where
  | none
  | left
  | center
  | right
  deriving DecidableEq, Repr

/-- What has been read of a delimiter row: the columns in reverse, and of the column
being read its alignment, whether it has begun, and whether it has a hyphen. -/
structure DelimiterRow where
  columns : List Alignment
  current : Alignment
  hasBegun : Bool
  hasHyphen : Bool

/-- Reads one character of a delimiter row. -/
def DelimiterRow.read? (row : DelimiterRow) (c : Char) : Option DelimiterRow :=
  if c = ' ' || c = '\t' then some row
  else if c = '-' then some { row with hasBegun := true, hasHyphen := true }
  else if c = ':' then
    let current :=
      match row.hasBegun, row.current with
      | false, .none => .left
      | true, .left => .center
      | true, .none => .right
      | _, other => other
    some { row with current := current, hasBegun := true }
  else if c = '|' then
    if row.hasHyphen then some ⟨row.current :: row.columns, .none, false, false⟩ else none
  else none

/-- The alignments of the columns of a table, given by the row below its head. -/
def delimiterRow? (s : Text) : Option (List Alignment) := do
  let s := Text.stripWhere isSpace s
  if !s.contains '|' then none
  else
    let body := (Text.dropStart? ['|'] s).getD s
    let row ← body.foldlM DelimiterRow.read? ⟨[], .none, false, false⟩
    if row.hasBegun then
      if row.hasHyphen then some (row.current :: row.columns).reverse else none
    else if row.columns.isEmpty then none
    else some row.columns.reverse

/-- A row cut at the bars that no backslash precedes. -/
def splitBars : Text → List Text
  | [] => [[]]
  | '\\' :: c :: rest =>
    match splitBars rest with
    | [] => [['\\', c]]
    | part :: parts => ('\\' :: c :: part) :: parts
  | c :: rest =>
    if c = '|' then [] :: splitBars rest
    else
      match splitBars rest with
      | [] => [[c]]
      | part :: parts => (c :: part) :: parts

/-- A cell without its outer white space and the backslashes before bars. -/
def cellText (s : Text) : Text :=
  (Text.stripWhere isSpace s).replace ['\\', '|'] ['|']

/-- The cells of a row; a bar at either end bounds no further cell. -/
def cells (s : Text) : List Text :=
  let s := Text.stripWhere isSpace s
  let parts := splitBars ((Text.dropStart? ['|'] s).getD s)
  let parts := if parts.getLast?.any (·.isEmpty) then parts.dropLast else parts
  parts.map cellText

/-- Whether a row has a bar that no backslash precedes. -/
def hasBar (s : Text) : Bool :=
  1 < (splitBars s).length

/-- The table that two lines begin: the alignments of its columns and its head. -/
def tableStart? (head delimiter : Text) : Option (List Alignment × List Text) := do
  let alignments ← delimiterRow? delimiter
  if hasBar head && alignments.length = (cells head).length then some (alignments, cells head)
  else none

/-- The cells of a row of a table with the given number of columns. -/
def rowCells (columns : Nat) (s : Text) : List Text :=
  let found := cells s
  (found ++ List.replicate (columns - found.length) []).take columns

/-- Whether a line can interrupt a paragraph. Where the paragraph lies in an open
container that the line does not continue, any list item does; otherwise only one that
has content and, in an ordered list, the number one. -/
def interrupts (continued : Bool) (s : Text) : Bool :=
  isRule s || (atxHeading? s).isSome || (fence? s).isSome || s.startsWith ['>'] ||
    (htmlStart? true s).isSome ||
    match listMarker? s with
    | none => false
    | some (marker, width) =>
      !continued ||
        ((!marker.isOrdered || marker.number == 1) && !(s.drop width).all isSpace)

end Scriptorium.Markdown
