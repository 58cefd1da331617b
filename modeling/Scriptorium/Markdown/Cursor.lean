import Scriptorium.Text.Basic
/-! # Lines and columns

A Markdown document is read line by line. The white space at the start of a line
counts in columns, where a tab leads to the next column that is a multiple of four,
so a cursor may stand inside of a tab.
-/

namespace Scriptorium.Markdown

/-- A line without its end; the last line of a document may have none. -/
structure Line where
  text : Text
  isEnded : Bool
  deriving DecidableEq, Repr

/-- Whether a character is a space or a tab. -/
def isSpace (c : Char) : Bool :=
  c == ' ' || c == '\t'

/-- Whether a character is white space within a document. -/
def isSpaceOrBreak (c : Char) : Bool :=
  isSpace c || c == '\n'

/-- A line with one more character in front, in a list of lines. -/
def consChar (c : Char) : List Line → List Line
  | [] => [⟨[c], false⟩]
  | line :: lines => { line with text := c :: line.text } :: lines

/-- The lines of a document. A line ends with a line feed, a carriage return, or the
two together. -/
def lines : Text → List Line
  | [] => []
  | '\n' :: rest => ⟨[], true⟩ :: lines rest
  | '\r' :: '\n' :: rest => ⟨[], true⟩ :: lines rest
  | '\r' :: rest => ⟨[], true⟩ :: lines rest
  | c :: rest => consChar c (lines rest)

/-- A place in a line: its column, the columns of a tab that are still to come, and
the text behind it. -/
structure Cursor where
  column : Nat
  pending : Nat
  rest : Text
  deriving DecidableEq, Repr

namespace Cursor

/-- The start of a line. -/
def start (line : Text) : Cursor := ⟨0, 0, line⟩

/-- The place one column of white space further on. -/
def space? (cursor : Cursor) : Option Cursor :=
  match cursor.pending, cursor.rest with
  | pending + 1, _ => some { cursor with pending := pending }
  | 0, ' ' :: rest => some ⟨cursor.column + 1, 0, rest⟩
  | 0, '\t' :: rest =>
    let width := 4 - cursor.column % 4
    some ⟨cursor.column + width, width - 1, rest⟩
  | 0, _ => none

/-- The place behind at most `most` columns of white space, and their number. -/
def spaces (cursor : Cursor) : (most : Nat) → Nat × Cursor
  | 0 => (0, cursor)
  | most + 1 =>
    match cursor.space? with
    | none => (0, cursor)
    | some next =>
      let (count, last) := next.spaces most
      (count + 1, last)

/-- The place behind the next character. -/
def advance (cursor : Cursor) : Cursor :=
  ⟨cursor.column + 1, 0, cursor.rest.tail⟩

/-- The place behind `count` characters that are no tabs. -/
def advanceBy (cursor : Cursor) (count : Nat) : Cursor :=
  ⟨cursor.column + count, 0, cursor.rest.drop count⟩

/-- What is left of the line, a tab that was begun as spaces. -/
def text (cursor : Cursor) : Text :=
  List.replicate cursor.pending ' ' ++ cursor.rest

/-- Whether nothing but white space is left. -/
def isBlank (cursor : Cursor) : Bool :=
  cursor.rest.all isSpace

end Cursor

end Scriptorium.Markdown
