import Scriptorium.Text.Blank
import Scriptorium.Text.Letter
import Scriptorium.Text.Scan
/-! # What a line can be

The recognisers of single lines that the parts of the library share: headings, the
markers of front and back matter, links, citation definitions, list items, code
fences, dividers and comments. Whether a line is trimmed first is up to the caller.
-/

namespace Scriptorium.Line

/-- Whether a character is a space or a tab. -/
def isSpace (c : Char) : Bool :=
  c == ' ' || c == '\t'

/-- A text without the spaces and tabs at its start. -/
def skipSpaces (s : Text) : Text :=
  s.dropWhile isSpace

/-- One or more spaces and tabs. -/
def spaces? : Scanner Text :=
  Scanner.run isSpace

/-- A heading: number signs, at least one space, and the text. Gives the number of
signs and the trimmed text, and reads to the end. -/
def heading? : Scanner (Nat × Text) := fun s => do
  let (signs, rest) ← Scanner.run (· == '#') s
  let (_, rest) ← spaces? rest
  some ((signs.length, rest.trim), [])

/-- `s` without `word` in front, whatever the case of its letters. -/
def dropWord? : Text → Text → Option Text
  | [], s => some s
  | _, [] => none
  | w :: word, c :: s => if c.toLower = w then dropWord? word s else none

/-- Whether a text is the given word with spaces around it. -/
def isWord (word s : Text) : Bool :=
  match dropWord? word (skipSpaces s) with
  | some rest => (skipSpaces rest).isEmpty
  | none => false

/-- Whether a line opens the front matter. -/
def isHeaderMarker : Text → Bool
  | '#' :: rest => isWord "header".toList rest
  | _ => false

/-- Whether a line opens the back matter. -/
def isFooterMarker : Text → Bool
  | '#' :: '#' :: rest => isWord "footer".toList rest
  | '#' :: rest => isWord "footer".toList rest
  | _ => false

/-- A link in brackets and parentheses: its text up to the first `](`, and its
destination up to the next closing parenthesis. -/
def link? : Scanner (Text × Text)
  | '[' :: rest => do
    let (text, rest) ← Text.cut? "](".toList rest
    let (destination, rest) ← Text.cut? [')'] rest
    some ((text, destination), rest)
  | _ => none

/-- The first link in a text. -/
def findLink? (s : Text) : Option (Text × Text) :=
  (Scanner.find? link? s).map fun (_, link, _) => link

/-- Whether a character may stand in the key of a front matter entry. -/
def isKeyChar (c : Char) : Bool :=
  isAlphanumeric c || c == '_' || c == '-'

/-- An entry of the front matter: a key, a colon, and a link if one follows. -/
def entry? : Scanner (Text × Option (Text × Text)) := fun s => do
  let (key, rest) ← Scanner.run isKeyChar s
  let (_, rest) ← Scanner.literal [':'] rest
  let rest := skipSpaces rest
  match link? rest with
  | some (link, rest) => some ((key, some link), rest)
  | none => some ((key, none), rest)

/-- Whether a character may stand in the name of a citation. -/
def isCitationChar (c : Char) : Bool :=
  isAsciiAlphanumeric c || c == '_' || c == '-'

/-- The name of a citation. -/
def citationId? : Scanner Text :=
  Scanner.run isCitationChar

/-- A citation definition: a marker, a colon, and the content to the end. -/
def definition? : Scanner (Text × Text) := fun s => do
  let (_, rest) ← Scanner.literal ['[', '^'] s
  let (id, rest) ← citationId? rest
  let (_, rest) ← Scanner.literal [']', ':'] rest
  some ((id, skipSpaces rest), [])

/-- The marker of a list item, with the space behind it. Gives whether the list is
ordered. -/
def listMarker? : Scanner Bool
  | '-' :: rest => (spaces? rest).map fun (_, rest) => (false, rest)
  | s => do
    let (_, rest) ← Scanner.run isAsciiDigit s
    let (_, rest) ← Scanner.literal ['.'] rest
    let (_, rest) ← spaces? rest
    some (true, rest)

/-- A code fence: three backquotes or tildes. Gives the trimmed text behind them and
reads to the end. -/
def fence? : Scanner Text
  | '\x60' :: '\x60' :: '\x60' :: rest => some (Text.trim rest, [])
  | '~' :: '~' :: '~' :: rest => some (Text.trim rest, [])
  | _ => none

/-- Whether a text starts with a code fence. -/
def isFence (s : Text) : Bool :=
  (fence? s).isSome

/-- Whether a line divides sections. -/
def isDivider (line : Text) : Bool :=
  line.trimEnd == ['-', '-', '-']

/-- Whether a line is a LaTeX comment. -/
def isComment (line : Text) : Bool :=
  line.trimStart.head? == some '%'

end Scriptorium.Line
