import Scriptorium.Toml.Scalar
import Scriptorium.Toml.Value
/-! # TOML documents

A document is a list of entries, each on lines of its own, under headers that say which
table they belong to. `Toml.parse?` gives the table of the whole document.
-/

namespace Scriptorium.Toml

/-- A comment, up to the end of its line. -/
def skipComment : Text → Text
  | '#' :: rest => rest.dropWhile isPlain
  | s => s

/-- The end of a line, with white space and a comment before it. Gives what follows; the
end of the document ends a line too. -/
def lineEnd? (s : Text) : Option Text :=
  match skipComment (s.dropWhile isSpace) with
  | [] => some []
  | rest => (lineBreak? rest).map Prod.snd

/-- A text without white space, line ends and comments at its start. -/
def skipLines (s : Text) : Text :=
  let rest := s.dropWhile isSpace
  match lineBreak? (skipComment rest) with
  | some (_, after) => if after.length < s.length then skipLines after else rest
  | none => rest
termination_by s.length

/-! ## Keys -/

/-- Whether a character may stand in a key without quotes. -/
def isKeyChar (c : Char) : Bool :=
  isAsciiDigit c || ('a' ≤ c && c ≤ 'z') || ('A' ≤ c && c ≤ 'Z') || c == '_' || c == '-'

/-- One part of a key. In quotes it stands on one line. -/
def keyPart? : Scanner Text
  | '"' :: rest => lineString? '"' rest
  | '\'' :: rest => lineString? '\'' rest
  | s => Scanner.run isKeyChar s

/-- A key with dots between its parts, and white space around it and around the dots:
the parts before the last one, and the last one. -/
def key? (s : Text) : Option ((List Text × Text) × Text) := do
  let (part, rest) ← keyPart? (s.dropWhile isSpace)
  match rest.dropWhile isSpace with
  | '.' :: after =>
    if after.length < s.length then
      (key? after).map fun ((path, last), rest) => ((part :: path, last), rest)
    else none
  | rest => some (([], part), rest)
termination_by s.length

/-- How many parts a key may have before its last one. -/
def maxKeyPath : Nat := 79

/-! ## Values -/

/-- An entry of a table. -/
structure Entry where
  path : List Text
  key : Text
  value : Value

/-- An entry, with its value read by `value`. White space may follow. -/
def entry? (value : Scanner Value) : Scanner Entry := fun s => do
  let ((path, key), rest) ← key? s
  let (_, rest) ← Scanner.literal ['='] rest
  let (value, rest) ← value (rest.dropWhile isSpace)
  if path.length < maxKeyPath then some (⟨path, key, value⟩, rest.dropWhile isSpace) else none

/-- The items of an array, behind its opening bracket. The last one may have a comma
behind it. -/
def items? (item : Scanner Value) (s : Text) : Option (List Value × Text) :=
  match skipLines s with
  | ']' :: rest => some ([], rest)
  | start => do
    let (value, rest) ← item start
    match skipLines rest with
    | ',' :: rest =>
      if rest.length < s.length then
        (items? item rest).map fun (values, rest) => (value :: values, rest)
      else none
    | ']' :: rest => some ([value], rest)
    | _ => none
termination_by s.length

/-- The entries of a table in braces up to the closing one: at least one, with commas
between them. -/
def entries? (value : Scanner Value) (s : Text) : Option (List Entry × Text) := do
  let (entry, rest) ← entry? value s
  match rest with
  | ',' :: rest =>
    if rest.length < s.length then
      (entries? value rest).map fun (entries, rest) => (entry :: entries, rest)
    else none
  | '\x7d' :: rest => some ([entry], rest)
  | _ => none
termination_by s.length

/-- The table of entries. -/
def tableOf? (entries : List Entry) : Option Table :=
  entries.foldlM (fun table entry => table.add entry.path entry.key entry.value) .empty

/-- A table in braces, behind the opening one. -/
def braced? (value : Scanner Value) : Scanner Value := fun s =>
  match s.dropWhile isSpace with
  | '\x7d' :: rest => some (.braced [], rest)
  | start => do
    let (entries, rest) ← entries? value start
    let table ← tableOf? entries
    some (.braced table.entries, rest)

/-- A value that holds no others. -/
def scalar? : Scanner Value := fun s =>
  match s with
  | '"' :: _ => (string? '"' s).map fun (value, rest) => (.string value, rest)
  | '\'' :: _ => (string? '\'' s).map fun (value, rest) => (.string value, rest)
  | 't' :: 'r' :: 'u' :: 'e' :: rest => some (.boolean true, rest)
  | 'f' :: 'a' :: 'l' :: 's' :: 'e' :: rest => some (.boolean false, rest)
  | _ =>
    match moment? s with
    | some (literal, rest) => some (.moment literal, rest)
    | none => (number? s).map fun (literal, rest) => (.number literal, rest)

/-- A value that has at most `depth` values around each in it. -/
def value? : (depth : Nat) → Scanner Value
  | 0 => scalar?
  | depth + 1 => fun s =>
    match s with
    | '[' :: rest => (items? (value? depth) rest).map fun (items, rest) => (.array items, rest)
    | '\x7b' :: rest => braced? (value? depth) rest
    | _ => scalar? s

/-- How many values may stand around a value. -/
def maxDepth : Nat := 79

/-! ## The document -/

/-- How far a document has been read: its table, and the keys that lead to the table to
which entries belong. -/
structure DocumentReader where
  document : Table
  current : List Text

namespace DocumentReader

/-- Before the first line. -/
def start : DocumentReader := ⟨.empty, []⟩

/-- Adds an entry to the current table. -/
def add? (reader : DocumentReader) (entry : Entry) : Option DocumentReader :=
  (reader.document.modify .implied (Table.add entry.path entry.key entry.value)
    reader.current).map fun document => { reader with document := document }

/-- Makes the table of a header the current one; `next` says whether it is one more of
an array of tables. -/
def open? (reader : DocumentReader) (next : Bool) (path : List Text) (key : Text) :
    Option DocumentReader :=
  if path.length < maxKeyPath then
    (if next then reader.document.openNext path key else reader.document.openTable path key).map
      fun document => ⟨document, path ++ [key]⟩
  else none

/-- A header or an entry at the start of a text, and what follows behind its line. -/
def readExpression? (reader : DocumentReader) : Text → Option (DocumentReader × Text)
  | '[' :: '[' :: rest => do
    let ((path, key), rest) ← key? rest
    let (_, rest) ← Scanner.literal [']', ']'] rest
    let reader ← reader.open? true path key
    let rest ← lineEnd? rest
    some (reader, rest)
  | '[' :: rest => do
    let ((path, key), rest) ← key? rest
    let (_, rest) ← Scanner.literal [']'] rest
    let reader ← reader.open? false path key
    let rest ← lineEnd? rest
    some (reader, rest)
  | s => do
    let (entry, rest) ← entry? (value? maxDepth) s
    let reader ← reader.add? entry
    let rest ← lineEnd? rest
    some (reader, rest)

/-- Reads all lines of a text. -/
def read? (reader : DocumentReader) (s : Text) : Option DocumentReader :=
  if s.isEmpty then some reader
  else
    match lineEnd? s with
    | some rest => if rest.length < s.length then reader.read? rest else none
    | none => do
      let (reader, rest) ← reader.readExpression? (s.dropWhile isSpace)
      if rest.length < s.length then reader.read? rest else none
termination_by s.length

end DocumentReader

/-- A text without the mark of its byte order. -/
def dropMark : Text → Text
  | '\uFEFF' :: rest => rest
  | s => s

/-- The table of a document. -/
def parse? (s : Text) : Option Table :=
  (DocumentReader.start.read? (dropMark s)).map DocumentReader.document

end Scriptorium.Toml
