import Scriptorium.Text.Blank
import Scriptorium.Text.Letter
import Scriptorium.Text.Lowercase
import Scriptorium.Text.Scan
/-! # BibTeX entries

A citation may be written as a BibTeX entry. Of its fields, those are kept that a
bibliography prints. A field that comes twice counts the last time.
-/

namespace Scriptorium

/-- A BibTeX entry. -/
structure BibEntry where
  key : Text
  entryType : Text
  title : Option Text
  authors : List Text
  year : Option Text
  journal : Option Text
  booktitle : Option Text
  publisher : Option Text
  volume : Option Text
  number : Option Text
  pages : Option Text
  doi : Option Text
  url : Option Text
  deriving DecidableEq, Repr

namespace Bibtex

/-- Whether a character may stand between the parts of an entry. -/
def isSpace (c : Char) : Bool :=
  c == ' ' || c == '\t' || c == '\r' || c == '\n'

/-- A text without the space at its start. -/
def skipSpace (s : Text) : Text :=
  s.dropWhile isSpace

/-- Whether a character may stand in the key of an entry. -/
def isKeyChar (c : Char) : Bool :=
  isAlphanumeric c || c == '_' || c == '-' || c == ':' || c == '.'

/-- Whether a character may stand in the name of a field. -/
def isNameChar (c : Char) : Bool :=
  isAlphanumeric c || c == '_' || c == '-'

/-- The start of an entry, up to the comma behind its key: its type and its key. -/
def header? : Scanner (Text × Text) := fun s => do
  let (_, rest) ← Scanner.literal ['@'] s
  let (entryType, rest) ← Scanner.run isAlphanumeric rest
  let (_, rest) ← Scanner.literal ['{'] (skipSpace rest)
  let (key, rest) ← Scanner.run isKeyChar (skipSpace rest)
  let (_, rest) ← Scanner.literal [','] (skipSpace rest)
  some ((entryType, key), rest)

/-- What stands before the brace that closes `depth` open ones, and what stands
behind it. -/
def closeBrace? (depth : Nat) : Scanner Text
  | [] => none
  | c :: cs =>
    if c = '\x7d' then
      match depth with
      | 0 | 1 => some ([], cs)
      | depth + 2 => (closeBrace? (depth + 1) cs).map fun (body, rest) => (c :: body, rest)
    else
      (closeBrace? (if c = '\x7b' then depth + 1 else depth) cs).map
        fun (body, rest) => (c :: body, rest)

/-- A value without braces, its words separated by single spaces. -/
def cleanValue (value : Text) : Text :=
  Text.join [' '] (Text.words (value.filter fun c => c != '\x7b' && c != '\x7d'))

/-- The value of a field: in braces, in quotes, or a number. -/
def value? : Scanner Text
  | '{' :: rest => (closeBrace? 1 rest).map fun (body, rest) => (cleanValue body, rest)
  | '"' :: rest => (Text.cut? ['"'] rest).map fun (body, rest) => (cleanValue body, rest)
  | s => (Scanner.run isAsciiDigit s).map fun (digits, rest) => (digits, skipSpace rest)

/-- A field: its name and its value. -/
def field? : Scanner (Text × Text) := fun s => do
  let (name, rest) ← Scanner.run isNameChar (skipSpace s)
  let (_, rest) ← Scanner.literal ['='] (skipSpace rest)
  let (value, rest) ← value? (skipSpace rest)
  some ((name, value), rest)

/-- The fields of an entry, with commas between them and perhaps behind the last,
and the rest behind them. -/
def fields (s : Text) : List (Text × Text) × Text :=
  match field? s with
  | none => ([], s)
  | some (field, rest) =>
    match skipSpace rest with
    | ',' :: more =>
      if more.length < s.length then
        let (others, rest) := fields more
        (field :: others, rest)
      else ([field], rest)
    | _ => ([field], rest)
termination_by s.length

/-- The value of the last field with the given name. -/
def lookup? (fields : List (Text × Text)) (name : String) : Option Text :=
  (fields.reverse.find? fun field => field.1.toLower == name.toList).map Prod.snd

/-- The authors of a list that has `and` between them. -/
def splitAuthors (authors : Text) : List Text :=
  ((Text.splitAround " and ".toList authors).map Text.trim).filter (!·.isEmpty)

/-- The entry with the given type, key and fields. -/
def ofFields (entryType key : Text) (fields : List (Text × Text)) : BibEntry where
  key := key
  entryType := entryType.toLower
  title := lookup? fields "title"
  authors := ((lookup? fields "author").map splitAuthors).getD []
  year := lookup? fields "year"
  journal := lookup? fields "journal"
  booktitle := lookup? fields "booktitle"
  publisher := lookup? fields "publisher"
  volume := lookup? fields "volume"
  number := lookup? fields "number"
  pages := lookup? fields "pages"
  doi := lookup? fields "doi"
  url := lookup? fields "url"

/-- Whether a text begins like an entry. -/
def isEntry (s : Text) : Bool :=
  (header? s.trimStart).isSome

/-- The entry that a text begins with. -/
def parse? (s : Text) : Option BibEntry := do
  let ((entryType, key), rest) ← header? s.trimStart
  let (fields, rest) := fields rest
  let (_, _) ← Scanner.literal ['\x7d'] (skipSpace rest)
  some (ofFields entryType key fields)

end Bibtex

end Scriptorium
