import Scriptorium.Bibtex
import Scriptorium.Citation.Table
import Scriptorium.Error
import Scriptorium.Html.Escape
/-! # Formatting citations

The content of a citation becomes HTML: a BibTeX entry in the manner of author and
year, any other text with its links and emphasis. Whoever formats may fail; then
the content stands as it was written.
-/

namespace Scriptorium.Citation

/-- Makes HTML of the content of a citation, or says why it cannot. -/
abbrev Formatter := Text → Except FormatError Text

/-- A link in text that is already escaped: its text without closing brackets, and
its destination without closing parentheses and blank characters. -/
def plainLink? : Scanner (Text × Text) := fun s => do
  let (_, rest) ← Scanner.literal ['['] s
  let (text, rest) ← Scanner.run (· != ']') rest
  let (_, rest) ← Scanner.literal [']', '('] rest
  let (destination, rest) ← Scanner.run (fun c => c != ')' && !isBlank c) rest
  let (_, rest) ← Scanner.literal [')'] rest
  some ((text, destination), rest)

/-- Emphasised text between asterisks. -/
def plainEmphasis? : Scanner Text := fun s => do
  let (_, rest) ← Scanner.literal ['*'] s
  let (text, rest) ← Scanner.run (· != '*') rest
  let (_, rest) ← Scanner.literal ['*'] rest
  some (text, rest)

/-- A link element, of which the destination and the content are escaped. -/
def anchorElement (destination content : Text) : Text :=
  "<a href=\"".toList ++ destination ++ "\">".toList ++ content ++ "</a>".toList

/-- Content in emphasis. -/
def emElement (content : Text) : Text :=
  "<em>".toList ++ content ++ "</em>".toList

/-- Text that is no entry: escaped, with its links and emphasis. -/
def formatPlain (raw : Text) : Text :=
  let linked :=
    Scanner.replaceAll plainLink? (fun (text, destination) => anchorElement destination text)
      (Html.escape raw.trim)
  Scanner.replaceAll plainEmphasis? emElement linked

/-- Where an entry of a journal stands: the journal, the volume with its number, and
the pages. -/
def journalPart (entry : BibEntry) (journal : Text) : Text :=
  let number := (entry.number.map fun number => '(' :: Html.escape number ++ [')']).getD []
  let volume := (entry.volume.map fun volume => ", ".toList ++ Html.escape volume ++ number).getD []
  let pages := (entry.pages.map fun pages => ", ".toList ++ Html.escape pages).getD []
  Html.escape journal ++ volume ++ pages

/-- Where an entry was published, in a journal or a book. -/
def venuePart (entry : BibEntry) : Option Text :=
  match entry.journal with
  | some journal => some (journalPart entry journal)
  | none => entry.booktitle.map fun book => "In ".toList ++ emElement (Html.escape book)

/-- Where an entry is found on the web. -/
def linkPart (entry : BibEntry) : Option Text :=
  match entry.doi with
  | some doi =>
    some (anchorElement ("https://doi.org/".toList ++ Html.escape doi) (Html.escape doi))
  | none => entry.url.map fun url => anchorElement (Html.escape url) (Html.escape url)

/-- The parts of a formatted entry, in order. -/
def entryParts (entry : BibEntry) : List Text :=
  let authors :=
    if entry.authors.isEmpty then none
    else some (Html.escape (Text.join ", ".toList entry.authors))
  [authors,
    entry.year.map fun year => '(' :: Html.escape year ++ [')'],
    entry.title.map fun title => emElement (Html.escape title),
    venuePart entry,
    entry.publisher.map Html.escape,
    linkPart entry].filterMap fun part => part

/-- An entry in the manner of author and year. -/
def formatEntry (entry : BibEntry) : Text :=
  Text.join ". ".toList (entryParts entry) ++ ['.']

/-- Formats BibTeX entries and plain text. A text that begins like an entry must be
a complete one. -/
def format : Formatter := fun raw =>
  if Bibtex.isEntry raw then
    match Bibtex.parse? raw with
    | some entry => .ok (formatEntry entry)
    | none => .error (.unterminatedEntry raw)
  else .ok (formatPlain raw)

/-- A citation with its content formatted, or as it was written where that fails. -/
def withHtml (formatter : Formatter) (citation : Citation) : Citation :=
  let html :=
    match formatter citation.rawContent with
    | .ok html => html
    | .error _ => citation.rawContent
  { citation with formattedHtml := some html }

end Scriptorium.Citation

namespace Scriptorium.CitationTable

/-- The table with every citation formatted. -/
def format (table : CitationTable) (formatter : Citation.Formatter) : CitationTable :=
  ⟨table.entries.map (Citation.withHtml formatter), table.places⟩

end Scriptorium.CitationTable
