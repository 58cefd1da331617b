import Scriptorium.Line
import Scriptorium.Text.Lines
/-! # Front and back matter

A document may open with a header block and close with a footer block, each under
a marker line of its own. The header names the document, its collection and its
neighbours; the footer lists related documents and thoughts. Reading them never
fails: an entry that is not understood is passed over. The body is what lies
between the two blocks.
-/

namespace Scriptorium

/-- A text that is linked to a destination. -/
structure MetaLink where
  text : Text
  link : Text
  deriving DecidableEq, Repr

/-- What the front and back matter say about a document. -/
structure Metadata where
  title : Option MetaLink
  /-- The collection or book that holds the document. -/
  collection : Option MetaLink
  subject : Option MetaLink
  previous : Option MetaLink
  next : Option MetaLink
  related : List MetaLink
  notes : List Text
  deriving DecidableEq, Repr

namespace Metadata

/-- No metadata. -/
def empty : Metadata := ⟨none, none, none, none, none, [], []⟩

/-- Whether a destination is that of the dictionary. -/
def leadsToDictionary (link : Text) : Bool :=
  Text.occursIn ".dictionary".toList link || Text.occursIn "dictionary.md".toList link

/-- The metadata after a header entry with the given key and link. A book that is
the dictionary is the subject too. Unknown keys change nothing. -/
def setEntry (metadata : Metadata) (key : Text) (link : MetaLink) : Metadata :=
  if key = "title".toList then { metadata with title := some link }
  else if key = "collection".toList then { metadata with collection := some link }
  else if key = "book".toList then
    if leadsToDictionary link.link then
      { metadata with collection := some link, subject := some link }
    else { metadata with collection := some link }
  else if key = "subject".toList then { metadata with subject := some link }
  else if key = "previous".toList then { metadata with previous := some link }
  else if key = "next".toList then { metadata with next := some link }
  else metadata

/-- The metadata after a header entry, given without its list marker. -/
def readEntry (metadata : Metadata) (entry : Text) : Metadata :=
  match Line.entry? entry.trim with
  | some ((key, some (text, link)), _) => metadata.setEntry key ⟨text, link⟩
  | _ => metadata

/-- The metadata after a line of the list of related documents. An item is indented
by two spaces at most and holds a link. -/
def readRelated (metadata : Metadata) (line : Text) : Metadata :=
  let item : Text := line.dropWhile (· == ' ')
  if 2 < line.length - item.length || !item.startsWith "- ".toList then metadata
  else
    match Line.findLink? item with
    | some (text, link) => { metadata with related := metadata.related ++ [⟨text, link⟩] }
    | none => metadata

/-- The metadata after a line of the list of thoughts. An item is indented by one or
two spaces. -/
def readThought (metadata : Metadata) (line : Text) : Metadata :=
  match Text.dropStart? "  - ".toList line <|> Text.dropStart? " - ".toList line with
  | some thought => { metadata with notes := metadata.notes ++ [thought.trim] }
  | none => metadata

end Metadata

/-- The parts of a document that its lines can belong to. -/
inductive Region where
  | body
  | header
  | footer
  | related
  | thoughts
  deriving DecidableEq, Repr

/-- How far a document has been read: the region of the next line, the metadata so
far, and the numbers of the lines that bound the body. -/
structure MatterReader where
  region : Region
  metadata : Metadata
  /-- The last header marker. -/
  headerAt : Option Nat
  /-- The heading that ended the last header block. -/
  headerEnd : Option Nat
  /-- The first footer marker. -/
  footerAt : Option Nat
  deriving DecidableEq, Repr

namespace MatterReader

/-- Before the first line. -/
def start : MatterReader := ⟨.body, .empty, none, none, none⟩

/-- Reads a line of the header that is no marker. A heading ends the header. -/
def readHeaderLine (reader : MatterReader) (index : Nat) (line : Text) : MatterReader :=
  if line.startsWith ['#'] then { reader with headerEnd := some index, region := .body }
  else
    match Text.dropStart? "- ".toList line with
    | some entry => { reader with metadata := reader.metadata.readEntry entry }
    | none => reader

/-- Reads a line of the footer that is no marker; `raw` is the line as it stands and
`line` the trimmed one. -/
def readFooterLine (reader : MatterReader) (raw line : Text) : MatterReader :=
  if line = "- related:".toList then { reader with region := .related }
  else if line = "### Thoughts".toList then { reader with region := .thoughts }
  else if reader.region = .related then
    { reader with metadata := reader.metadata.readRelated raw }
  else if reader.region = .thoughts then
    { reader with metadata := reader.metadata.readThought raw }
  else reader

/-- Reads one line. A footer marker counts wherever it stands; a header marker
counts until the first footer marker, and starts the header anew. -/
def readLine (reader : MatterReader) (index : Nat) (raw : Text) : MatterReader :=
  let line := raw.trim
  if Line.isFooterMarker line then
    { reader with footerAt := reader.footerAt <|> some index, region := .footer }
  else if Line.isHeaderMarker line && (reader.region = .body || reader.region = .header) then
    { reader with headerAt := some index, headerEnd := none, region := .header }
  else
    match reader.region with
    | .body => reader
    | .header => reader.readHeaderLine index line
    | .footer | .related | .thoughts => reader.readFooterLine raw line

/-- Reads lines, the first of which has the given number. -/
def readLines (reader : MatterReader) (index : Nat) : List Text → MatterReader
  | [] => reader
  | line :: lines => readLines (reader.readLine index line) (index + 1) lines

end MatterReader

/-- Whether a line directly behind a header marker belongs to the header even though
no heading follows: it is blank or an entry. -/
def isHeaderFiller (raw : Text) : Bool :=
  let line := raw.trim
  line.isEmpty || line.startsWith "- ".toList

/-- The number of the first line of the body. -/
def bodyStart (lines : List Text) (reader : MatterReader) : Nat :=
  match reader.headerEnd, reader.headerAt with
  | some heading, _ => heading
  | none, some marker =>
    marker + 1 + ((lines.drop (marker + 1)).takeWhile isHeaderFiller).length
  | none, none => 0

/-- The lines of the body. -/
def bodyLines (lines : List Text) (reader : MatterReader) : List Text :=
  let start := bodyStart lines reader
  let stop := reader.footerAt.getD lines.length
  (lines.drop start).take (stop - start)

/-- A heading text as a title: a link if it is one, else a text without one. -/
def titleOfHeading (text : Text) : MetaLink :=
  match Line.link? text with
  | some ((text, link), []) => ⟨text, link⟩
  | _ => ⟨text, []⟩

/-- The first heading of the highest level, as a title. -/
def titleFromBody? (body : Text) : Option MetaLink :=
  body.lines.findSome? fun line =>
    match Line.heading? line.trim with
    | some ((1, text), _) => some (titleOfHeading text)
    | _ => none

/-- A document cut into its metadata and its body. -/
structure ParsedDocument where
  metadata : Metadata
  body : Text
  deriving DecidableEq, Repr

/-- A document cut into its metadata and its body. The title is the one of the
header or, failing that, of the body. -/
def ParsedDocument.parse (markdown : Text) : ParsedDocument :=
  let lines := markdown.lines
  let reader := MatterReader.start.readLines 0 lines
  let body := Text.joinLines (bodyLines lines reader)
  let title := reader.metadata.title <|> titleFromBody? body
  { metadata := { reader.metadata with title := title }, body := body }

end Scriptorium
