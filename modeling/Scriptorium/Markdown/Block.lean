import Scriptorium.Markdown.Reference
import Scriptorium.Markdown.Start
/-! # Blocks

The block structure of a Markdown document. Running text stands in blocks as its
source, since the definitions that its links refer to may come later.
-/

namespace Scriptorium.Markdown

/-- A block of a document. -/
inductive Block where
  | paragraph (source : Text)
  | heading (level : Nat) (source : Text)
  | rule
  /-- Fenced code with its info, or indented code. -/
  | code (info : Option Text) (content : Text)
  | html (content : Text)
  | table (alignments : List Alignment) (head : List Text) (rows : List (List Text))
  | quote (blocks : List Block)
  /-- A list item, which stands in lists only. -/
  | item (blocks : List Block)
  /-- A list: its first marker, whether its items are set close together, and its
  items. -/
  | list (marker : ListMarker) (tight : Bool) (items : List Block)

/-- A block that other blocks can stand in. -/
inductive Container where
  | quote
  | list (marker : ListMarker) (tight : Bool)
  /-- A list item whose content is indented by the given number of columns. -/
  | item (indent : Nat)
  deriving DecidableEq, Repr

/-- A container that is still open, and the blocks in it so far, last first. -/
structure Frame where
  container : Container
  blocks : List Block

/-- The block that an open container has become. -/
def Frame.close (frame : Frame) : Block :=
  match frame.container with
  | .quote => .quote frame.blocks.reverse
  | .list marker tight => .list marker tight frame.blocks.reverse
  | .item _ => .item frame.blocks.reverse

/-- A block without blocks in it that is still open. Lines stand in reverse. -/
inductive Leaf where
  | closed
  | paragraph (lines : List Text)
  /-- Fenced code: the columns before its fence, the fence, and the code in reverse. -/
  | fenced (indent : Nat) (fence : Fence) (code : Text)
  /-- Indented code, and the blank lines behind it that belong to it only if more code
  follows; both in reverse. -/
  | indented (code blanks : Text)
  | html (stop : HtmlEnd) (content : Text)
  | table (alignments : List Alignment) (head : List Text) (rows : List (List Text))

/-- How far a document has been read: the open containers, innermost first; the blocks
outside of them, last first; the open leaf; and the definitions so far. -/
structure BlockReader where
  frames : List Frame
  blocks : List Block
  leaf : Leaf
  definitions : List (Text × Destination)
  /-- Whether the last line was blank and the innermost container no quotation. -/
  afterBlank : Bool
  /-- Whether the innermost list item began with a blank line and has no content. -/
  atBareItem : Bool

namespace BlockReader

/-- Before the first line. -/
def start : BlockReader := ⟨[], [], .closed, [], false, false⟩

/-- A block at the end of the innermost container. -/
def addBlock (reader : BlockReader) (block : Block) : BlockReader :=
  match reader.frames with
  | [] => { reader with blocks := block :: reader.blocks }
  | frame :: frames =>
    { reader with frames := { frame with blocks := block :: frame.blocks } :: frames }

/-- The innermost container closed. -/
def closeFrame (reader : BlockReader) : BlockReader :=
  match reader.frames with
  | [] => reader
  | frame :: frames => { reader with frames := frames }.addBlock frame.close

/-- The given number of innermost containers closed. -/
def closeFrames (reader : BlockReader) : Nat → BlockReader
  | 0 => reader
  | count + 1 => reader.closeFrame.closeFrames count

/-- A container opened within the innermost one. -/
def openFrame (reader : BlockReader) (container : Container) : BlockReader :=
  { reader with frames := ⟨container, []⟩ :: reader.frames }

/-- The source of a paragraph whose lines are given in reverse. -/
def sourceOf (lines : List Text) : Text :=
  Text.dropEndWhile isSpace (Text.join ['\n'] lines.reverse)

/-- A paragraph at its end: the definitions at its start are set apart. -/
def closeParagraph (reader : BlockReader) (lines : List Text) : BlockReader :=
  let (found, rest) := Markdown.definitions (sourceOf lines)
  let reader := { reader with leaf := .closed, definitions := reader.definitions ++ found }
  if rest.isEmpty then reader else reader.addBlock (.paragraph (skipSpace rest))

/-- The open leaf closed. -/
def closeLeaf (reader : BlockReader) : BlockReader :=
  let closed := { reader with leaf := .closed }
  match reader.leaf with
  | .closed => reader
  | .paragraph lines => reader.closeParagraph lines
  | .fenced _ fence code => closed.addBlock (.code (some (unescape fence.info)) code.reverse)
  | .indented code _ => closed.addBlock (.code none code.reverse)
  | .html _ content => closed.addBlock (.html content.reverse)
  | .table alignments head rows => closed.addBlock (.table alignments head rows.reverse)

/-- The innermost list marked as one whose items stand apart. -/
def loosen : List Frame → List Frame
  | ⟨.list marker _, blocks⟩ :: frames => ⟨.list marker false, blocks⟩ :: frames
  | frames => frames

/-- Before a block that is no list item of an open list: a list item that began with a
blank line has none behind that; an open list whose last item is complete ends; and
when a blank line came before the block within an item, the items of its list stand
apart. -/
def beginBlock (reader : BlockReader) : BlockReader :=
  let reader :=
    match reader.atBareItem && reader.afterBlank, reader.frames with
    | true, ⟨.item _, _⟩ :: _ => reader.closeFrame
    | _, _ => reader
  let reader :=
    match reader.frames with
    | ⟨.list _ _, _⟩ :: _ => reader.closeFrame
    | _ => reader
  let frames :=
    match reader.afterBlank, reader.frames with
    | true, frame :: frames => frame :: loosen frames
    | _, frames => frames
  { reader with frames := frames, afterBlank := false, atBareItem := false }

/-- Before a list item with the given marker: an open list of that mark goes on, and its
items stand apart when a blank line came before; otherwise a list begins. -/
def beginItem (reader : BlockReader) (marker : ListMarker) : BlockReader :=
  let reader :=
    match reader.atBareItem && reader.afterBlank, reader.frames with
    | true, ⟨.item _, _⟩ :: _ => reader.closeFrame
    | _, _ => reader
  let fresh := { (reader.beginBlock.openFrame (.list marker true)) with afterBlank := false }
  match reader.frames with
  | ⟨.list first _, _⟩ :: _ =>
    if first.mark = marker.mark then
      { reader with
        frames := if reader.afterBlank then loosen reader.frames else reader.frames
        afterBlank := false
        atBareItem := false }
    else fresh
  | _ => fresh

/-- How many of the given containers, outermost first, a line continues, and the place
behind their marks. -/
def matchContainers (cursor : Cursor) : List Container → Nat × Cursor
  | [] => (0, cursor)
  | .quote :: rest =>
    let (_, behind) := cursor.spaces 3
    match behind.rest with
    | '>' :: _ =>
      let behind := behind.advance
      let (count, cursor) := matchContainers ((behind.space?).getD behind) rest
      (count + 1, cursor)
    | _ => (0, cursor)
  | .list _ _ :: rest =>
    let (count, cursor) := matchContainers cursor rest
    (count + 1, cursor)
  | .item indent :: rest =>
    let (columns, behind) := cursor.spaces indent
    if columns = indent || cursor.isBlank then
      let (count, cursor) := matchContainers behind rest
      (count + 1, cursor)
    else (0, cursor)

/-- The open containers, outermost first. -/
def containers (reader : BlockReader) : List Container :=
  (reader.frames.map Frame.container).reverse

/-- A line of code or HTML, in reverse and with its end. -/
def reverseLine (text : Text) (line : Line) : Text :=
  if line.isEnded then '\n' :: text.reverse else text.reverse

/-- The containers that a line begins at the given place, and the place behind their
marks; no place when the line ends with the marker of a list item. The fuel bounds
their number by the length of the line. -/
def openContainers (reader : BlockReader) (cursor : Cursor) :
    (fuel : Nat) → BlockReader × Option Cursor
  | 0 => (reader, some cursor)
  | fuel + 1 =>
    let (indent, inner) := cursor.spaces 4
    if 4 ≤ indent then (reader, some cursor)
    else
      match listMarker? inner.rest with
      | some (marker, width) =>
        let (columns, behind) := afterMarker inner width
        let reader := (reader.beginItem marker).openFrame (.item (indent + columns))
        if behind.isBlank then ({ reader with atBareItem := true }, none)
        else openContainers reader behind fuel
      | none =>
        match inner.rest with
        | '>' :: _ =>
          let behind := inner.advance
          openContainers (reader.beginBlock.openFrame .quote) ((behind.space?).getD behind) fuel
        | _ => (reader, some cursor)

/-- Whether the innermost container is a quotation. -/
def inQuote (reader : BlockReader) : Bool :=
  match reader.frames with
  | ⟨.quote, _⟩ :: _ => true
  | _ => false

/-- Whether a text has the end of a block of HTML in it. -/
def endsHtml (stop : HtmlEnd) (text : Text) : Bool :=
  match stop with
  | .within closing => Text.occursIn closing text
  | .blankLine => false

/-- The first line of a block of HTML. -/
def openHtml (reader : BlockReader) (stop : HtmlEnd) (text : Text) (line : Line) : BlockReader :=
  let opened := { reader with leaf := .html stop (reverseLine text line) }
  if endsHtml stop text then opened.closeLeaf else opened

/-- A line that begins a block of no container at the given place. -/
def openLeaf (reader : BlockReader) (cursor : Cursor) (line : Line) : BlockReader :=
  let (indent, inner) := cursor.spaces 4
  let reader := reader.beginBlock
  if 4 ≤ indent then { reader with leaf := .indented (reverseLine inner.text line) [] }
  else
    match htmlStart? false inner.rest with
    | some stop => reader.openHtml stop (List.replicate indent ' ' ++ inner.rest) line
    | none =>
      if isRule inner.rest then reader.addBlock .rule
      else
        match atxHeading? inner.rest with
        | some (level, source) => reader.addBlock (.heading level source)
        | none =>
          match fence? inner.rest with
          | some fence => { reader with leaf := .fenced indent fence [] }
          | none => { reader with leaf := .paragraph [inner.rest] }

/-- A line while no leaf is open. -/
def readFresh (reader : BlockReader) (line : Line) : BlockReader :=
  let (count, cursor) := matchContainers (.start line.text) reader.containers
  let reader := reader.closeFrames (reader.frames.length - count)
  match reader.openContainers cursor line.text.length with
  | (reader, none) => reader
  | (reader, some cursor) =>
    if cursor.isBlank then { reader with afterBlank := reader.afterBlank || !reader.inQuote }
    else reader.openLeaf cursor line

/-- A paragraph with a line below it that makes it a heading of the given level. There
is no heading when the paragraph is nothing but definitions. -/
def closeHeading? (reader : BlockReader) (lines : List Text) (level : Nat) : Option BlockReader :=
  let (found, rest) := Markdown.definitions (sourceOf lines)
  if rest.isEmpty then none
  else
    let reader := { reader with leaf := .closed, definitions := reader.definitions ++ found }
    some (reader.addBlock (.heading level (skipSpace rest)))

/-- A paragraph whose last line is the head of a table, for which the line below it is
the delimiter row. Other lines before the head stay a paragraph, and then the head must
begin with a bar. -/
def openTable? (reader : BlockReader) (lines : List Text) (delimiter : Text) :
    Option BlockReader :=
  match lines with
  | [] => none
  | head :: before =>
    let (indent, inner) := (Cursor.start head).spaces 4
    if !before.isEmpty && (4 ≤ indent || !inner.rest.startsWith ['|']) then none
    else
      (tableStart? inner.rest delimiter).map fun (alignments, head) =>
        let reader := if before.isEmpty then reader else (reader.closeParagraph before).beginBlock
        { reader with leaf := .table alignments head [] }

/-- A line behind the lines of a paragraph, at the given place; `continued` says whether
the line continues all open containers. -/
def readParagraph (reader : BlockReader) (lines : List Text) (continued : Bool) (cursor : Cursor)
    (line : Line) : BlockReader :=
  let (indent, inner) := cursor.spaces 4
  let further := { reader with leaf := .paragraph (cursor.text :: lines) }
  if cursor.isBlank then reader.closeLeaf.readFresh line
  else if 4 ≤ indent then further
  else
    let heading :=
      if continued then (underline? inner.rest).bind (reader.closeHeading? lines) else none
    let table := if continued then reader.openTable? lines inner.rest else none
    match heading <|> table with
    | some reader => reader
    | none =>
      if interrupts continued inner.rest then reader.closeLeaf.readFresh line else further

/-- Reads one line. -/
def readLine (reader : BlockReader) (line : Line) : BlockReader :=
  let (count, cursor) := matchContainers (.start line.text) reader.containers
  let continued := count = reader.frames.length
  match reader.leaf with
  | .closed => reader.readFresh line
  | .paragraph lines => reader.readParagraph lines continued cursor line
  | .fenced indent fence code =>
    if !continued then reader.closeLeaf.readFresh line
    else
      let (columns, inner) := cursor.spaces indent
      let (more, closing) := inner.spaces (4 - columns)
      if columns + more < 4 && fence.isClosedBy closing.rest then reader.closeLeaf
      else { reader with leaf := .fenced indent fence (reverseLine inner.text line ++ code) }
  | .indented code blanks =>
    let (columns, inner) := cursor.spaces 4
    if continued && cursor.isBlank then
      { reader with
        leaf := .indented code (reverseLine inner.text line ++ blanks), afterBlank := true }
    else if continued && columns = 4 then
      { reader with
        leaf := .indented (reverseLine inner.text line ++ blanks ++ code) [], afterBlank := false }
    else reader.closeLeaf.readFresh line
  | .html stop content =>
    if !continued || (stop = .blankLine && cursor.isBlank) then reader.closeLeaf.readFresh line
    else
      let further :=
        { reader with leaf := .html stop (reverseLine cursor.text line ++ content) }
      if endsHtml stop cursor.rest then further.closeLeaf else further
  | .table alignments head rows =>
    let inner := cursor.rest.dropWhile isSpace
    if !continued || inner.isEmpty || interrupts true inner || (cells inner).isEmpty then
      reader.closeLeaf.readFresh line
    else
      { reader with leaf := .table alignments head (rowCells alignments.length inner :: rows) }

/-- The end of a document: all that is open is closed. -/
def finish (reader : BlockReader) : BlockReader :=
  let reader := reader.closeLeaf
  reader.closeFrames reader.frames.length

end BlockReader

/-- The blocks of a document, and the definitions in it. -/
def parseBlocks (s : Text) : List Block × List (Text × Destination) :=
  let reader := ((lines s).foldl BlockReader.readLine .start).finish
  (reader.blocks.reverse, reader.definitions)

end Scriptorium.Markdown
