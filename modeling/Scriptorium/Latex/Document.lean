import Scriptorium.Latex.Repair
import Scriptorium.Latex.Span
import Scriptorium.Section
/-! # Documents in LaTeX

The sections of a document one behind the other as the body of a paper.
-/

namespace Scriptorium.Latex

/-- An environment around a text on lines of its own. -/
def environment (name : String) (body : Text) : Text :=
  openEnvironment name ++ '\n' :: body ++ '\n' :: closeEnvironment name

/-- A line of a quotation without its marks; nothing for a line that has no more. -/
def quotedLine (line : Text) : Text :=
  Text.trim (line.trimStart.dropWhile (· == '>'))

/-- The text of a quotation without its marks and blank lines. -/
def quotedText (content : Text) : Text :=
  Text.joinLines ((content.lines.map quotedLine).filter (!·.isEmpty))

/-- The items of a list with one more line: a marker opens an item, any other line
continues the last one. The items are in reverse. -/
def addListLine (items : List Text) (line : Text) : List Text :=
  match Line.listMarker? line with
  | some (_, item) => Text.trim item :: items
  | none =>
    match items with
    | [] => [line]
    | last :: before => (last ++ ' ' :: line) :: before

/-- The items of a list. -/
def listItems (content : Text) : List Text :=
  (((content.lines.map Text.trim).filter (!·.isEmpty)).foldl addListLine []).reverse

/-- A list. -/
def list (config : Config) (ordered : Bool) (content : Text) : Text :=
  let items := (listItems content).map fun item => "\\item ".toList ++ inline config item
  environment (if ordered then "enumerate" else "itemize") (Text.joinLines items)

/-- A paragraph without its annotations. -/
def paragraphBody (config : Config) (paragraph : Paragraph) : Text :=
  match paragraph.kind with
  | .text => inline config paragraph.content
  | .blockquote => environment "quote" (inline config (quotedText paragraph.content))
  | .list ordered => list config ordered paragraph.content
  | .citation id =>
    command "bibitem".toList id ++ ' ' :: inline config paragraph.content
  | .code _ => environment "verbatim" paragraph.content
  | .comment => paragraph.content

/-- A paragraph between its annotations. -/
def paragraph (config : Config) (paragraph : Paragraph) : Text :=
  Text.joinLines (paragraph.annotations.pre ++ paragraphBody config paragraph ::
    paragraph.annotations.post)

/-- A blank line. -/
def blankLine : Text :=
  ['\n', '\n']

/-- Paragraphs with blank lines between them. -/
def paragraphs (config : Config) (paragraphs : List Paragraph) : Text :=
  Text.join blankLine (paragraphs.map (paragraph config))

/-- The keywords of a paper, below their comment lines. -/
def keywordsLine (keywords : Keywords) : Text :=
  let words := Text.join " \\and ".toList (keywords.keywords.map escape)
  Text.joinLines (keywords.annotations ++ [command "keywords".toList (words ++ ['.'])])

/-- The title of a paper, as a link where it has one. -/
def titleLine (config : Config) (title : TitleSection) : Text :=
  match title.link with
  | some link => linkCommand "href" (escapeUrl (absoluteUrl config link)) (escape title.text)
  | none => escape title.text

/-- The title of a paper, set in the middle of the page. -/
def titleBlock (config : Config) (title : TitleSection) : Text :=
  openEnvironment "center" ++ "\n    \x7b\\Large\\bfseries\\boldmath\n        ".toList ++
    titleLine config title ++ "\n        \\par\x7d\n    \\vskip 0.8cm\n".toList ++
    closeEnvironment "center" ++ blankLine

/-- The title section: the title unless it is empty, and what stands below it. -/
def titleSection (config : Config) (title : TitleSection) : Text :=
  (if title.text.isEmpty then [] else titleBlock config title) ++
    (if title.paragraphs.isEmpty then [] else paragraphs config title.paragraphs ++ blankLine)

/-- Whether a paragraph is an entry of the bibliography. -/
def isCitation (paragraph : Paragraph) : Bool :=
  match paragraph.kind with
  | .citation _ => true
  | _ => false

/-- Each paragraph with a blank line behind it. -/
def separately (config : Config) (paragraphs : List Paragraph) : Text :=
  paragraphs.flatMap fun item => paragraph config item ++ blankLine

/-- The bibliography: other paragraphs first, then the entries in their environment
if there are any. -/
def bibliography (config : Config) (items : List Paragraph) : Text :=
  let entries := items.filter isCitation
  separately config (items.filter (!isCitation ·)) ++
    (if entries.isEmpty then []
    else
      openEnvironment "thebibliography" ++ "\x7b99\x7d\n\n".toList ++ separately config entries ++
        closeEnvironment "thebibliography" ++ blankLine)

/-- The heading of a section. -/
def headingLine (config : Config) (heading : Heading) : Text :=
  command heading.level.command (inline config heading.text) ++ blankLine

/-- The keywords of an abstract, a blank line above them. -/
def abstractKeywords (keywords : List Keywords) : Text :=
  if keywords.isEmpty then [] else blankLine ++ Text.joinLines (keywords.map keywordsLine)

/-- A section. -/
def section_ (config : Config) : Section → Text
  | .title title => titleSection config title
  | .abstract items keywords =>
    environment "abstract" (paragraphs config items ++ abstractKeywords keywords) ++ blankLine
  | .keywords keywords => keywordsLine keywords ++ blankLine
  | .bibliography items => bibliography config items
  | .content heading items =>
    ((heading.map (headingLine config)).getD []) ++ paragraphs config items ++ blankLine

/-- The body of a paper. -/
def body (config : Config) (document : Document) : Text :=
  document.sections.flatMap (section_ config)

end Scriptorium.Latex
