import Scriptorium.Citation.Table
import Scriptorium.Metadata
import Scriptorium.Paragraph
/-! # Sections

For the paper a body is cut at its dividers. The first chunk holds the title; every
later one is a section of the kind that its first heading tells. Keywords belong to
the abstract before them, and the bibliography holds the citations.
-/

namespace Scriptorium

/-- The level of a heading of a paper. -/
inductive SectionLevel where
  | chapter
  | section
  | subsection
  | subsubsection
  deriving DecidableEq, Repr

/-- A heading of a paper. -/
structure Heading where
  level : SectionLevel
  text : Text
  deriving DecidableEq, Repr

/-- The title of a document, with what stands below it. -/
structure TitleSection where
  text : Text
  link : Option Text
  paragraphs : List Paragraph
  deriving DecidableEq, Repr

/-- Keywords, with the comment lines among them. -/
structure Keywords where
  keywords : List Text
  annotations : List Text
  deriving DecidableEq, Repr

/-- A section of a document. -/
inductive Section where
  | title (title : TitleSection)
  | abstract (paragraphs : List Paragraph) (keywords : List Keywords)
  /-- Keywords without an abstract before them. -/
  | keywords (keywords : Keywords)
  | bibliography (paragraphs : List Paragraph)
  | content (heading : Option Heading) (paragraphs : List Paragraph)
  deriving DecidableEq, Repr

/-- A document as its sections, with its metadata. -/
structure Document where
  metadata : Metadata
  sections : List Section
  deriving DecidableEq, Repr

namespace SectionLevel

/-- The level of a heading with the given number of signs. -/
def ofDepth : Nat → SectionLevel
  | 0 | 1 => .chapter
  | 2 => .section
  | 3 => .subsection
  | _ => .subsubsection

/-- The LaTeX command for headings of a level. -/
def command : SectionLevel → Text
  | .chapter => "chapter".toList
  | .section => "section".toList
  | .subsection => "subsection".toList
  | .subsubsection => "subsubsection".toList

end SectionLevel

namespace Document

/-- Lines cut at the dividers outside of fences, which `inFence` says the first line
is in. There is one chunk more than there are such dividers. -/
def chunks (inFence : Bool) : List Text → List (List Text)
  | [] => [[]]
  | line :: lines =>
    if !inFence && !Line.isFence line.trimStart && Line.isDivider line then
      [] :: chunks inFence lines
    else
      match chunks (inFence != Line.isFence line.trimStart) lines with
      | [] => [[line]]
      | chunk :: chunks => (line :: chunk) :: chunks

/-- The first heading of a chunk, as its depth and text, and the other lines. -/
def firstHeading? : List Text → Option ((Nat × Text) × List Text)
  | [] => none
  | line :: lines =>
    match Line.heading? line.trim with
    | some (heading, _) => some (heading, lines)
    | none => (firstHeading? lines).map fun (heading, others) => (heading, line :: others)

/-- The title section of the first chunk: its first heading names it, or else the
metadata do. -/
def titleSection (metadata : Metadata) (chunk : List Text) : TitleSection :=
  match firstHeading? chunk with
  | some ((_, text), others) =>
    let paragraphs := Paragraph.split (Text.joinLines others)
    match Line.link? text with
    | some ((text, link), []) => ⟨text, some link, paragraphs⟩
    | _ => ⟨text, none, paragraphs⟩
  | none =>
    let paragraphs := Paragraph.split (Text.joinLines chunk)
    match metadata.title with
    | some title => ⟨title.text, if title.link.isEmpty then none else some title.link, paragraphs⟩
    | none => ⟨[], none, paragraphs⟩

/-- The keywords among lines: the items of unordered lists. -/
def keywordsOf (lines : List Text) : Keywords :=
  let lines := lines.map Text.trim
  { keywords := lines.filterMap fun line =>
      if Line.isComment line then none
      else
        match Line.listMarker? line with
        | some (false, item) => some (Text.trim item)
        | _ => none
    annotations := lines.filter Line.isComment }

/-- The entries of the bibliography. -/
def citationParagraphs (citations : CitationTable) : List Paragraph :=
  citations.entries.map fun citation => ⟨.citation citation.id, citation.rawContent, ⟨[], []⟩⟩

/-- The section of a later chunk. -/
def sectionOf (citations : CitationTable) (chunk : List Text) : Section :=
  match firstHeading? chunk with
  | none => .content none (Paragraph.split (Text.joinLines chunk))
  | some ((depth, text), others) =>
    let rest := Text.joinLines others
    if text.toLower.startsWith "abstract".toList then .abstract (Paragraph.split rest) []
    else if text.toLower.startsWith "keywords".toList then .keywords (keywordsOf rest.lines)
    else if depth = 2 && text = "Bibliography".toList then
      .bibliography ((Paragraph.split rest).filter (·.kind != .comment) ++
        citationParagraphs citations)
    else .content (some ⟨.ofDepth depth, text⟩) (Paragraph.split rest)

/-- The sections with keywords added to the last abstract, if there is one. -/
def attachKeywords? (added : Keywords) : List Section → Option (List Section)
  | [] => none
  | first :: rest =>
    match attachKeywords? added rest with
    | some rest => some (first :: rest)
    | none =>
      match first with
      | .abstract paragraphs keywords => some (.abstract paragraphs (keywords ++ [added]) :: rest)
      | _ => none

/-- The sections with one more behind them. Keywords go to the last abstract, and
stand alone when there is none. -/
def addSection (sections : List Section) (added : Section) : List Section :=
  match added with
  | .keywords keywords => (attachKeywords? keywords sections).getD (sections ++ [added])
  | _ => sections ++ [added]

/-- Whether a section is a bibliography. -/
def isBibliography : Section → Bool
  | .bibliography _ => true
  | _ => false

/-- The sections of the chunks of a body. -/
def sectionsOf (metadata : Metadata) (citations : CitationTable) : List (List Text) → List Section
  | [] => []
  | first :: others =>
    (others.map (sectionOf citations)).foldl addSection [.title (titleSection metadata first)]

/-- The document of a body without front and back matter. A bibliography is added
when there are citations and the body has none. -/
def build (metadata : Metadata) (citations : CitationTable) (body : Text) : Document :=
  let sections := sectionsOf metadata citations (chunks false body.lines)
  if sections.any isBibliography || citations.isEmpty then ⟨metadata, sections⟩
  else ⟨metadata, sections ++ [.bibliography (citationParagraphs citations)]⟩

/-- The title section of a document. -/
def titleSection? (document : Document) : Option TitleSection :=
  document.sections.findSome? fun
    | .title title => some title
    | _ => none

end Document

end Scriptorium
