import Scriptorium.Html.Escape
import Scriptorium.Html.Highlight
import Scriptorium.Markdown.Block
import Scriptorium.Markdown.Inline
import Scriptorium.Name
import Scriptorium.Text.Percent
/-! # Markdown as HTML

The HTML fragment of a Markdown document (`Markdown.toHtml`). Line breaks are kept,
headings get the anchor of their text as their `id`, and fenced code goes to a
highlighter first.
-/

namespace Scriptorium.Markdown

open Html (Highlighter)

/-! ## Escaping -/

/-- How one character of running text is written: quotes stay as they are. -/
def bodyChar : Char → Text
  | '"' => ['"']
  | c => Html.escapeChar c

/-- Running text in HTML. -/
def bodyText (s : Text) : Text :=
  s.flatMap bodyChar

/-- Whether a character is written with percent signs in an address. An ampersand and
an apostrophe are not: they are written as character references. -/
def isReservedInAddress (c : Char) : Bool :=
  !(isAsciiAlphanumeric c || "!#$%&'()*+,-./:;=?@_~".toList.contains c)

/-- An address in an attribute. -/
def addressText (url : Text) : Text :=
  (Percent.encode isReservedInAddress url).flatMap fun c =>
    match c with
    | '&' => "&amp;".toList
    | '\'' => "&#x27;".toList
    | c => [c]

/-- An attribute with a blank before it. -/
def attributeText (name : String) (value : Text) : Text :=
  ' ' :: name.toList ++ ('=' :: '"' :: value ++ ['"'])

/-- The title of a link as an attribute; none when it is empty. -/
def titleAttribute (title : Text) : Text :=
  if title.isEmpty then [] else attributeText "title" (Html.escape title)

/-! ## Running text -/

/-- The element that sets text off. -/
def Style.element : Style → Text
  | .emphasis => "em".toList
  | .strong => "strong".toList
  | .strikethrough => "del".toList

mutual

/-- The words of a span, as an anchor is made of them: HTML is left out, and a line
break is a space. -/
def Inline.words : Inline → Text
  | .text text => text
  | .code text => text
  | .html _ => []
  | .lineBreak => [' ']
  | .styled _ content => wordsOf content
  | .link _ content => wordsOf content
  | .image _ content => wordsOf content

/-- The words of running text. -/
def wordsOf : List Inline → Text
  | [] => []
  | span :: spans => span.words ++ wordsOf spans

end

mutual

/-- What stands for a span where no elements can, as in the description of an image. -/
def Inline.plain : Inline → Text
  | .text text => Html.escape text
  | .code text => Html.escape text
  | .html source => Html.escape source
  | .lineBreak => [' ']
  | .styled _ content => plainOf content
  | .link _ content => plainOf content
  | .image _ content => plainOf content

/-- What stands for running text where no elements can. -/
def plainOf : List Inline → Text
  | [] => []
  | span :: spans => span.plain ++ plainOf spans

end

mutual

/-- The HTML of a span. -/
def Inline.toHtml : Inline → Text
  | .text text => bodyText text
  | .code text => "<code>".toList ++ bodyText text ++ "</code>".toList
  | .html source => source
  | .lineBreak => "<br />\n".toList
  | .styled style content =>
    '<' :: style.element ++ '>' :: inlineHtml content ++ ('<' :: '/' :: style.element ++ ['>'])
  | .link target content =>
    "<a".toList ++ attributeText "href" (addressText target.url) ++ titleAttribute target.title ++
      '>' :: inlineHtml content ++ "</a>".toList
  | .image target content =>
    "<img".toList ++ attributeText "src" (addressText target.url) ++
      attributeText "alt" (plainOf content) ++ titleAttribute target.title ++ " />".toList

/-- The HTML of running text. -/
def inlineHtml : List Inline → Text
  | [] => []
  | span :: spans => span.toHtml ++ inlineHtml spans

end

/-! ## Blocks -/

/-- A part of the HTML of blocks. -/
inductive Part where
  /-- What follows begins a line. -/
  | freshLine
  | markup (text : Text)
  deriving DecidableEq, Repr

/-- Parts one behind the other; `atStart` says whether they follow the start of a
line. -/
def joinParts (atStart : Bool) : List Part → Text
  | [] => []
  | .freshLine :: parts => if atStart then joinParts true parts else '\n' :: joinParts true parts
  | .markup text :: parts =>
    text ++ joinParts (match text.getLast? with | none => atStart | some c => c == '\n') parts

/-- Fenced code as the highlighter sets it. -/
def highlighted? (highlighter : Highlighter) (info : Option Text) (code : Text) : Option Text := do
  let language ← info
  let markup ← highlighter code language
  some ("<pre><code class=\"language-".toList ++ Html.escape language ++ "\">".toList ++ markup ++
    "</code></pre>\n".toList)

/-- Code as it is, in the language that the first word of its info names. -/
def plainCode (info : Option Text) (code : Text) : Text :=
  let language : Text := (info.getD []).takeWhile (· != ' ')
  let opening :=
    if language.isEmpty then "<pre><code>".toList
    else "<pre><code class=\"language-".toList ++ Html.escape language ++ "\">".toList
  opening ++ bodyText code ++ "</code></pre>\n".toList

/-- The style of the cells of a column. -/
def Alignment.style : Alignment → Text
  | .none => []
  | .left => " style=\"text-align: left\"".toList
  | .center => " style=\"text-align: center\"".toList
  | .right => " style=\"text-align: right\"".toList

/-- The cells of a row, each in the given element. -/
def rowHtml (known : List (Text × Destination)) (element : Text) (alignments : List Alignment)
    (cells : List Text) : Text :=
  (alignments.zip cells).flatMap fun (alignment, source) =>
    '<' :: element ++ alignment.style ++ '>' :: inlineHtml (parseInline known source) ++
      ('<' :: '/' :: element ++ ['>'])

/-- A table. -/
def tableHtml (known : List (Text × Destination)) (alignments : List Alignment) (head : List Text)
    (rows : List (List Text)) : Text :=
  "<table><thead><tr>".toList ++ rowHtml known ['t', 'h'] alignments head ++
    "</tr></thead><tbody>\n".toList ++
    rows.flatMap (fun row =>
      "<tr>".toList ++ rowHtml known ['t', 'd'] alignments row ++ "</tr>\n".toList) ++
    "</tbody></table>\n".toList

/-- A heading, with the anchor of its words. -/
def headingHtml (known : List (Text × Destination)) (level : Nat) (source : Text) : Text :=
  let content := parseInline known source
  let element : Text := 'h' :: Text.ofNat level
  '<' :: element ++ attributeText "id" (Anchor.ofText (wordsOf content)) ++
    '>' :: inlineHtml content ++ ('<' :: '/' :: element ++ ">\n".toList)

/-- The opening tag of a list. A numbered list that does not start at one says where
it starts. -/
def ListMarker.openingTag (marker : ListMarker) : Text :=
  if !marker.isOrdered then "<ul>\n".toList
  else if marker.number = 1 then "<ol>\n".toList
  else "<ol".toList ++ attributeText "start" (Text.ofNat marker.number) ++ ">\n".toList

/-- The closing tag of a list. -/
def ListMarker.closingTag (marker : ListMarker) : Text :=
  if marker.isOrdered then "</ol>\n".toList else "</ul>\n".toList

mutual

/-- The HTML of a block. In the items of a list that are set close together (`tight`),
a paragraph is its bare text. -/
def Block.parts (highlighter : Highlighter) (known : List (Text × Destination)) (tight : Bool) :
    Block → List Part
  | .paragraph source =>
    let content := inlineHtml (parseInline known source)
    if tight then [.markup content]
    else [.freshLine, .markup ("<p>".toList ++ content ++ "</p>\n".toList)]
  | .heading level source => [.freshLine, .markup (headingHtml known level source)]
  | .rule => [.freshLine, .markup "<hr />\n".toList]
  | .code info code =>
    match highlighted? highlighter info code with
    | some markup => [.markup markup]
    | none => [.freshLine, .markup (plainCode info code)]
  | .html content => [.markup content]
  | .table alignments head rows => [.markup (tableHtml known alignments head rows)]
  | .quote blocks =>
    .freshLine :: .markup "<blockquote>\n".toList :: partsOf highlighter known false blocks ++
      [.markup "</blockquote>\n".toList]
  | .item blocks =>
    .freshLine :: .markup "<li>".toList :: partsOf highlighter known tight blocks ++
      [.markup "</li>\n".toList]
  | .list marker tight items =>
    .freshLine :: .markup marker.openingTag :: partsOf highlighter known tight items ++
      [.markup marker.closingTag]

/-- The HTML of blocks. -/
def partsOf (highlighter : Highlighter) (known : List (Text × Destination)) (tight : Bool) :
    List Block → List Part
  | [] => []
  | block :: blocks =>
    block.parts highlighter known tight ++ partsOf highlighter known tight blocks

end

/-- The HTML fragment of a document. -/
def toHtml (highlighter : Highlighter) (s : Text) : Text :=
  let (blocks, known) := parseBlocks s
  joinParts true (partsOf highlighter known false blocks)

end Scriptorium.Markdown
