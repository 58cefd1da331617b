import Scriptorium.Markdown.Cursor
import Scriptorium.Text.Letter
import Scriptorium.Text.Scan
/-! # HTML within Markdown

Tags, comments and the other pieces of HTML that a document may hold, and the ways in
which a line can begin a block of HTML.
-/

namespace Scriptorium.Markdown

/-- Whether a character may stand in the name of a tag behind its first letter. -/
def isTagChar (c : Char) : Bool :=
  isAsciiAlphanumeric c || c == '-'

/-- The name of a tag. -/
def tagName? : Scanner Text
  | c :: rest =>
    if isAsciiLetter c then some (c :: rest.takeWhile isTagChar, rest.dropWhile isTagChar) else none
  | [] => none

/-- Whether a character may begin the name of an attribute. -/
def startsAttribute (c : Char) : Bool :=
  isAsciiLetter c || c == '_' || c == ':'

/-- Whether a character may stand in the name of an attribute. -/
def isAttributeChar (c : Char) : Bool :=
  isAsciiAlphanumeric c || c == '_' || c == ':' || c == '.' || c == '-'

/-- Whether a character may stand in a value without quotes. -/
def isBareValueChar (c : Char) : Bool :=
  !isSpaceOrBreak c && !"\"'=<>\x60".toList.contains c

/-- The text behind the value of an attribute. -/
def skipValue? : Text → Option Text
  | '"' :: rest => (Text.cut? ['"'] rest).map Prod.snd
  | '\'' :: rest => (Text.cut? ['\''] rest).map Prod.snd
  | s => (Scanner.run isBareValueChar s).map Prod.snd

/-- The text behind an attribute and the white space in front of it. -/
def skipAttribute? (s : Text) : Option Text :=
  match s.dropWhile isSpaceOrBreak with
  | [] => none
  | c :: rest =>
    if isSpaceOrBreak (s.head?.getD c) && startsAttribute c then
      let rest := rest.dropWhile isAttributeChar
      match rest.dropWhile isSpaceOrBreak with
      | '=' :: value => skipValue? (value.dropWhile isSpaceOrBreak)
      | _ => some rest
    else none

/-- The text behind all attributes. -/
def skipAttributes (s : Text) : Text :=
  match skipAttribute? s with
  | none => s
  | some rest => if rest.length < s.length then skipAttributes rest else s
termination_by s.length

/-- The text behind the rest of an opening tag whose name has been read. -/
def skipOpenTag? (s : Text) : Option Text :=
  match (skipAttributes s).dropWhile isSpaceOrBreak with
  | '/' :: '>' :: rest => some rest
  | '>' :: rest => some rest
  | _ => none

/-- The text behind an opening or closing tag, which is given from behind its bracket
on. -/
def skipTag? : Text → Option Text
  | '/' :: rest => do
    let (_, rest) ← tagName? rest
    match rest.dropWhile isSpaceOrBreak with
    | '>' :: rest => some rest
    | _ => none
  | s => do
    let (_, rest) ← tagName? s
    skipOpenTag? rest

/-- The text behind a comment, an instruction, a declaration or literal data, given
from behind its bracket on. -/
def skipMarkup? (s : Text) : Option Text :=
  match Text.dropStart? "!--".toList s with
  | some rest =>
    match rest with
    | '>' :: rest => some rest
    | '-' :: '>' :: rest => some rest
    | rest => (Text.cut? "-->".toList rest).map Prod.snd
  | none =>
    match Text.dropStart? "![CDATA[".toList s with
    | some rest => (Text.cut? "]]>".toList rest).map Prod.snd
    | none =>
      match s with
      | '?' :: rest => (Text.cut? "?>".toList rest).map Prod.snd
      | '!' :: c :: rest =>
        if isAsciiLetter c then (Text.cut? ['>'] rest).map Prod.snd else none
      | _ => none

/-- HTML within running text, as it is written. -/
def inlineHtml? : Scanner Text
  | '<' :: rest =>
    (skipTag? rest <|> skipMarkup? rest).map fun after =>
      ('<' :: rest.take (rest.length - after.length), after)
  | _ => none

/-- What ends a block of HTML. -/
inductive HtmlEnd where
  /-- The line that holds this text is the last one. -/
  | within (closing : Text)
  /-- The line before a blank line is the last one. -/
  | blankLine
  deriving DecidableEq, Repr

/-- `s` without `word` in front, whatever the case of its letters. -/
def dropWord? : Text → Text → Option Text
  | [], s => some s
  | _, [] => none
  | w :: word, c :: s => if c.toLower = w then dropWord? word s else none

/-- Whether a text is empty or begins with white space or a closing bracket. -/
def endsTagName : Text → Bool
  | [] => true
  | c :: _ => isSpaceOrBreak c || c == '>'

/-- The elements whose blocks go up to their closing tag. -/
def rawElements : List Text :=
  ["pre".toList, "style".toList, "script".toList, "textarea".toList]

/-- The closing tag of the raw element that a text opens, given from behind its
bracket on. -/
def rawElementEnd? (s : Text) : Option Text :=
  rawElements.findSome? fun name =>
    match dropWord? name s with
    | some rest => if endsTagName rest then some ('<' :: '/' :: name ++ ['>']) else none
    | none => none

/-- What closes the block that a text begins with, given from behind its bracket
on, when the block is one that has a closing. -/
def closing? (s : Text) : Option Text :=
  match rawElementEnd? s with
  | some closing => some closing
  | none =>
    if s.startsWith "!--".toList then some "-->".toList
    else if s.startsWith ['?'] then some "?>".toList
    else if s.startsWith "![CDATA[".toList then some "]]>".toList
    else
      match s with
      | '!' :: c :: _ => if isAsciiLetter c then some ['>'] else none
      | _ => none

/-- The elements whose tags begin a block wherever they stand at the start of a
line. -/
def blockElements : List String :=
  ["address", "article", "aside", "base", "basefont", "blockquote", "body", "caption", "center",
    "col", "colgroup", "dd", "details", "dialog", "dir", "div", "dl", "dt", "fieldset",
    "figcaption", "figure", "footer", "form", "frame", "frameset", "h1", "h2", "h3", "h4", "h5",
    "h6", "head", "header", "hr", "html", "iframe", "legend", "li", "link", "main", "menu",
    "menuitem", "nav", "noframes", "ol", "optgroup", "option", "p", "param", "search", "section",
    "summary", "table", "tbody", "td", "tfoot", "th", "thead", "title", "tr", "track", "ul"]

/-- Whether a text begins with the tag of a block element, given from behind its
bracket on. -/
def startsBlockElement (s : Text) : Bool :=
  let s := (Text.dropStart? ['/'] s).getD s
  match tagName? s with
  | none => false
  | some (name, rest) =>
    blockElements.any (fun element => element.toList == name.map Char.toLower) &&
      (endsTagName rest || rest.startsWith ['/', '>'])

/-- Whether a line is one complete tag, given from behind its bracket on. -/
def isTagLine (s : Text) : Bool :=
  match skipTag? s with
  | some rest => rest.all isSpace
  | none => false

/-- How the block of HTML ends that a line begins. A block that may not interrupt a
paragraph is left out when `interrupting`. -/
def htmlStart? (interrupting : Bool) : Text → Option HtmlEnd
  | '<' :: rest =>
    match closing? rest with
    | some closing => some (.within closing)
    | none =>
      if startsBlockElement rest || (!interrupting && isTagLine rest) then some .blankLine else none
  | _ => none

end Scriptorium.Markdown
