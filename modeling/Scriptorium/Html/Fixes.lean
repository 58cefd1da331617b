import Scriptorium.Config
import Scriptorium.Html.Escape
import Scriptorium.Html.Highlight
import Scriptorium.Math.Decode
/-! # Putting rendered HTML right

What the Markdown pass leaves to be done on the finished text: block mathematics
stands outside of paragraphs, a term with a line that begins with a colon is a
definition, a fence left in a list item is code, and configured texts are replaced.
-/

namespace Scriptorium.Html

/-- A paragraph that holds one token of block mathematics and nothing else. -/
def tokenParagraph? : Scanner Math.Token := fun s => do
  let (_, rest) ← Scanner.literal "<p>".toList s
  let (token, rest) ← Math.token? (Text.trimStart rest)
  let (_, rest) ← Scanner.literal "</p>".toList (Text.trimStart rest)
  if token.kind = .inline then none else some (token, rest)

/-- HTML with block mathematics freed from its paragraphs. -/
def unwrapTokens (html : Text) : Text :=
  Scanner.replaceAll tokenParagraph? Math.Token.text html

/-- HTML with its tokens as the markup of a target. -/
def decodeMath (target : Math.Target) (html : Text) : Text :=
  Math.decode target (unwrapTokens html)

/-- A line break element. -/
def lineBreak? : Scanner Unit := fun s => do
  let (_, rest) ← Scanner.literal "<br".toList s
  match Text.trimStart rest with
  | '/' :: rest => Scanner.literal ['>'] rest
  | rest => Scanner.literal ['>'] rest

/-- The text of a definition: the blank characters before it are left out, unless
there is nothing else; then the last of them is the text. -/
def definitionText (s : Text) : Text :=
  match s.trimStart with
  | [] => s.getLast?.toList
  | trimmed => trimmed

/-- A paragraph of a term and, on the next line behind a colon, its definition. -/
def definition? : Scanner (Text × Text) := fun s => do
  let (_, rest) ← Scanner.literal "<p>".toList s
  let (term, rest) ← Scanner.run (fun c => c != '<' && c != ':') rest
  let (_, rest) ← lineBreak? rest
  let rest :=
    match rest with
    | '\n' :: rest => rest
    | rest => rest
  let (_, rest) ← Scanner.literal [':'] rest
  let (text, rest) ← Scanner.run (· != '<') rest
  let (_, rest) ← Scanner.literal "</p>".toList rest
  some ((term, definitionText text), rest)

/-- A definition as a description list. -/
def descriptionList (term text : Text) : Text :=
  "<dl><dt>".toList ++ term.trim ++ "</dt><dd>".toList ++ text ++ "</dd></dl>".toList

/-- HTML with its definitions as description lists. -/
def fixDefinitions (html : Text) : Text :=
  Scanner.replaceAll definition? (fun (term, text) => descriptionList term text) html

/-- Three backquotes. -/
def fenceMark : Text :=
  ['\x60', '\x60', '\x60']

/-- A list item in which a code fence was left as text. -/
structure FencedItem where
  /-- The opening tag of the item. -/
  openTag : Text
  /-- What stands before the fence. -/
  before : Text
  language : Text
  code : Text
  /-- What stands behind the closing fence, up to the end of an item. -/
  after : Text

/-- A list item with code between fences in it. What stands before the first fence
has no backquotes. -/
def fencedItem? : Scanner FencedItem := fun s => do
  let (_, rest) ← Scanner.literal "<li".toList s
  let (attributes, rest) ← Text.cut? ['>'] rest
  let before := rest.takeWhile (· != '\x60')
  let (_, rest) ← Scanner.literal fenceMark (rest.dropWhile (· != '\x60'))
  let language := rest.takeWhile isWordChar
  let rest := rest.dropWhile isWordChar
  let rest := (Text.dropStart? "<br />".toList rest).getD rest
  let (_, rest) ← Scanner.literal ['\n'] rest
  let (code, rest) ← Text.cut? fenceMark rest
  let (after, rest) ← Text.cut? "</li>".toList rest
  some (⟨"<li".toList ++ attributes ++ ['>'], before, language, code, after ++ "</li>".toList⟩,
    rest)

/-- A code block element, of which the content is HTML. -/
def codeBlock (language content : Text) : Text :=
  "<pre><code class=\"language-".toList ++ language ++ "\">".toList ++ content ++
    "</code></pre>".toList

/-- A list item with its code as a code block. -/
def FencedItem.markup (highlighter : Highlighter) (item : FencedItem) : Text :=
  let language := if item.language.isEmpty then "plaintext".toList else item.language
  let code := unescape (item.code.replace "<br />".toList []).trim
  item.openTag ++ item.before ++
    codeBlock language ((highlighter code language).getD (escape code)) ++ item.after

/-- HTML with the fences in its list items as code blocks. -/
def recoverCode (highlighter : Highlighter) (html : Text) : Text :=
  Scanner.replaceAll fencedItem? (FencedItem.markup highlighter) html

/-- A text with literal replacements made one after the other. -/
def applyReplacements (replacements : List Replacement) (html : Text) : Text :=
  replacements.foldl (fun html replacement => html.replace replacement.old replacement.new) html

/-- HTML with definitions, code in list items and configured replacements done. -/
def postProcess (settings : HtmlSettings) (highlighter : Highlighter) (html : Text) : Text :=
  applyReplacements settings.replacements (recoverCode highlighter (fixDefinitions html))

end Scriptorium.Html
