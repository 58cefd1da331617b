import Scriptorium.Text.Blank
import Scriptorium.Text.Lines
import Scriptorium.Text.Scan
/-! # Comments of the source

A comment in the Markdown source is written for its authors. In the paper it becomes
LaTeX comment lines.
-/

namespace Scriptorium.Latex

/-- An HTML comment, up to the first closing; gives what stands in it. -/
def htmlComment? : Scanner Text := fun s =>
  (Text.dropStart? "<!--".toList s).bind (Text.cut? "-->".toList)

/-- The LaTeX comment lines for the content of a comment. -/
def commentLines (content : Text) : Text :=
  Text.joinLines (content.trim.lines.map fun line => '%' :: ' ' :: line.trim)

/-- A text with its HTML comments as LaTeX comments. -/
def convertComments (markdown : Text) : Text :=
  Scanner.replaceAll htmlComment? commentLines markdown

end Scriptorium.Latex
