import Scriptorium.Citation.Extraction
import Scriptorium.Latex.Comment
import Scriptorium.Latex.Document
import Scriptorium.Latex.Template
import Scriptorium.Math.Decode
import Scriptorium.Math.Encode
/-! # Papers

A document compiled to LaTeX (`Latex.paper`). The tokens of citations and formulas
stand in the text until the whole paper is put right, so that no repair touches a
formula.
-/

namespace Scriptorium.Latex

/-- The document that a Markdown text holds, with tokens for its citations and
formulas. -/
def documentOf (markdown : Text) : Document :=
  let parsed := ParsedDocument.parse markdown
  let extraction := Extraction.ofBody (convertComments parsed.body)
  Document.build parsed.metadata extraction.citations (Math.encode extraction.markdown)

/-- A paper with its tokens as citation commands and formulas. -/
def resolveTokens (latex : Text) : Text :=
  Math.decode .raw (Citation.resolveLatex latex)

/-- The paper of a document in a template. -/
def paper (config : Config) (template markdown : Text) : Text :=
  resolveTokens (repair (assemble template (body config (documentOf markdown))))

end Scriptorium.Latex
