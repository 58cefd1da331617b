import Scriptorium.Citation.Table
import Scriptorium.Html.Escape
import Scriptorium.Text.Scan
/-! # The bibliography of a page

The citations of a document as a numbered list, and its place on the page: that of a
section headed Bibliography, or the end.
-/

namespace Scriptorium.Citation

/-- The list item of a citation, which leads back to the first reference. -/
def bibliographyItem (citation : Citation) : Text :=
  let body := citation.formattedHtml.getD (Html.escape citation.rawContent)
  "<li id=\"citation-".toList ++ citation.anchor ++ "\" class=\"citation-entry\">".toList ++ body ++
    " <a href=\"#citation-ref-".toList ++ citation.anchor ++
    "\" class=\"citation-backref\" title=\"Back to reference\">↩</a></li>\n".toList

/-- The bibliography of a table; nothing for a table without citations. -/
def bibliography (table : CitationTable) : Text :=
  if table.isEmpty then []
  else
    "<h2 id=\"bibliography\">Bibliography</h2>\n<div class=\"bibliography\">\n<ol>\n".toList ++
      table.entries.flatMap bibliographyItem ++ "</ol>\n</div>\n".toList

/-- One of the two levels of heading that begin a section of a page. -/
def sectionLevel? : Scanner Unit
  | '2' :: rest => some ((), rest)
  | '3' :: rest => some ((), rest)
  | _ => none

/-- The heading of a section headed Bibliography. -/
def bibliographyHeading? : Scanner Unit := fun s => do
  let (_, rest) ← Scanner.literal "<h".toList s
  let (_, rest) ← sectionLevel? rest
  let (_, rest) ← Scanner.literal " id=\"bibliography\">Bibliography</h".toList rest
  let (_, rest) ← sectionLevel? rest
  Scanner.literal ['>'] rest

/-- Whether a text starts with the heading of a section. -/
def startsSection (s : Text) : Bool :=
  match (Scanner.literal "<h".toList s).bind fun (_, rest) => sectionLevel? rest with
  | some (_, c :: _) => c == ' ' || c == '>'
  | _ => false

/-- The text from the next heading of a section on. -/
def fromNextSection : Text → Text
  | [] => []
  | c :: cs => if startsSection (c :: cs) then c :: cs else fromNextSection cs

/-- A page with its bibliography: in the place of the first section headed
Bibliography, from its heading up to the next one, or at the end on a line of its
own. -/
def attach (html bibliography : Text) : Text :=
  if bibliography.isEmpty then html
  else
    match Scanner.find? bibliographyHeading? html with
    | some (before, _, after) => before ++ bibliography ++ fromNextSection after
    | none =>
      if html.isEmpty || html.endsWith ['\n'] then html ++ bibliography
      else html ++ '\n' :: bibliography

end Scriptorium.Citation
