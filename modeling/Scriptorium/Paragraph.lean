import Scriptorium.Line
import Scriptorium.Text.Lines
/-! # Paragraphs

A section is cut into paragraphs at its blank lines; fenced code stays whole. The
comment lines at the two ends of a paragraph are set apart as annotations.
-/

namespace Scriptorium

/-- What a paragraph is. -/
inductive ParagraphKind where
  | text
  | blockquote
  | list (ordered : Bool)
  /-- An entry of the bibliography. -/
  | citation (id : Text)
  /-- Fenced code, with its language if one is named. -/
  | code (language : Option Text)
  /-- Nothing but comment lines. -/
  | comment
  deriving DecidableEq, Repr

/-- The comment lines directly before and after a paragraph. -/
structure Annotations where
  pre : List Text
  post : List Text
  deriving DecidableEq, Repr

/-- A paragraph of a section. -/
structure Paragraph where
  kind : ParagraphKind
  /-- The text without the annotations. -/
  content : Text
  annotations : Annotations
  deriving DecidableEq, Repr

namespace Paragraph

/-- The lines inside a fenced block, given without its opening fence: a fence at the
end closes the block. -/
def codeLines (lines : List Text) : List Text :=
  match lines.getLast? with
  | some last => if Line.isFence last.trimStart then lines.dropLast else lines
  | none => lines

/-- The kind and the content of lines that neither start nor end with a comment. -/
def bodyOf (lines : List Text) : ParagraphKind × Text :=
  let first := (lines.head?.getD []).trimStart
  match Line.fence? first with
  | some (info, _) => (.code info.words.head?, Text.joinLines (codeLines lines.tail))
  | none =>
    let kind :=
      if first.startsWith ['>'] then .blockquote
      else
        match Line.listMarker? first with
        | some (ordered, _) => .list ordered
        | none => .text
    (kind, Text.joinLines lines)

/-- The lines behind the comment lines at the start. -/
def withoutLead (lines : List Text) : List Text :=
  lines.dropWhile Line.isComment

/-- The comment lines at the end, in order. -/
def trail (lines : List Text) : List Text :=
  (lines.reverse.takeWhile Line.isComment).reverse

/-- The paragraph that the lines of a block form. -/
def ofLines (lines : List Text) : Paragraph :=
  let rest := withoutLead lines
  if rest.isEmpty then ⟨.comment, Text.joinLines lines, ⟨[], []⟩⟩
  else
    let post := trail rest
    let (kind, content) := bodyOf (rest.take (rest.length - post.length))
    let pre := lines.takeWhile Line.isComment
    ⟨kind, content, ⟨pre.map Text.trim, post.map Text.trim⟩⟩

/-- Lines cut at the blank lines outside of fences, which `inFence` says the first
line is in. There is one block more than there are such lines. -/
def blocks (inFence : Bool) : List Text → List (List Text)
  | [] => [[]]
  | line :: lines =>
    if !inFence && !Line.isFence line.trimStart && line.isAllBlank then [] :: blocks inFence lines
    else
      match blocks (inFence != Line.isFence line.trimStart) lines with
      | [] => [[line]]
      | block :: blocks => (line :: block) :: blocks

/-- The paragraphs of a text. -/
def split (text : Text) : List Paragraph :=
  ((blocks false text.lines).filter (!·.isEmpty)).map ofLines

end Paragraph

end Scriptorium
