import Scriptorium.Citation.Table
import Scriptorium.Line
import Scriptorium.Text.Hex
/-! # Reference tokens

A citation is referred to by a marker in the running text. While Markdown is
rendered a token stands for the marker, made of letters, digits and hyphens alone,
so that it comes through unchanged. Afterwards it becomes a numbered link, or a
LaTeX command.
-/

namespace Scriptorium.Citation

/-- A marker of a citation, with a colon behind it or not. -/
structure Marker where
  id : Text
  hasColon : Bool
  deriving DecidableEq, Repr

/-- The marker of the given name, as it is written. -/
def markerText (id : Text) : Text :=
  '[' :: '^' :: id ++ [']']

/-- A marker, with a colon that stands behind it. -/
def marker? : Scanner Marker := fun s => do
  let (_, rest) ← Scanner.literal ['[', '^'] s
  let (id, rest) ← Line.citationId? rest
  let (_, rest) ← Scanner.literal [']'] rest
  match rest with
  | ':' :: rest => some (⟨id, true⟩, rest)
  | rest => some (⟨id, false⟩, rest)

/-- The token that stands for a marker of the given name. -/
def token (id : Text) : Text :=
  "CITATION-REF-".toList ++ Hex.encode id ++ "-END".toList

/-- A line with its markers as tokens; a marker with a colon stays. -/
def tokenize (line : Text) : Text :=
  Scanner.replaceAll marker?
    (fun marker => if marker.hasColon then markerText marker.id ++ [':'] else token marker.id) line

/-- Whether a character is a small hexadecimal digit. -/
def isHexDigit (c : Char) : Bool :=
  isAsciiDigit c || ('a' ≤ c && c ≤ 'f')

/-- A token, of which the digits are given. -/
def token? : Scanner Text := fun s => do
  let (_, rest) ← Scanner.literal "CITATION-REF-".toList s
  let (digits, rest) ← Scanner.run isHexDigit rest
  let (_, rest) ← Scanner.literal "-END".toList rest
  some (digits, rest)

/-- The token of the given digits, as it is written. -/
def tokenText (digits : Text) : Text :=
  "CITATION-REF-".toList ++ digits ++ "-END".toList

/-- The numbered link of a reference. The first one is what the bibliography leads
back to. -/
def referenceLink (citation : Citation) (isFirst : Bool) : Text :=
  let target := if isFirst then " id=\"citation-ref-".toList ++ citation.anchor ++ ['"'] else []
  "<sup><a href=\"#citation-".toList ++ citation.anchor ++ ['"'] ++ target ++
    " class=\"citation-ref\">[".toList ++ Text.ofNat (citation.index + 1) ++ "]</a></sup>".toList

/-- The pieces of a text with its tokens as links. `seen` holds the anchors that have
been referred to before. A token of an unknown name becomes the marker again, and a
token without a name stays. -/
def resolvePieces (table : CitationTable) (seen : List Text) : List (Piece Text) → Text
  | [] => []
  | .plain c :: rest => c :: resolvePieces table seen rest
  | .found digits :: rest =>
    match Hex.decode? digits with
    | none => tokenText digits ++ resolvePieces table seen rest
    | some id =>
      match table.get? id with
      | none => markerText id ++ resolvePieces table seen rest
      | some citation =>
        referenceLink citation (!seen.contains citation.anchor) ++
          resolvePieces table (citation.anchor :: seen) rest

/-- HTML with its reference tokens as numbered links into the bibliography. -/
def resolve (table : CitationTable) (html : Text) : Text :=
  resolvePieces table [] (Scanner.pieces token? html)

/-- LaTeX with its reference tokens as citation commands. -/
def resolveLatex (latex : Text) : Text :=
  Scanner.replaceAll token?
    (fun digits =>
      match Hex.decode? digits with
      | some id => "\\cite\x7b".toList ++ id ++ ['\x7d']
      | none => tokenText digits) latex

end Scriptorium.Citation
