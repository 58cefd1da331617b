import Scriptorium.Text.Basic
/-! # Escaping in HTML

The four characters that mean something to HTML in running text or in attribute
values, and the character references written for them.
-/

namespace Scriptorium.Html

/-- How one character is written in HTML. -/
def escapeChar : Char → Text
  | '&' => "&amp;".toList
  | '<' => "&lt;".toList
  | '>' => "&gt;".toList
  | '"' => "&quot;".toList
  | c => [c]

/-- A text with its ampersands, angle brackets and double quotes escaped. -/
def escape (s : Text) : Text :=
  s.flatMap escapeChar

/-- A text with the four character references read back. Each is read over the
whole text before the next one; the ampersand's comes last, so that an ampersand
which it gives starts no other reference. -/
def unescape (s : Text) : Text :=
  let s := s.replace "&lt;".toList ['<']
  let s := s.replace "&gt;".toList ['>']
  let s := s.replace "&quot;".toList ['"']
  s.replace "&amp;".toList ['&']

end Scriptorium.Html
