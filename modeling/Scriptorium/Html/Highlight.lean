import Scriptorium.Text.Basic
/-! # Highlighting of code

A highlighter turns code in a named language into HTML, or declines.
-/

namespace Scriptorium.Html

/-- Makes HTML of code, which comes first, in a language; nothing where it has none
to offer. -/
abbrev Highlighter := (code language : Text) → Option Text

/-- The highlighter that always declines. -/
def plainHighlighter : Highlighter :=
  fun _ _ => none

end Scriptorium.Html
