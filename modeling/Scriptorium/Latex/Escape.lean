import Scriptorium.Line
/-! # Escaping in LaTeX

The ten characters that LaTeX reserves, and what is written for them. Comment lines
are left alone, and so is text in which commands of this library stand already.
-/

namespace Scriptorium.Latex

/-- A command with one argument. -/
def command (name argument : Text) : Text :=
  '\\' :: name ++ '\x7b' :: argument ++ ['\x7d']

/-- How one character is written in LaTeX. -/
def escapeChar (c : Char) : Text :=
  if c = '\\' then "\\textbackslash\x7b\x7d".toList
  else if c = '~' then "\\textasciitilde\x7b\x7d".toList
  else if c = '^' then "\\textasciicircum\x7b\x7d".toList
  else if "\x7b\x7d$&#_%".toList.contains c then ['\\', c]
  else [c]

/-- The starts of the commands that spans of running text are written with. -/
def spanCommands : List Text :=
  ["\\emph\x7b".toList, "\\textbf\x7b".toList, "\\texttt\x7b".toList, "\\lib\x7b".toList,
    "\\href\x7b".toList, "\\cite\x7b".toList]

/-- Whether a text holds a command that a span is written with. -/
def hasSpanCommand (s : Text) : Bool :=
  spanCommands.any fun opening => Text.occursIn opening s

/-- One line, escaped unless it is a comment. -/
def escapeLine (line : Text) : Text :=
  if Line.isComment line then line else line.flatMap escapeChar

/-- A text with the reserved characters escaped, unless it holds commands already. -/
def escape (s : Text) : Text :=
  if hasSpanCommand s then s else Text.join ['\n'] ((s.splitOn '\n').map escapeLine)

/-- How one character is written in the destination of a link. -/
def escapeUrlChar (c : Char) : Text :=
  if c = '%' || c = '#' then ['\\', c] else [c]

/-- A destination of a link. -/
def escapeUrl (url : Text) : Text :=
  url.flatMap escapeUrlChar

end Scriptorium.Latex
