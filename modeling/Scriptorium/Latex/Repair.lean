import Scriptorium.Latex.Escape
/-! # Repairs of a whole paper

What is put right once a paper is assembled: quotes that follow or enclose each other
directly become one, bare ampersands are escaped, at most one blank line stands in a
row, and none between a heading and a comment.
-/

namespace Scriptorium.Latex

/-- What opens an environment. -/
def openEnvironment (name : String) : Text :=
  command "begin".toList name.toList

/-- What closes an environment. -/
def closeEnvironment (name : String) : Text :=
  command "end".toList name.toList

/-- The same text twice, with blank characters between. -/
def twice? (repeated : Text) : Scanner Unit := fun s => do
  let (_, rest) ← Scanner.literal repeated s
  Scanner.literal repeated (Text.trimStart rest)

/-- A text with repeated commands of one kind as single ones. -/
def mergeTwice (repeated : Text) (s : Text) : Text :=
  Scanner.replaceAll (twice? repeated) (fun _ => repeated) s

/-- A line behind its first character with bare ampersands escaped. An ampersand is
looked at together with the character before it, and that character belongs to no
other. -/
def escapeAmpersandsAfter : Text → Text
  | [] => []
  | [c] => [c]
  | c :: '&' :: rest =>
    if c = '\\' then c :: escapeAmpersandsAfter ('&' :: rest)
    else c :: '\\' :: '&' :: escapeAmpersandsAfter rest
  | c :: d :: rest => c :: escapeAmpersandsAfter (d :: rest)

/-- A line with bare ampersands escaped. -/
def escapeAmpersands : Text → Text
  | '&' :: rest => '\\' :: '&' :: escapeAmpersandsAfter rest
  | line => escapeAmpersandsAfter line

/-- Whether the lines from this one on are verbatim: it says so itself, or else the
lines before it decide. -/
def verbatimFrom (inVerbatim : Bool) (line : Text) : Bool :=
  if line.trim = openEnvironment "verbatim" then true
  else if line.trim = closeEnvironment "verbatim" then false
  else inVerbatim

/-- Lines with bare ampersands escaped, except in verbatim blocks and comments. -/
def repairLines (inVerbatim : Bool) : List Text → List Text
  | [] => []
  | line :: lines =>
    let inVerbatim := verbatimFrom inVerbatim line
    let line := if inVerbatim || Line.isComment line then line else escapeAmpersands line
    line :: repairLines inVerbatim lines

/-- A text with bare ampersands escaped. -/
def repairAmpersands (s : Text) : Text :=
  Text.join ['\n'] (repairLines false (s.splitOn '\n'))

/-- A text with at most two line feeds in a row, `count` of which stand before it. -/
def limitLineFeeds (count : Nat) : Text → Text
  | [] => []
  | c :: cs =>
    if c = '\n' then
      if count < 2 then c :: limitLineFeeds (count + 1) cs else limitLineFeeds count cs
    else c :: limitLineFeeds 0 cs

/-- The name of a sectioning command. -/
def sectioningName? : Scanner Text := fun s =>
  ["chapter".toList, "section".toList, "subsection".toList, "subsubsection".toList].findSome?
    fun name =>
      match Text.dropStart? (name ++ ['\x7b']) s with
      | some rest => some (name, rest)
      | none => none

/-- Whether a character may stand in the title of a sectioning command. -/
def isTitleChar (c : Char) : Bool :=
  c != '\x7d' && c != '\n'

/-- A sectioning command on a line of its own, a blank line, and the start of a
comment. Gives the command. -/
def headingThenComment? : Scanner Text := fun s => do
  let (_, rest) ← Scanner.literal ['\\'] s
  let (name, rest) ← sectioningName? rest
  let title := rest.takeWhile isTitleChar
  let (_, rest) ← Scanner.literal "\x7d\n\n%".toList (rest.dropWhile isTitleChar)
  some (command name title, rest)

/-- A text without the blank line between a heading and a comment. -/
def joinHeadingComments (s : Text) : Text :=
  Scanner.replaceAll headingThenComment? (fun heading => heading ++ ['\n', '%']) s

/-- A paper with all repairs made. -/
def repair (s : Text) : Text :=
  let s := mergeTwice (openEnvironment "quote") s
  let s := mergeTwice (closeEnvironment "quote") s
  joinHeadingComments (limitLineFeeds 0 (repairAmpersands s))

end Scriptorium.Latex
