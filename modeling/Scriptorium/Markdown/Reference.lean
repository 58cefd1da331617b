import Scriptorium.Markdown.Cursor
import Scriptorium.Markdown.Entity
import Scriptorium.Text.Blank
import Scriptorium.Text.Lowercase
import Scriptorium.Text.Punctuation
/-! # Link destinations and definitions

A link names its destination, and perhaps a title, where it stands or in a definition
elsewhere that it refers to by a label. Labels agree when they are the same up to
case and white space.
-/

namespace Scriptorium.Markdown

/-- Where a link leads, and its title, which may be empty. -/
structure Destination where
  url : Text
  title : Text
  deriving DecidableEq, Repr

/-- A text with its backslash escapes and character references resolved. -/
def unescape (s : Text) : Text :=
  match s with
  | [] => []
  | '\\' :: c :: rest =>
    if isAsciiPunctuation c then c :: unescape rest else '\\' :: unescape (c :: rest)
  | c :: cs =>
    match reference? (c :: cs) with
    | some (value, rest) =>
      if rest.length ≤ cs.length then value ++ unescape rest else c :: unescape cs
    | none => c :: unescape cs
termination_by s.length

/-- What stands before the first unescaped `mark`, and the rest behind it; none when a
character of the class `stop` comes first. -/
def upTo? (mark : Char) (stop : Char → Bool) : Scanner Text
  | [] => none
  | '\\' :: c :: rest =>
    if isAsciiPunctuation c then
      (upTo? mark stop rest).map fun (body, rest) => ('\\' :: c :: body, rest)
    else (upTo? mark stop (c :: rest)).map fun (body, rest) => ('\\' :: body, rest)
  | c :: rest =>
    if c = mark then some ([], rest)
    else if stop c then none
    else (upTo? mark stop rest).map fun (body, rest) => (c :: body, rest)

/-- A label in brackets: not blank, without brackets, and not longer than 999
characters. -/
def label? : Scanner Text
  | '[' :: rest => do
    let (label, rest) ← upTo? ']' (· == '[') rest
    if label.length ≤ 999 && !label.isAllBlank then some (label, rest) else none
  | _ => none

/-- A label in the form in which labels are compared. -/
def normalizeLabel (label : Text) : Text :=
  (Text.join [' '] label.words).toLower.flatMap fun c =>
    if c = 'ß' then ['s', 's'] else if c = 'ς' then ['σ'] else [c]

/-- How many parentheses may be open in a destination. -/
def maxParentheses : Nat := 6

/-- A destination without brackets around it: up to white space, or up to a closing
parenthesis that was not opened in it. -/
def bareDestination? (depth : Nat) : Scanner Text
  | [] => if depth = 0 then some ([], []) else none
  | '\\' :: c :: rest =>
    if isAsciiPunctuation c then
      (bareDestination? depth rest).map fun (url, rest) => ('\\' :: c :: url, rest)
    else (bareDestination? depth (c :: rest)).map fun (url, rest) => ('\\' :: url, rest)
  | c :: rest =>
    if c.toNat ≤ 0x20 then if depth = 0 then some ([], c :: rest) else none
    else if c = '(' then
      if depth = maxParentheses then none
      else (bareDestination? (depth + 1) rest).map fun (url, rest) => (c :: url, rest)
    else if c = ')' then
      match depth with
      | 0 => some ([], c :: rest)
      | depth + 1 => (bareDestination? depth rest).map fun (url, rest) => (c :: url, rest)
    else (bareDestination? depth rest).map fun (url, rest) => (c :: url, rest)

/-- A destination, in angle brackets or not. -/
def destination? : Scanner Text
  | '<' :: rest => upTo? '>' (fun c => c == '\n' || c == '<') rest
  | s => bareDestination? 0 s

/-- A title in quotes or parentheses. -/
def title? : Scanner Text
  | '"' :: rest => upTo? '"' (fun _ => false) rest
  | '\'' :: rest => upTo? '\'' (fun _ => false) rest
  | '(' :: rest => upTo? ')' (· == '(') rest
  | _ => none

/-- A text without the white space at its start. -/
def skipSpace (s : Text) : Text :=
  s.dropWhile isSpaceOrBreak

/-- The destination and title of a link in the parentheses behind its text. -/
def inlineDestination? : Scanner Destination
  | '(' :: rest => do
    let (url, rest) ← destination? (skipSpace rest)
    let (title, rest) := ((title? (skipSpace rest)).getD ([], rest))
    match skipSpace rest with
    | ')' :: rest => some (⟨unescape url, unescape title⟩, rest)
    | _ => none
  | _ => none

/-- The text behind the rest of a line, when nothing but white space is left of it. -/
def endOfLine? (s : Text) : Option Text :=
  match s.dropWhile isSpace with
  | [] => some []
  | '\n' :: rest => some rest
  | _ => none

/-- A title behind a destination, up to the end of its line. White space stands
between the two. -/
def definitionTitle? (s : Text) : Option (Text × Text) := do
  if !s.head?.any isSpaceOrBreak then none
  else
    let (title, rest) ← title? (skipSpace s)
    let rest ← endOfLine? rest
    some (title, rest)

/-- A definition at the start of a paragraph: its label and where it leads. It takes
up whole lines. -/
def definition? : Scanner (Text × Destination) := fun s => do
  let (label, rest) ← label? (s.dropWhile isSpace)
  let (_, rest) ← Scanner.literal [':'] rest
  let start := skipSpace rest
  if start.isEmpty then none
  else
    let (url, rest) ← destination? start
    match definitionTitle? rest with
    | some (title, after) => some ((normalizeLabel label, ⟨unescape url, unescape title⟩), after)
    | none => do
      let after ← endOfLine? rest
      some ((normalizeLabel label, ⟨unescape url, []⟩), after)

/-- The definitions at the start of a paragraph, and what is left of it. -/
def definitions (s : Text) : List (Text × Destination) × Text :=
  match definition? s with
  | none => ([], s)
  | some (found, rest) =>
    if rest.length < s.length then
      let (others, rest) := definitions rest
      (found :: others, rest)
    else ([], s)
termination_by s.length

/-- The destination that a label is defined to have; the first definition counts. -/
def lookup? (known : List (Text × Destination)) (label : Text) : Option Destination :=
  (known.find? fun entry => entry.1 == normalizeLabel label).map Prod.snd

end Scriptorium.Markdown
