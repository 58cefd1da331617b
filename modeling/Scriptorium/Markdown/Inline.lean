import Scriptorium.Markdown.Html
import Scriptorium.Markdown.Reference
/-! # Running text

Running text becomes a list of spans. It is read from left to right: code, HTML and
automatic links come before links, and links before emphasis. Emphasis is found last,
by bringing together runs of marks that open it with runs that close it.
-/

namespace Scriptorium.Markdown

/-- The ways of setting a part of running text off. -/
inductive Style where
  | emphasis
  | strong
  | strikethrough
  deriving DecidableEq, Repr

/-- A span of running text. -/
inductive Inline where
  | text (text : Text)
  | code (text : Text)
  | html (source : Text)
  | lineBreak
  | styled (style : Style) (content : List Inline)
  | link (destination : Destination) (content : List Inline)
  | image (destination : Destination) (content : List Inline)

/-- A run of marks that can open or close emphasis: how many marks it had, and how many
of them have no partner yet. -/
structure Run where
  mark : Char
  length : Nat
  count : Nat
  canOpen : Bool
  canClose : Bool
  deriving DecidableEq, Repr

/-- A part of running text in which emphasis is still to be found. -/
inductive Item where
  | settled (content : Inline)
  | run (run : Run)

/-- Marks without a partner as the text that they are. -/
def Item.plain : Item → Inline
  | .settled content => content
  | .run marks => .text (List.replicate marks.count marks.mark)

/-! ## Emphasis -/

/-- Whether one run can open emphasis that the other closes. When one of them can do
both, their lengths must not add up to a multiple of three, unless each is one. Marks of
strikethrough must be equally many. -/
def Run.opens (opener closer : Run) : Bool :=
  opener.mark == closer.mark && opener.canOpen &&
    if closer.mark == '~' then opener.length == closer.length
    else
      let both := (opener.canOpen && opener.canClose) || (closer.canOpen && closer.canClose)
      !both || (opener.length + closer.length) % 3 != 0 || closer.length % 3 == 0

/-- The last run among items, given in reverse, that a closing run can have as its
partner: the items behind it, the run, and the items before it in reverse. -/
def findOpener? (closer : Run) (behind : List Inline) :
    List Item → Option (List Inline × Run × List Item)
  | [] => none
  | .settled content :: before => findOpener? closer (content :: behind) before
  | .run run :: before =>
    if run.opens closer then some (behind, run, before)
    else findOpener? closer ((Item.run run).plain :: behind) before

/-- Content between `count` pairs of marks: strong for two pairs, from the inside out,
and emphasis for a last single one. -/
def wrap (mark : Char) : Nat → List Inline → List Inline
  | 0, content => content
  | 1, content => [.styled (if mark = '~' then .strikethrough else .emphasis) content]
  | count + 2, content =>
    wrap mark count [.styled (if mark = '~' then .strikethrough else .strong) content]

/-- Items, in reverse, behind which a run closes as much as it can. What is left of it
may open emphasis later, or is text. -/
def closeRun (before : List Item) (closer : Run) : List Item :=
  match (if closer.canClose && 0 < closer.count then findOpener? closer [] before else none) with
  | none => if 0 < closer.count then .run closer :: before else before
  | some (content, opener, rest) =>
    let pairs := min opener.count closer.count
    let rest :=
      if pairs < opener.count then .run { opener with count := opener.count - pairs } :: rest
      else rest
    let rest := (wrap closer.mark pairs content).reverse.map Item.settled ++ rest
    if 0 < pairs then closeRun rest { closer with count := closer.count - pairs } else rest
termination_by closer.count
decreasing_by omega

/-- The spans of items, with emphasis found. -/
def resolveItems (items : List Item) : List Inline :=
  let resolved := items.foldl (fun before item =>
    match item with
    | .settled content => .settled content :: before
    | .run run => closeRun before run) []
  resolved.reverse.map Item.plain

/-! ## Spans that come first -/

/-- The rest of a text behind a run of exactly `count` backquotes, and what stands
before it. -/
def closeCode? (count : Nat) (s : Text) : Option (Text × Text) :=
  match s with
  | [] => none
  | c :: cs =>
    if c = '\x60' then
      let marks := s.takeWhile (· == '\x60')
      let rest := cs.dropWhile (· == '\x60')
      if marks.length = count then some ([], rest)
      else
        have := (List.dropWhile_suffix (l := cs) (· == '\x60')).length_le
        (closeCode? count rest).map fun (code, rest) => (marks ++ code, rest)
    else (closeCode? count cs).map fun (code, rest) => (c :: code, rest)
termination_by s.length

/-- The content of a code span: line breaks are spaces, and a space at either end falls
away when there is one at each and something else between. -/
def codeText (s : Text) : Text :=
  let s : Text := s.map fun c => if c = '\n' then ' ' else c
  match s with
  | ' ' :: inner =>
    match Text.dropEnd? [' '] inner with
    | some body => if s.all (· == ' ') then s else body
    | none => s
  | _ => s

/-- Whether a character may stand in the scheme of an address behind its first letter. -/
def isSchemeChar (c : Char) : Bool :=
  isAsciiAlphanumeric c || c == '+' || c == '.' || c == '-'

/-- The address between the brackets of an automatic link. -/
def address? : Scanner Text
  | c :: rest => do
    let scheme := rest.takeWhile isSchemeChar
    let (_, behind) ← Scanner.literal [':'] (rest.dropWhile isSchemeChar)
    let body := behind.takeWhile fun c => 0x20 < c.toNat && c != '<' && c != '>'
    let (_, after) ← Scanner.literal ['>']
      (behind.dropWhile fun c => 0x20 < c.toNat && c != '<' && c != '>')
    if isAsciiLetter c && 1 ≤ scheme.length && scheme.length ≤ 31 then
      some (c :: scheme ++ ':' :: body, after)
    else none
  | [] => none

/-- Whether a character may stand before the sign of a mail address. -/
def isMailChar (c : Char) : Bool :=
  isAsciiAlphanumeric c || ".!#$%&'*+/=?^_\x60\x7b|\x7d~-".toList.contains c

/-- Whether a text is a label of a domain. -/
def isDomainLabel (label : Text) : Bool :=
  1 ≤ label.length && label.length ≤ 63 &&
    label.all (fun c => isAsciiAlphanumeric c || c == '-') &&
    label.head? != some '-' && label.getLast? != some '-'

/-- The mail address between the brackets of an automatic link. -/
def mailAddress? : Scanner Text := fun s => do
  let (name, rest) ← Scanner.run isMailChar s
  let (_, rest) ← Scanner.literal ['@'] rest
  let (domain, rest) ← Scanner.run (fun c => isAsciiAlphanumeric c || c == '-' || c == '.') rest
  let (_, rest) ← Scanner.literal ['>'] rest
  if (domain.splitOn '.').all isDomainLabel then some (name ++ '@' :: domain, rest) else none

/-- An automatic link. -/
def autolink? : Scanner Inline
  | '<' :: rest =>
    match address? rest with
    | some (address, rest) => some (.link ⟨address, []⟩ [.text address], rest)
    | none => (mailAddress? rest).map fun (address, rest) =>
        (.link ⟨"mailto:".toList ++ address, []⟩ [.text address], rest)
  | _ => none

/-! ## Reading from left to right -/

/-- A bracket that is still open: whether it is one of an image, whether it can still
become a link, the text behind it, and the items before it in reverse. -/
structure Bracket where
  isImage : Bool
  isActive : Bool
  inside : Text
  before : List Item

/-- How far running text has been read: the open brackets, innermost first, and the
items behind the innermost one, in reverse. -/
structure InlineReader where
  brackets : List Bracket
  items : List Item

namespace InlineReader

/-- Before the first character. -/
def start : InlineReader := ⟨[], []⟩

/-- A span behind the items so far; text is joined to text before it. -/
def add (reader : InlineReader) (span : Inline) : InlineReader :=
  match span, reader.items with
  | .text text, .settled (.text before) :: items =>
    { reader with items := .settled (.text (before ++ text)) :: items }
  | _, items => { reader with items := .settled span :: items }

/-- The text of an opening bracket. -/
def bracketText (bracket : Bracket) : Text :=
  if bracket.isImage then ['!', '['] else ['[']

/-- The items with an open bracket, of which the others lie inside, as plain text. -/
def abandon (bracket : Bracket) (items : List Item) : List Item :=
  items ++ .settled (.text (bracketText bracket)) :: bracket.before

/-- The destination of a link whose brackets have just been closed: it stands behind
them, or a label there or the text of the link refers to it. Gives the text behind. -/
def linkTarget? (known : List (Text × Destination)) (inside : Text) (rest : Text) :
    Option (Destination × Text) :=
  match inlineDestination? rest with
  | some found => some found
  | none =>
    match label? rest with
    | some (label, after) => (lookup? known label).map fun target => (target, after)
    | none =>
      let after := (Text.dropStart? ['[', ']'] rest).getD rest
      match label? ('[' :: inside ++ [']']) with
      | some (label, []) => (lookup? known label).map fun target => (target, after)
      | _ => none

/-- A closing bracket, behind which `rest` stands, and the text behind what it has
closed. Links hold no links, so the brackets around a link can only become images. -/
def closeBracket (known : List (Text × Destination)) (reader : InlineReader) (rest : Text) :
    InlineReader × Text :=
  match reader.brackets with
  | [] => (reader.add (.text [']']), rest)
  | bracket :: brackets =>
    let inside := bracket.inside.take (bracket.inside.length - rest.length - 1)
    let plain : InlineReader := ⟨brackets, abandon bracket reader.items⟩
    match (if bracket.isActive then linkTarget? known inside rest else none) with
    | none => (plain.add (.text [']']), rest)
    | some (target, after) =>
      let content := resolveItems reader.items.reverse
      if bracket.isImage then
        (⟨brackets, .settled (.image target content) :: bracket.before⟩, after)
      else
        let disabled := brackets.map fun outer =>
          if outer.isImage then outer else { outer with isActive := false }
        (⟨disabled, .settled (.link target content) :: bracket.before⟩, after)

/-- All that is still open as plain text. -/
def finish (reader : InlineReader) : List Item :=
  (reader.brackets.foldl (fun items bracket => abandon bracket items) reader.items).reverse

end InlineReader

/-- Whether a character counts as white space beside a run of marks; so do the ends of
the text. -/
def isGap (c : Option Char) : Bool :=
  c.all isBlank

/-- Whether a run of marks between two characters can open emphasis. -/
def canOpen (mark : Char) (length : Nat) (before after : Option Char) : Bool :=
  !isGap after &&
    (before.isNone || (mark == '*' && !after.any isPunctuation) || (mark == '~' && 1 < length) ||
      isGap before || before.any isPunctuation)

/-- Whether a run of marks between two characters can close emphasis. -/
def canClose (mark : Char) (length : Nat) (before after : Option Char) : Bool :=
  !isGap before &&
    (isGap after || ((mark == '*' || (mark == '~' && 1 < length)) && !before.any isPunctuation) ||
      after.any isPunctuation)

/-- The run of marks at the start of a text, behind the given character. -/
def runOf (mark : Char) (before : Option Char) (s : Text) : Run × Text :=
  let length := (s.takeWhile (· == mark)).length
  let rest := s.dropWhile (· == mark)
  let opens := canOpen mark length before rest.head?
  let closes := canClose mark length before rest.head?
  if mark = '~' && 2 < length then (⟨mark, length, length, false, false⟩, rest)
  else (⟨mark, length, length, opens, closes⟩, rest)

/-- The spans and brackets of a text, behind the character `before` on its line. -/
def readInline (known : List (Text × Destination)) (reader : InlineReader) (before : Option Char)
    (s : Text) : InlineReader :=
  match s with
  | [] => reader
  | c :: cs =>
    /- Goes on behind a part of the text, which is at least one character. -/
    let goOn := fun (reader : InlineReader) (before : Option Char) (rest : Text) =>
      if rest.length ≤ cs.length then readInline known reader before rest else reader
    if c = '\\' then
      match cs with
      | '\n' :: rest => goOn (reader.add .lineBreak) none (rest.dropWhile isSpace)
      | d :: rest =>
        if isAsciiPunctuation d then goOn (reader.add (.text [d])) (some d) rest
        else goOn (reader.add (.text [c])) (some c) cs
      | [] => reader.add (.text [c])
    else if c = '\n' then goOn (reader.add .lineBreak) none (cs.dropWhile isSpace)
    else if isSpace c then
      let spaces := c :: cs.takeWhile isSpace
      let rest := cs.dropWhile isSpace
      match rest with
      | '\n' :: _ | [] => goOn reader (some c) rest
      | _ => goOn (reader.add (.text spaces)) (some c) rest
    else if c = '\x60' then
      let marks := c :: cs.takeWhile (· == '\x60')
      let rest := cs.dropWhile (· == '\x60')
      match closeCode? marks.length rest with
      | some (code, rest) => goOn (reader.add (.code (codeText code))) (some c) rest
      | none => goOn (reader.add (.text marks)) (some c) rest
    else if c = '&' then
      match reference? (c :: cs) with
      | some (value, rest) => goOn (reader.add (.text value)) (some ';') rest
      | none => goOn (reader.add (.text [c])) (some c) cs
    else if c = '<' then
      match autolink? (c :: cs) with
      | some (link, rest) => goOn (reader.add link) (some '>') rest
      | none =>
        match inlineHtml? (c :: cs) with
        | some (source, rest) => goOn (reader.add (.html source)) (some '>') rest
        | none => goOn (reader.add (.text [c])) (some c) cs
    else if c = '[' then
      goOn ⟨⟨false, true, cs, reader.items⟩ :: reader.brackets, []⟩ (some c) cs
    else if c = '!' then
      match cs with
      | '[' :: rest =>
        goOn ⟨⟨true, true, rest, reader.items⟩ :: reader.brackets, []⟩ (some '[') rest
      | _ => goOn (reader.add (.text [c])) (some c) cs
    else if c = ']' then
      let (reader, rest) := reader.closeBracket known cs
      goOn reader (some (if rest.length < cs.length then ')' else ']')) rest
    else if c = '*' || c = '_' || c = '~' then
      let (run, rest) := runOf c before (c :: cs)
      if run.canOpen || run.canClose then
        goOn { reader with items := .run run :: reader.items } (some c) rest
      else goOn (reader.add (.text (List.replicate run.length c))) (some c) rest
    else goOn (reader.add (.text [c])) (some c) cs
termination_by s.length

/-- The spans of running text, its links referring to the given definitions. -/
def parseInline (known : List (Text × Destination)) (source : Text) : List Inline :=
  resolveItems (readInline known .start none source).finish

end Scriptorium.Markdown
