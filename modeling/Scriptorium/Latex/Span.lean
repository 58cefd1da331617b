import Scriptorium.Config
import Scriptorium.Latex.Escape
import Scriptorium.Link
/-! # Running text in LaTeX

Code, bold and italic type and links within a paragraph become LaTeX commands
(`Latex.inline`); what stands between them is escaped. The inside of a span, code
apart, is running text again and shorter than the span, so nesting ends.
-/

namespace Scriptorium.Latex

/-- A span of running text, as its source. -/
inductive Span where
  | code (text : Text)
  | bold (text : Text)
  | italic (text : Text)
  | link (text destination : Text)
  deriving DecidableEq, Repr

/-- What stands inside of a span. -/
def Span.inner : Span → Text
  | code text => text
  | bold text => text
  | italic text => text
  | link text _ => text

/-- Whether a span is code, inside of which there are no spans. -/
def Span.isCode : Span → Bool
  | code _ => true
  | _ => false

/-- Characters other than `mark`, at least one, between two of them. -/
def between? (mark : Char) : Scanner Text := fun s => do
  let (_, rest) ← Scanner.literal [mark] s
  let (text, rest) ← Scanner.run (· != mark) rest
  let (_, rest) ← Scanner.literal [mark] rest
  some (text, rest)

/-- Bold text: at least one character on one line between two pairs of asterisks. -/
def bold? : Scanner Text
  | '*' :: '*' :: c :: rest => do
    let (text, rest) ← Text.cut? ['*', '*'] rest
    if (c :: text).contains '\n' then none else some (c :: text, rest)
  | _ => none

/-- A link: its text without closing brackets, its destination without closing
parentheses, neither of them empty. -/
def link? : Scanner (Text × Text) := fun s => do
  let (_, rest) ← Scanner.literal ['['] s
  let (text, rest) ← Scanner.run (· != ']') rest
  let (_, rest) ← Scanner.literal [']', '('] rest
  let (destination, rest) ← Scanner.run (· != ')') rest
  let (_, rest) ← Scanner.literal [')'] rest
  some ((text, destination), rest)

/-- A span at the start of a text: code before bold before italic type before
links. -/
def span? : Scanner Span := fun s =>
  match between? '\x60' s with
  | some (text, rest) => some (.code text, rest)
  | none =>
    match bold? s with
    | some (text, rest) => some (.bold text, rest)
    | none =>
      match between? '*' s with
      | some (text, rest) => some (.italic text, rest)
      | none => (link? s).map fun ((text, destination), rest) => (.link text destination, rest)

/-- Whether a destination is a Markdown document that is not on another site. -/
def isDocumentLink (target : Text) : Bool :=
  (Link.splitAnchor target).1.endsWith ".md".toList && !Text.occursIn "://".toList target

/-- Whether a segment leads nowhere or one level up. -/
def isDots (segment : Text) : Bool :=
  segment == ['.'] || segment == ['.', '.']

/-- A document link as a path from the root of the site. -/
def sitePath (target : Text) : Text :=
  let page : Text := (Link.publish target).dropWhile (· == '/')
  Text.join ['/'] ((page.splitOn '/').dropWhile isDots)

/-- The address of a document on the site; other destinations as they are. -/
def absoluteUrl (config : Config) (target : Text) : Text :=
  if isDocumentLink target then
    config.siteBaseUrl.dropEndWhile (· == '/') ++ '/' :: sitePath target
  else target

/-- The last two segments of a path. -/
def lastTwoSegments (path : Text) : Text :=
  let segments := path.splitOn '/'
  Text.join ['/'] (segments.drop (segments.length - 2))

/-- A command with a destination and a text. -/
def linkCommand (name : String) (destination text : Text) : Text :=
  command name.toList destination ++ '\x7b' :: text ++ ['\x7d']

/-- A link of which the text is LaTeX already. Documents of the same library two
levels up or in the same folder are linked by the library's own command. -/
def renderLink (config : Config) (text href : Text) : Text :=
  let href := Link.dropAngles href
  let target := Link.decode href
  let page := Link.publish target
  if !isDocumentLink target then linkCommand "href" (escapeUrl href) text ++ "\\xspace".toList
  else if page.startsWith "../../".toList then
    linkCommand "lib" ('/' :: escapeUrl (lastTwoSegments page)) text
  else
    match Text.dropStart? "./".toList page with
    | some path => linkCommand "lib" ('/' :: escapeUrl path) text
    | none =>
      linkCommand "href" (escapeUrl (absoluteUrl config target)) text ++ "\\xspace".toList

/-- A span of which the inside is LaTeX already. -/
def renderSpan (config : Config) (span : Span) (inside : Text) : Text :=
  match span with
  | .code _ => command "texttt".toList inside
  | .bold _ => command "textbf".toList inside
  | .italic _ => command "emph".toList inside
  | .link _ destination => renderLink config inside destination

/-- Text between two marks, and what is behind it, are shorter than the whole. -/
theorem length_between? {mark : Char} {s text rest : Text}
    (h : between? mark s = some (text, rest)) :
    text.length < s.length ∧ rest.length < s.length := by
  simp only [between?, Option.bind_eq_bind, Option.bind_eq_some_iff, Prod.exists] at h
  obtain ⟨_, behind, opened, found, after, inside, _, others, closed, h⟩ := h
  cases h
  have first := congrArg List.length (Scanner.literal_eq_some_iff.mp opened)
  have second := congrArg List.length (Scanner.eq_of_run_eq_some inside).1
  have third := congrArg List.length (Scanner.literal_eq_some_iff.mp closed)
  simp only [List.length_append, List.length_cons, List.length_nil] at first second third
  omega

/-- Bold text, and what is behind it, are shorter than the whole. -/
theorem length_bold? {s text rest : Text} (h : bold? s = some (text, rest)) :
    text.length < s.length ∧ rest.length < s.length := by
  unfold bold? at h
  split at h
  · simp only [Option.bind_eq_bind, Option.bind_eq_some_iff, Prod.exists] at h
    obtain ⟨found, behind, cut, h⟩ := h
    have lengths := congrArg List.length (Text.eq_of_cut?_eq_some cut)
    split at h
    · cases h
    · cases h
      simp only [List.length_append, List.length_cons, List.length_nil] at lengths ⊢
      omega
  · cases h

/-- The text of a link, and what is behind the link, are shorter than the whole. -/
theorem length_link? {s text destination rest : Text}
    (h : link? s = some ((text, destination), rest)) :
    text.length < s.length ∧ rest.length < s.length := by
  simp only [link?, Option.bind_eq_bind, Option.bind_eq_some_iff, Prod.exists] at h
  obtain ⟨_, _, opened, _, _, inside, _, _, middle, _, _, target, _, _, closed, h⟩ := h
  cases h
  have first := congrArg List.length (Scanner.literal_eq_some_iff.mp opened)
  have second := congrArg List.length (Scanner.eq_of_run_eq_some inside).1
  have third := congrArg List.length (Scanner.literal_eq_some_iff.mp middle)
  have fourth := congrArg List.length (Scanner.eq_of_run_eq_some target).1
  have fifth := congrArg List.length (Scanner.literal_eq_some_iff.mp closed)
  simp only [List.length_append, List.length_cons, List.length_nil] at *
  omega

/-- What is inside of a span, and what is behind it, are shorter than the whole. -/
theorem length_span? {s rest : Text} {span : Span} (h : span? s = some (span, rest)) :
    span.inner.length < s.length ∧ rest.length < s.length := by
  unfold span? at h
  split at h
  · rename_i found
    cases h
    exact length_between? found
  · split at h
    · rename_i found
      cases h
      exact length_bold? found
    · split at h
      · rename_i found
        cases h
        exact length_between? found
      · simp only [Option.map_eq_some_iff, Prod.exists] at h
        obtain ⟨text, destination, after, found, h⟩ := h
        cases h
        exact length_link? found

/-- Running text behind characters that belong to no span, which are given in
reverse: each stretch between two spans is escaped as a whole. -/
def inlineAfter (config : Config) (plain : Text) (s : Text) : Text :=
  match s with
  | [] => escape plain.reverse
  | c :: cs =>
    match _read : span? (c :: cs) with
    | none => inlineAfter config (c :: plain) cs
    | some (span, rest) =>
      let inside :=
        if span.isCode then escape span.inner else inlineAfter config [] span.inner
      escape plain.reverse ++ renderSpan config span inside ++ inlineAfter config [] rest
termination_by s.length
decreasing_by
  · simp
  · exact (length_span? _read).1
  · exact (length_span? _read).2

/-- Running text in LaTeX. -/
def inline (config : Config) (s : Text) : Text :=
  inlineAfter config [] s

end Scriptorium.Latex
