import Scriptorium.Html.Escape
import Scriptorium.Math.Token
import Scriptorium.Text.Blank
/-! # Giving mathematics back

Tokens become markup again, for a page or for a paper. Environments come first, then
inline and displayed mathematics, so that tokens inside of an environment are given
back too.
-/

namespace Scriptorium.Math

/-- What protected source is given back as. -/
inductive Target where
  /-- Containers for a formula renderer in the browser. -/
  | html
  /-- The source itself. -/
  | raw
  deriving DecidableEq, Repr

/-- The closing of an environment at the end of a text: what stands before it. -/
def dropEnvironmentEnd? (s : Text) : Option Text := do
  let (_, rest) ← Scanner.literal ['\x7d'] s.reverse
  let rest :=
    match rest with
    | '*' :: rest => rest
    | rest => rest
  let (_, rest) ← Scanner.run isAsciiLetter rest
  let (_, rest) ← Scanner.literal "\x7bdne\\".toList rest
  some rest.reverse

/-- The name of an environment and what stands in it. -/
def environmentParts? (source : Text) : Option (Text × Text) := do
  let (name, rest) ← beginName? source
  let body ← dropEnvironmentEnd? rest
  some (name, body)

/-- The environments that are shown as blocks with a title. -/
def titledEnvironments : List Text :=
  ["theorem".toList, "lemma".toList, "proof".toList, "definition".toList, "example".toList,
    "remark".toList, "note".toList, "corollary".toList]

/-- A name with its first letter as a capital. -/
def titleCase : Text → Text
  | [] => []
  | c :: cs => c.toUpper :: cs

/-- A block with a title for an environment. -/
def titledBlock (name body : Text) : Text :=
  "<div class=\"latex-env ".toList ++ name ++ "\"><div class=\"env-title\">".toList ++
    titleCase name ++ "</div><div class=\"env-content\">".toList ++ Html.escape body.trim ++
    "</div></div>".toList

/-- The markup of an environment on a page. -/
def environmentHtml (source : Text) : Text :=
  match environmentParts? source with
  | some (name, body) =>
    if titledEnvironments.contains name then titledBlock name body else Html.escape source
  | none => Html.escape source

/-- The markup of a source. -/
def Target.markup : Target → Kind → Text → Text
  | .raw, _, source => source
  | .html, .display, source =>
    "<div class=\"math math-display\">".toList ++ Html.escape source ++ "</div>".toList
  | .html, .inline, source =>
    "<span class=\"math math-inline\">".toList ++ Html.escape source ++ "</span>".toList
  | .html, .environment, source => environmentHtml source

/-- What is shown for a token whose payload spells no text. -/
def Target.malformed : Target → Kind → Text
  | .raw, .display => "% malformed math token (display)".toList
  | .raw, .inline => "% malformed math token (inline)".toList
  | .raw, .environment => "% malformed math token (env)".toList
  | .html, .display => "<div class=\"math-error\">Error decoding math expression</div>".toList
  | .html, .inline => "<span class=\"math-error\">Error</span>".toList
  | .html, .environment => "<div class=\"env-error\">Error decoding environment</div>".toList

/-- The scripts and styles that the formula renderer of a page needs. -/
def formulaHead : Text :=
  ("<link rel=\"stylesheet\" href=\"https://cdn.jsdelivr.net/npm/katex@0.16.9/dist/" ++
  "katex.min.css\" crossorigin=\"anonymous\">\n" ++
  "<script defer src=\"https://cdn.jsdelivr.net/npm/katex@0.16.9/dist/" ++
  "katex.min.js\" crossorigin=\"anonymous\"></script>\n" ++
  "<script defer src=\"https://cdn.jsdelivr.net/npm/katex@0.16.9/dist/contrib/" ++
  "auto-render.min.js\" crossorigin=\"anonymous\"\n" ++
  "    onload=\"renderMathInElement(document.body, \x7b\n" ++
  "        delimiters: [\n" ++
  "            \x7bleft: '$$', right: '$$', display: true\x7d,\n" ++
  "            \x7bleft: '$', right: '$', display: false\x7d\n" ++
  "        ]\n" ++
  "    \x7d);\"></script>").toList

/-- What a page needs in its head to show the markup of a target. -/
def Target.headContent? : Target → Option Text
  | .html => some formulaHead
  | .raw => none

/-- What a token becomes when the tokens of one kind are given back. -/
def Token.markup (target : Target) (kind : Kind) (token : Token) : Text :=
  if token.kind = kind then
    match token.source? with
    | some source => target.markup kind source
    | none => target.malformed kind
  else token.text

/-- A text with its tokens of one kind given back. -/
def decodeKind (target : Target) (kind : Kind) (s : Text) : Text :=
  Scanner.replaceAll token? (Token.markup target kind) s

/-- A text with its tokens given back. -/
def decode (target : Target) (s : Text) : Text :=
  decodeKind target .display (decodeKind target .inline (decodeKind target .environment s))

end Scriptorium.Math
