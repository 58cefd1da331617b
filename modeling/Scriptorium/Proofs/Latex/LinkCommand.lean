import Scriptorium.Proofs.Latex.Running
/-! # The commands that links are written with

A link is written with one of two commands, its destination the first argument and its
text the second (`Latex.renderLink_eq`). So what is written for running text is made of
the first arguments of such commands and of everything else (`Latex.Part`,
`Latex.Running.flatMap_text_parts`). The command and the destination of a link can be told
from how it is written (`Latex.eq_of_linkTo_eq`).
-/

namespace Scriptorium.Latex

/-- The commands that links are written with. -/
inductive LinkName where
  | href
  | lib
  deriving DecidableEq, Repr

/-- A command as it is written, without its backslash. -/
def LinkName.text : LinkName → String
  | href => "href"
  | lib => "lib"

/-- What stands behind the arguments of a command. -/
def LinkName.tail : LinkName → Text
  | href => "\\xspace".toList
  | lib => []

/-- The command of a link, and its destination before it is escaped. -/
def linkTarget (config : Config) (href : Text) : LinkName × Text :=
  let href := Link.dropAngles href
  let target := Link.decode href
  let page := Link.publish target
  if !isDocumentLink target then (.href, href)
  else if page.startsWith "../../".toList then (.lib, '/' :: lastTwoSegments page)
  else
    match Text.dropStart? "./".toList page with
    | some path => (.lib, '/' :: path)
    | none => (.href, absoluteUrl config target)

private theorem escapeUrl_slash (url : Text) : escapeUrl ('/' :: url) = '/' :: escapeUrl url := by
  rw [escapeUrl, List.flatMap_cons, show escapeUrlChar '/' = ['/'] from rfl]
  rfl

/-- A link is a command with its destination and its text, and what stands behind. -/
theorem renderLink_eq (config : Config) (text href : Text) :
    renderLink config text href =
      linkCommand (linkTarget config href).1.text (escapeUrl (linkTarget config href).2) text ++
        (linkTarget config href).1.tail := by
  unfold renderLink linkTarget
  dsimp only
  generalize Link.dropAngles href = href
  generalize Link.decode href = target
  generalize Link.publish target = page
  generalize "../../".toList = twoUp, "./".toList = here
  cases document : isDocumentLink target with
  | false => rfl
  | true =>
    by_cases up : page.startsWith twoUp = true
    · rw [Bool.not_true, if_neg Bool.false_ne_true, if_neg Bool.false_ne_true, if_pos up, if_pos up,
        escapeUrl_slash]
      exact (List.append_nil _).symm
    · rw [Bool.not_true, if_neg Bool.false_ne_true, if_neg Bool.false_ne_true, if_neg up, if_neg up]
      cases Text.dropStart? here page with
      | none => rfl
      | some path =>
        rw [escapeUrl_slash]
        exact (List.append_nil _).symm

/-! ## Reading links back -/

private theorem escapeUrl_cons_of_sign {c : Char} (sign : c = '%' ∨ c = '#') (url : Text) :
    escapeUrl (c :: url) = '\\' :: c :: escapeUrl url := by
  rw [escapeUrl, List.flatMap_cons, escapeUrlChar, if_pos (by simpa using sign)]
  rfl

private theorem escapeUrl_cons_of_plain {c : Char} (plain : ¬ (c = '%' ∨ c = '#')) (url : Text) :
    escapeUrl (c :: url) = c :: escapeUrl url := by
  rw [escapeUrl, List.flatMap_cons, escapeUrlChar, if_neg (by simpa using plain)]
  rfl

/-- No sign that is escaped stands in front of an escaped destination. -/
theorem escapeUrl_ne_cons {c : Char} (sign : c = '%' ∨ c = '#') (url rest : Text) :
    escapeUrl url ≠ c :: rest := by
  intro same
  cases url with
  | nil => cases same
  | cons d url =>
    by_cases other : d = '%' ∨ d = '#'
    · rw [escapeUrl_cons_of_sign other] at same
      obtain rfl := (List.cons.inj same).1
      exact absurd sign (by decide)
    · rw [escapeUrl_cons_of_plain other] at same
      exact other ((List.cons.inj same).1 ▸ sign)

/-- The destination that an escaped one was made from. -/
def unescapeUrl : Text → Text
  | '\\' :: '%' :: rest => '%' :: unescapeUrl rest
  | '\\' :: '#' :: rest => '#' :: unescapeUrl rest
  | c :: rest => c :: unescapeUrl rest
  | [] => []

private theorem unescapeUrl_escapeUrl (url : Text) : unescapeUrl (escapeUrl url) = url := by
  induction url with
  | nil => rfl
  | cons c url ih =>
    by_cases sign : c = '%' ∨ c = '#'
    · rw [escapeUrl_cons_of_sign sign]
      rcases sign with rfl | rfl <;> rw [unescapeUrl, ih]
    · rw [escapeUrl_cons_of_plain sign, unescapeUrl, ih]
      · exact fun rest _ => escapeUrl_ne_cons (.inl rfl) url rest
      · exact fun rest _ => escapeUrl_ne_cons (.inr rfl) url rest

/-- A destination can be told from how it is written. -/
theorem escapeUrl_injective : Function.Injective escapeUrl :=
  Function.LeftInverse.injective unescapeUrl_escapeUrl

/-- Where a path of the site begins: the library's own command has the address of the site in
its definition. -/
def LinkName.site (config : Config) : LinkName → Text
  | href => config.siteBaseUrl.dropEndWhile (· == '/')
  | lib => []

/-- The link with a command to an address. -/
def linkTo (text : Text) (name : LinkName) (address : Text) : Text :=
  linkCommand name.text (escapeUrl address) text ++ name.tail

/-- The command and the address of a link can be told from how it is written. -/
theorem eq_of_linkTo_eq {first second : LinkName} {text address other : Text}
    (same : linkTo text first address = linkTo text second other) :
    first = second ∧ address = other := by
  have opened (name : LinkName) (address : Text) : linkTo text name address =
      '\\' :: (name.text.toList ++ '\x7b' :: (escapeUrl address ++
        ('\x7d' :: '\x7b' :: (text ++ '\x7d' :: name.tail)))) := by
    simp [linkTo, linkCommand, command]
  rw [opened, opened, List.cons.injEq] at same
  cases first <;> cases second
  · refine ⟨rfl, escapeUrl_injective ?_⟩
    simpa [LinkName.text] using same.2
  · simp [LinkName.text] at same
  · simp [LinkName.text] at same
  · refine ⟨rfl, escapeUrl_injective ?_⟩
    simpa [LinkName.text] using same.2

/-! ## Parts of what is written -/

/-- A part of what is written for running text: the first argument of a link command, in
its command and braces, or any other part. -/
inductive Part where
  | written (text : Text)
  | destination (command : LinkName) (argument : Text)

/-- A part as it is written. -/
def Part.text : Part → Text
  | written text => text
  | destination name argument => command name.text.toList argument

namespace Span

/-- What is written before the inside of a span. -/
def opening (config : Config) : Span → List Part
  | .code _ => [.written "\\texttt\x7b".toList]
  | .bold _ => [.written "\\textbf\x7b".toList]
  | .italic _ => [.written "\\emph\x7b".toList]
  | .link _ href =>
    [.destination (linkTarget config href).1 (escapeUrl (linkTarget config href).2),
      .written ['\x7b']]

/-- What is written behind the inside of a span. -/
def closing (config : Config) : Span → Text
  | .link _ href => '\x7d' :: (linkTarget config href).1.tail
  | _ => ['\x7d']

end Span

/-- A span is its inside between what opens and what closes it. -/
theorem renderSpan_eq (config : Config) (span : Span) (inside : Text) :
    renderSpan config span inside =
      (span.opening config).flatMap Part.text ++ inside ++ span.closing config := by
  cases span with
  | code text => rfl
  | bold text => rfl
  | italic text => rfl
  | link text href =>
    rw [renderSpan, renderLink_eq]
    simp only [linkCommand, Span.opening, Span.closing, List.flatMap_cons, List.flatMap_nil,
      Part.text, List.append_nil, List.append_assoc, List.cons_append, List.nil_append]

/-- The parts of what is written for running text. -/
def Running.parts (config : Config) : Running → List Part
  | .plain stretch => [.written (escape stretch)]
  | .code before inside behind =>
    .written (escape before) :: Span.opening config (.code inside) ++
      .written (escape inside) :: .written (Span.closing config (.code inside)) ::
        parts config behind
  | .marked before span inside behind =>
    .written (escape before) :: span.opening config ++ parts config inside ++
      .written (span.closing config) :: parts config behind

/-- The parts make up what is written. -/
theorem Running.flatMap_text_parts (config : Config) (running : Running) :
    (running.parts config).flatMap Part.text = running.render config := by
  induction running with
  | plain stretch => exact List.append_nil _
  | code before inside behind ih =>
    simp only [Running.parts, Running.render, List.flatMap_append, List.flatMap_cons, ih,
      renderSpan_eq, Part.text, List.append_assoc, List.cons_append]
  | marked before span inside behind inner ih =>
    simp only [Running.parts, Running.render, List.flatMap_append, List.flatMap_cons, inner, ih,
      renderSpan_eq, Part.text, List.append_assoc, List.cons_append]

end Scriptorium.Latex
