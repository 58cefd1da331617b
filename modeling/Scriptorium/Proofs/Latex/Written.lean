import Scriptorium.Latex.Repair
import Scriptorium.Proofs.Contents
import Scriptorium.Proofs.Latex.LinkCommand
import Scriptorium.Proofs.Link.Segments
import Scriptorium.Proofs.Name
/-! # The marks in what is written for running text

Escaping and the commands around it leave marks alone (`Latex.marks_escape`,
`Latex.marks_command`). So what is written for running text holds the marks of its
fragments, and perhaps those of the destinations of its links (`Latex.setAs_inline`); a
link to a document is written in small letters, which lose them.
-/

namespace Scriptorium.Latex

variable {config : Config} {s name argument : Text}

/-! ## Commands -/

/-- A command holds the marks of its argument. -/
theorem marks_command (plain : '-' ∉ name) (argument : Text) :
    marks (command name argument) = marks argument := by
  rw [command, marks_concat (by decide), marks_append_cons (by decide),
    marks_cons Mark.isMarkChar_backslash, marks_of_no_hyphen plain, List.nil_append]

/-- No mark reaches into a command from either side. -/
theorem delimited_command (name argument : Text) :
    Mark.lexicon.Delimited (command name argument) :=
  Mark.delimited (d := '\x7d') Mark.isMarkChar_backslash (by decide) rfl (List.getLast?_concat ..)

/-- The opening of an environment holds no mark, if its name does not. -/
theorem marks_openEnvironment {name : String} (plain : '-' ∉ name.toList) :
    marks (openEnvironment name) = [] :=
  (marks_command (by decide) name.toList).trans (marks_of_no_hyphen plain)

/-- The closing of an environment holds no mark, if its name does not. -/
theorem marks_closeEnvironment {name : String} (plain : '-' ∉ name.toList) :
    marks (closeEnvironment name) = [] :=
  (marks_command (by decide) name.toList).trans (marks_of_no_hyphen plain)

/-! ## Escaping -/

/-- A sign, of which no mark is made, may be written as a command. -/
theorem named_sign {c : Char} (other : isMarkChar c = false) (name : Text) (plain : '-' ∉ name) :
    Mark.lexicon.Separates c ∧ Mark.lexicon.Delimited (command name []) ∧
      marks (command name []) = [] :=
  ⟨Mark.separates other, delimited_command name [], (marks_command plain []).trans marks_nil⟩

/-- A sign, of which no mark is made, may be written behind a backslash. -/
theorem escaped_sign {c : Char} (other : isMarkChar c = false) :
    Mark.lexicon.Separates c ∧ Mark.lexicon.Delimited ['\\', c] ∧ marks ['\\', c] = [] := by
  refine ⟨Mark.separates other, Mark.delimited Mark.isMarkChar_backslash other rfl rfl, ?_⟩
  rw [marks_cons Mark.isMarkChar_backslash, marks_cons other, marks_nil]

/-- A character is written as itself, or as a sequence that keeps marks apart and holds none. -/
theorem escapeChar_cases (c : Char) : escapeChar c = [c] ∨ Mark.lexicon.Separates c ∧
    Mark.lexicon.Delimited (escapeChar c) ∧ marks (escapeChar c) = [] := by
  unfold escapeChar
  split
  · rename_i backslash
    subst backslash
    exact .inr (named_sign Mark.isMarkChar_backslash "textbackslash".toList (by decide))
  · split
    · rename_i tilde
      subst tilde
      exact .inr (named_sign (by decide) "textasciitilde".toList (by decide))
    · split
      · rename_i caret
        subst caret
        exact .inr (named_sign (by decide) "textasciicircum".toList (by decide))
      · split
        · rename_i sign
          have signs : ("\x7b\x7d$&#_%".toList.all fun c => !isMarkChar c) = true := by decide
          have other := List.all_eq_true.mp signs c (List.contains_iff_mem.mp sign)
          rw [Bool.not_eq_true'] at other
          exact .inr (escaped_sign other)
        · exact .inl rfl

private theorem marks_escapeLine (line : Text) : marks (escapeLine line) = marks line := by
  unfold escapeLine
  split
  · rfl
  · exact Lexicon.words_flatMap_eq escapeChar_cases line

@[simp]
theorem marks_escape (s : Text) : marks (escape s) = marks s := by
  unfold escape
  split
  · rfl
  · rw [marks_join_char Mark.isMarkChar_newline, List.flatMap_map,
      ← flatMap_marks_splitOn Mark.isMarkChar_newline s]
    simp only [marks_escapeLine]

@[simp]
theorem marks_escapeUrl (url : Text) : marks (escapeUrl url) = marks url := by
  refine Lexicon.words_flatMap_eq (fun c => ?_) url
  unfold escapeUrlChar
  split
  · rename_i sign
    simp only [Bool.or_eq_true, decide_eq_true_eq] at sign
    have other : isMarkChar c = false := by
      rcases sign with rfl | rfl <;> decide
    exact .inr (escaped_sign other)
  · exact .inl rfl

/-! ## Destinations -/

/-- Parts of a path without marks make up a path without marks. -/
theorem marks_join_eq_nil {parts : List Text} (within : parts ⊆ s.splitOn '/')
    (none : marks s = []) : marks (Text.join ['/'] parts) = [] := by
  have slash : isMarkChar '/' = false := by decide
  rw [marks_join_char slash]
  rw [← flatMap_marks_splitOn slash s] at none
  exact List.flatMap_eq_nil_iff.mpr fun part member =>
    List.flatMap_eq_nil_iff.mp none part (within member)

private theorem not_capital_publishSegments (segments : List Text) :
    ∀ segment ∈ Link.publishSegments segments, 'E' ∉ segment := by
  refine Link.forall_mem_publishSegments (by decide) Name.not_capital_publish (fun name => ?_) _
  intro member
  rcases List.mem_append.mp member with held | extension
  · exact Name.not_capital_publish name held
  · exact absurd extension (by decide)

/-- The published form of a link to a document holds no mark. -/
theorem marks_publish {target : Text} (document : isDocumentLink target = true) :
    marks (Link.publish target) = [] := by
  simp only [isDocumentLink, Bool.and_eq_true] at document
  obtain ⟨stem, named⟩ := List.isSuffixOf_iff_suffix.mp document.1
  apply marks_of_no_capital
  have segments : ∀ stem : Text,
      'E' ∉ Text.join ['/'] (Link.publishSegments (stem.splitOn '/')) := fun stem =>
    Text.not_mem_join (by decide) (not_capital_publishSegments _)
  unfold Link.publish
  cases whole : Link.splitAnchor target with
  | mk path anchor =>
    rw [whole] at named
    dsimp only at named ⊢
    rw [← named, Text.dropEnd?_append]
    dsimp only
    cases anchor with
    | none => exact segments stem
    | some anchor =>
      intro member
      rcases List.mem_append.mp member with page | member
      · exact segments stem page
      · rcases List.mem_cons.mp member with sign | member
        · cases sign
        · exact Anchor.not_capital_ofText anchor member

/-- The address of a document holds no mark. -/
theorem marks_absoluteUrl {target : Text} (site : marks config.siteBaseUrl = [])
    (document : isDocumentLink target = true) : marks (absoluteUrl config target) = [] := by
  have slash : ∀ c, (c == '/') = true → isMarkChar c = false :=
    fun c => Mark.isMarkChar_of_beq (by decide)
  have path : marks (sitePath target) = [] := by
    apply marks_join_eq_nil (List.dropWhile_suffix _).subset
    rw [marks_dropWhile slash, marks_publish document]
  have base : marks (config.siteBaseUrl.dropEndWhile (· == '/')) = [] := by
    rw [← site]
    exact Lexicon.words_dropEndWhile (fun c same => Mark.separates (slash c same)) _
  rw [absoluteUrl, if_pos document, marks_append_cons (by decide), base, path, List.nil_append]

/-- Angle brackets are no part of marks. -/
theorem marks_dropAngles (href : Text) : marks (Link.dropAngles href) = marks href := by
  unfold Link.dropAngles
  cases opened : Text.dropStart? ['<'] href with
  | none => rfl
  | some inside =>
    cases closed : Text.dropEnd? ['>'] inside with
    | none => rw [Option.bind_some, closed]; rfl
    | some body =>
      rw [Option.bind_some, closed, Option.getD_some, Text.dropStart?_eq_some_iff.mp opened,
        Text.eq_of_dropEnd?_eq_some closed, List.singleton_append, marks_cons (by decide),
        marks_concat (by decide)]

/-- The destination that is written for a link holds the marks of the link, or none. -/
theorem marks_linkTarget (site : marks config.siteBaseUrl = []) (href : Text) :
    marks (linkTarget config href).2 = marks href ∨ marks (linkTarget config href).2 = [] := by
  unfold linkTarget
  dsimp only
  generalize "../../".toList = twoUp, "./".toList = here
  by_cases document : isDocumentLink (Link.decode (Link.dropAngles href)) = true
  · right
    have page := marks_publish document
    rw [document, Bool.not_true, if_neg Bool.false_ne_true]
    split
    · rw [marks_cons (by decide)]
      exact marks_join_eq_nil (List.drop_suffix _ _).subset page
    · split
      · rename_i path below
        rw [Text.dropStart?_eq_some_iff.mp below] at page
        rw [marks_cons (by decide)]
        exact marks_eq_nil_of_within (List.suffix_append here path).isInfix page
      · exact marks_absoluteUrl site document
  · left
    rw [Bool.eq_false_iff.mpr document, Bool.not_false, if_pos rfl]
    exact marks_dropAngles href

/-! ## Running text -/

/-- The destination that a span leads to, if it is a link. -/
def Span.destinations : Span → List Text
  | .link _ destination => [destination]
  | _ => []

/-- The destinations of the links in running text. -/
def Running.destinations : Running → List Text
  | .plain _ => []
  | .code _ _ behind => destinations behind
  | .marked _ span inside behind =>
    span.destinations ++ destinations inside ++ destinations behind

/-- What running text consists of. -/
def Running.contents (running : Running) : Contents :=
  ⟨running.fragments, running.destinations⟩

private theorem Span.delimited_opening (config : Config) (span : Span) :
    Mark.lexicon.Delimited ((span.opening config).flatMap Part.text) := by
  cases span with
  | code | bold | italic =>
    exact Mark.delimited (d := '\x7b') Mark.isMarkChar_backslash (by decide) rfl rfl
  | link text href =>
    apply Mark.delimited (d := '\x7b') Mark.isMarkChar_backslash (by decide) rfl
    simp only [Span.opening, List.flatMap_cons, Part.text, List.flatMap_nil, List.append_nil,
      List.getLast?_concat]

/-- What opens a span holds marks of its destination only. -/
theorem Span.count_opening (site : marks config.siteBaseUrl = []) (span : Span) (mark : Mark) :
    (marks ((span.opening config).flatMap Part.text)).count mark ≤
      tally mark span.destinations := by
  cases span with
  | code | bold | italic =>
    exact Nat.le_of_eq (congrArg (List.count mark) (marks_of_no_hyphen (by
      simp only [Span.opening, List.flatMap_singleton, Part.text]
      decide)))
  | link text href =>
    have name : '-' ∉ (linkTarget config href).1.text.toList := by
      cases (linkTarget config href).1 <;> decide
    simp only [Span.opening, Span.destinations, List.flatMap_cons, List.flatMap_nil, Part.text,
      List.append_nil, tally_singleton, marks_concat (show isMarkChar '\x7b' = false by decide),
      marks_command name, marks_escapeUrl]
    rcases marks_linkTarget site href with same | none
    · exact Nat.le_of_eq (congrArg (List.count mark) same)
    · rw [none]
      exact Nat.zero_le _

/-- No mark reaches into what closes a span or out of it. -/
theorem Span.marks_closing (config : Config) (span : Span) (inside behind : Text) :
    marks (inside ++ (span.closing config ++ behind)) = marks inside ++ marks behind := by
  have brace : isMarkChar '\x7d' = false := by decide
  have tail : ∀ name : LinkName, marks (name.tail ++ behind) = marks behind := by
    intro name
    cases name with
    | lib => rfl
    | href => exact marks_append_of_no_start (by decide) (by decide) behind
  cases span with
  | code | bold | italic => exact marks_append_cons brace inside behind
  | link text href =>
    rw [Span.closing, List.cons_append, marks_append_cons brace, tail]

private theorem marks_renderSpan (config : Config) (span : Span) (front inside behind : Text) :
    marks (front ++ renderSpan config span inside ++ behind) = marks front ++
      (marks ((span.opening config).flatMap Part.text) ++ (marks inside ++ marks behind)) := by
  rw [renderSpan_eq, List.append_assoc, List.append_assoc, List.append_assoc,
    marks_between (span.delimited_opening config), span.marks_closing config]

/-- What is written for running text holds the marks of its fragments, and beside them
marks of its destinations only. -/
theorem Running.setAs_render (site : marks config.siteBaseUrl = []) (running : Running) :
    running.contents.SetAs [running.render config] := by
  intro mark
  induction running with
  | plain stretch =>
    simp only [contents, Contents.total, fragments, destinations, render, tally_singleton,
      marks_escape, tally_nil]
    omega
  | code before inside behind ih =>
    have opening := Span.count_opening site (.code inside) mark
    simp only [Span.destinations, tally_nil] at opening
    simp only [contents, Contents.total, fragments, destinations, render, tally_cons, tally_nil,
      marks_renderSpan, marks_escape, List.count_append] at ih ⊢
    omega
  | marked before span inside behind inner ih =>
    have opening := Span.count_opening site span mark
    simp only [contents, Contents.total, fragments, destinations, render, tally_cons, tally_nil,
      tally_append, marks_renderSpan, marks_escape, List.count_append] at inner ih ⊢
    omega

/-- A span marks what it holds, and what its destinations mark. -/
theorem Span.marks_source (span : Span) :
    marks span.source = marks span.inner ++ span.destinations.flatMap marks := by
  cases span with
  | code text =>
    rw [Span.source, marks_concat (by decide), marks_cons (by decide)]
    exact (List.append_nil _).symm
  | bold text =>
    rw [Span.source, marks_append_cons (by decide), marks_cons (by decide), marks_cons (by decide),
      marks_cons (by decide), marks_nil]
    rfl
  | italic text =>
    rw [Span.source, marks_concat (by decide), marks_cons (by decide)]
    exact (List.append_nil _).symm
  | link text destination =>
    rw [Span.source, marks_concat (by decide), marks_append_cons (by decide),
      marks_cons (by decide), marks_cons (by decide), Span.destinations, List.flatMap_singleton]
    rfl

/-- No mark reaches into a span. -/
theorem Span.delimited_source (span : Span) : Mark.lexicon.Delimited span.source := by
  cases span with
  | code text =>
    exact Mark.delimited (c := '\x60') (d := '\x60') (by decide) (by decide) rfl
      (List.getLast?_concat ..)
  | bold text =>
    apply Mark.delimited (c := '*') (d := '*') (by decide) (by decide) rfl
    rw [Span.source, List.getLast?_append]
    rfl
  | italic text =>
    exact Mark.delimited (c := '*') (d := '*') (by decide) (by decide) rfl
      (List.getLast?_concat ..)
  | link text destination =>
    exact Mark.delimited (c := '[') (d := ')') (by decide) (by decide) rfl
      (List.getLast?_concat ..)

/-- Running text holds the marks of its fragments and of its destinations. -/
theorem Running.spells_source {running : Running} (faithful : running.Faithful) :
    running.contents.Spells [running.source] := by
  intro mark
  induction running with
  | plain stretch => rfl
  | code before inside behind ih =>
    have later := ih faithful
    simp only [contents, Contents.total, fragments, destinations, source, List.append_assoc,
      marks_between (Span.delimited_source (.code inside)), Span.marks_source, Span.inner,
      Span.destinations, List.flatMap_nil, tally_cons, tally_nil, List.count_append,
      List.count_nil] at later ⊢
    omega
  | marked before span inside behind inner ih =>
    obtain ⟨same, deeper, faithful⟩ := faithful
    have now := inner deeper
    have later := ih faithful
    have target : (span.destinations.flatMap marks).count mark = tally mark span.destinations := rfl
    simp only [contents, Contents.total, fragments, destinations, source, List.append_assoc,
      marks_between span.delimited_source, span.marks_source, same, tally_cons, tally_nil,
      tally_append, List.count_append, target] at now later ⊢
    omega

/-! ## Running text as it stands in a document -/

/-- What a running text consists of. -/
def contents (s : Text) : Contents :=
  (read s).contents

/-- Running text is set as it is in LaTeX. -/
theorem setAs_inline (site : marks config.siteBaseUrl = []) (s : Text) :
    (contents s).SetAs [inline config s] := by
  rw [inline_eq_render]
  exact (read s).setAs_render site

/-- The contents of running text spell it. -/
theorem spells_contents (s : Text) : (contents s).Spells [s] := by
  have spells := Running.spells_source (faithful_read s)
  rwa [source_read] at spells

end Scriptorium.Latex
