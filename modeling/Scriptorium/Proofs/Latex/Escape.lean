import Scriptorium.Proofs.Latex.LinkCommand
import Scriptorium.Proofs.Text.Split
/-! # Which characters are escaped

A character is escaped where a backslash stands right before it (`Latex.IsEscaped`). Each
stretch of running text is escaped on its own, so a stretch that starts with a percent
sign passes for a comment line wherever it stands in its line. The reserved characters of
running text without backslashes are all escaped exactly when that happens nowhere
(`Latex.escapesAll_iff`).
-/

namespace Scriptorium.Latex

/-- A backslash stands right before every character of a class. -/
def IsEscaped (reserved : Char → Bool) (s : Text) : Prop :=
  ∀ front c behind, s = front ++ c :: behind → reserved c = true → front.getLast? = some '\\'

/-- The sign that makes comments. -/
def isPercent (c : Char) : Bool :=
  c == '%'

/-- The other signs that are escaped outside of destinations. -/
def isSign (c : Char) : Bool :=
  c == '$' || c == '&' || c == '#' || c == '_'

/-- The signs that are escaped, of either sort. -/
def isReserved (c : Char) : Bool :=
  isPercent c || isSign c

variable {reserved : Char → Bool} {s front behind : Text} {config : Config}

/-! ## Escaped texts -/

private theorem isEscaped_of_none (none : s.any reserved = false) : IsEscaped reserved s := by
  rintro front c behind rfl isReserved
  have absent := List.any_eq_false.mp none c (List.mem_append_right front List.mem_cons_self)
  exact absurd isReserved absent

/-- What is escaped from many characters is escaped from fewer of them. -/
theorem IsEscaped.mono {fewer : Char → Bool} (escaped : IsEscaped reserved s)
    (subset : ∀ c, fewer c = true → reserved c = true) : IsEscaped fewer s :=
  fun front c behind whole isFewer => escaped front c behind whole (subset c isFewer)

/-- What is escaped from all reserved characters is escaped from the percent sign. -/
theorem IsEscaped.percent (escaped : IsEscaped isReserved s) : IsEscaped isPercent s :=
  escaped.mono fun c isPercent => by rw [isReserved, isPercent, Bool.true_or]

/-- What is escaped from all reserved characters is escaped from the other signs. -/
theorem IsEscaped.sign (escaped : IsEscaped isReserved s) : IsEscaped isSign s :=
  escaped.mono fun c isSign => by rw [isReserved, isSign, Bool.or_true]

/-- The empty text is escaped. -/
theorem isEscaped_nil : IsEscaped reserved [] :=
  isEscaped_of_none rfl

/-- Two escaped texts are escaped one behind the other. -/
theorem IsEscaped.append (first : IsEscaped reserved front) (second : IsEscaped reserved behind) :
    IsEscaped reserved (front ++ behind) := by
  intro lead c rest whole isReserved
  rcases Text.cases_of_append_eq_append_cons whole with ⟨part, early, -⟩ | ⟨part, rfl, later⟩
  · exact first lead c part early isReserved
  · have last := second part c rest later isReserved
    rw [List.getLast?_append, last]
    rfl

/-- The front of an escaped text is escaped on its own. -/
theorem IsEscaped.left (whole : IsEscaped reserved (front ++ behind)) :
    IsEscaped reserved front := by
  rintro lead c rest rfl isReserved
  exact whole lead c (rest ++ behind) (by simp) isReserved

/-- What stands behind another character than a backslash is escaped on its own. -/
theorem IsEscaped.right (whole : IsEscaped reserved (front ++ behind))
    (ends : front.getLast? ≠ some '\\') : IsEscaped reserved behind := by
  rintro lead c rest rfl isReserved
  have last := whole (front ++ lead) c rest (by simp) isReserved
  cases lead with
  | nil => exact absurd (List.append_nil front ▸ last) ends
  | cons d lead =>
    rw [List.getLast?_append] at last
    cases found : (d :: lead).getLast? with
    | none => simp at found
    | some e => rwa [found] at last

private theorem isEscaped_flatMap {α : Type} {write : α → Text} {parts : List α}
    (each : ∀ part ∈ parts, IsEscaped reserved (write part)) :
    IsEscaped reserved (parts.flatMap write) := by
  induction parts with
  | nil => exact isEscaped_nil
  | cons part parts ih =>
    rw [List.flatMap_cons]
    exact (each part List.mem_cons_self).append
      (ih fun other member => each other (List.mem_cons_of_mem part member))

/-- Lines are escaped together exactly when each of them is. -/
theorem isEscaped_join_iff {lines : List Text} (newline : reserved '\n' = false) :
    IsEscaped reserved (Text.join ['\n'] lines) ↔ ∀ line ∈ lines, IsEscaped reserved line := by
  unfold Text.join
  induction lines with
  | nil => exact ⟨fun _ _ member => absurd member List.not_mem_nil, fun _ => isEscaped_nil⟩
  | cons line lines ih =>
    cases lines with
    | nil => simp
    | cons next lines =>
      have single : IsEscaped reserved ['\n'] :=
        isEscaped_of_none (by simp [newline])
      rw [List.intercalate_cons_cons, List.forall_mem_cons, ← ih]
      constructor
      · refine fun whole => ⟨whole.left.left, whole.right ?_⟩
        rw [List.getLast?_concat]
        decide
      · exact fun ⟨first, later⟩ => (first.append single).append later

/-! ## Escaping -/

/-- Every command of a span has a backslash. -/
theorem hasSpanCommand_of_not_mem (clean : '\\' ∉ s) : hasSpanCommand s = false := by
  have opened : ∀ opening ∈ spanCommands, '\\' ∈ opening := by decide
  apply List.any_eq_false.mpr
  intro opening member occurs
  obtain ⟨⟨before, after⟩, cut⟩ := Option.isSome_iff_exists.mp occurs
  rw [Text.eq_of_cut?_eq_some cut] at clean
  exact clean (List.mem_append_left after (List.mem_append_right before (opened opening member)))

/-- Text without backslashes is escaped line by line. -/
theorem escape_eq_join (clean : '\\' ∉ s) :
    escape s = Text.join ['\n'] ((s.splitOn '\n').map escapeLine) := by
  rw [escape, hasSpanCommand_of_not_mem clean]
  rfl

/-- The characters that are written behind a backslash. -/
theorem signs_eq : "\x7b\x7d$&#_%".toList = ['\x7b', '\x7d', '$', '&', '#', '_', '%'] :=
  rfl

/-- What is written for a character is escaped. -/
theorem isEscaped_escapeChar (c : Char) :
    IsEscaped isReserved (escapeChar c) := by
  unfold escapeChar
  rw [signs_eq]
  split
  · exact isEscaped_of_none (by decide)
  · split
    · exact isEscaped_of_none (by decide)
    · split
      · exact isEscaped_of_none (by decide)
      · split
        · rename_i listed
          have backslash : IsEscaped isReserved ['\\'] :=
            isEscaped_of_none (by decide)
          intro front d behind whole isReserved
          rcases List.cons_eq_append_iff.mp whole with ⟨rfl, same⟩ | ⟨front, rfl, same⟩
          · cases same
            exact absurd isReserved (by decide)
          · cases front with
            | nil => rfl
            | cons e front => simp at same
        · rename_i plain
          apply isEscaped_of_none
          simp only [List.contains_eq_mem, List.mem_cons, decide_eq_true_eq, not_or] at plain
          simp [isReserved, isPercent, isSign, plain]

/-- A line that is no comment has its reserved characters escaped. -/
theorem isEscaped_escapeLine {line : Text} (plain : Line.isComment line = false) :
    IsEscaped isReserved (escapeLine line) := by
  rw [escapeLine, plain]
  exact isEscaped_flatMap fun c _ => isEscaped_escapeChar c

/-- A comment line starts with a sign that is not escaped. -/
theorem not_isEscaped_of_isComment {line : Text} (comment : Line.isComment line = true) :
    ¬ IsEscaped isPercent (escapeLine line) := by
  intro escaped
  rw [escapeLine, comment, if_pos rfl] at escaped
  obtain ⟨rest, trimmed⟩ : ∃ rest, line.dropWhile isBlank = '%' :: rest := by
    unfold Line.isComment Text.trimStart at comment
    cases behind : line.dropWhile isBlank with
    | nil => rw [behind] at comment; cases comment
    | cons c rest =>
      rw [behind] at comment
      exact ⟨rest, by simpa using comment⟩
  have split : line = line.takeWhile isBlank ++ '%' :: rest := by
    rw [← trimmed, List.takeWhile_append_dropWhile]
  have last := escaped _ _ _ split rfl
  have blank := List.all_eq_true.mp List.all_takeWhile _ (List.mem_of_getLast? last)
  exact absurd blank (by decide)

private theorem isEscaped_escape (clean : '\\' ∉ s)
    (plain : ∀ line ∈ s.splitOn '\n', Line.isComment line = false) :
    IsEscaped isReserved (escape s) := by
  rw [escape_eq_join clean, isEscaped_join_iff rfl]
  intro line member
  obtain ⟨source, listed, rfl⟩ := List.mem_map.mp member
  exact isEscaped_escapeLine (plain source listed)

/-- A stretch has its percent signs escaped exactly when none of its lines is a comment. -/
theorem isEscaped_percent_escape_iff (clean : '\\' ∉ s) :
    IsEscaped isPercent (escape s) ↔ ∀ line ∈ s.splitOn '\n', Line.isComment line = false := by
  rw [escape_eq_join clean, isEscaped_join_iff rfl, List.forall_mem_map]
  refine forall₂_congr fun line _ => ⟨fun escaped => ?_, fun plain => ?_⟩
  · exact Bool.eq_false_iff.mpr fun comment => not_isEscaped_of_isComment comment escaped
  · exact (isEscaped_escapeLine plain).percent

/-- In a destination percent signs are escaped, whatever it is. -/
theorem isEscaped_escapeUrl (url : Text) : IsEscaped isPercent (escapeUrl url) := by
  apply isEscaped_flatMap
  intro c _
  unfold escapeUrlChar
  split
  · intro front d behind whole isPercent
    rcases List.cons_eq_append_iff.mp whole with ⟨rfl, same⟩ | ⟨front, rfl, same⟩
    · cases same
      exact absurd isPercent (by decide)
    · cases front with
      | nil => rfl
      | cons e front => simp at same
  · rename_i plain
    apply isEscaped_of_none
    simp only [Bool.or_eq_true, decide_eq_true_eq, not_or] at plain
    simp [isPercent, plain.1]

/-! ## Escaping of running text -/

/-- The percent signs of a part are escaped, and other signs unless the part is a
destination. -/
def Part.IsComplete : Part → Prop
  | .written text => IsEscaped isReserved text
  | .destination name argument => IsEscaped isPercent (command name.text.toList argument)

/-- A stretch without comment lines. -/
def IsPlain (fragment : Text) : Prop :=
  ∀ line ∈ fragment.splitOn '\n', Line.isComment line = false

instance : DecidablePred IsPlain :=
  fun fragment => inferInstanceAs (Decidable (∀ line ∈ fragment.splitOn '\n', _))

/-- The percent signs of a complete part are escaped. -/
theorem Part.IsComplete.percent {part : Part} (complete : part.IsComplete) :
    IsEscaped isPercent part.text := by
  cases part with
  | written text => exact IsEscaped.percent complete
  | destination name argument => exact complete

private theorem isComplete_of_none {text : Text} (none : text.any isReserved = false) :
    (Part.written text).IsComplete :=
  isEscaped_of_none none

/-- What stands in front of a span is complete. -/
theorem Span.isComplete_opening (config : Config) (span : Span) :
    ∀ part ∈ span.opening config, part.IsComplete := by
  intro part member
  cases span with
  | code text => exact List.mem_singleton.mp member ▸ isComplete_of_none (by decide)
  | bold text => exact List.mem_singleton.mp member ▸ isComplete_of_none (by decide)
  | italic text => exact List.mem_singleton.mp member ▸ isComplete_of_none (by decide)
  | link text href =>
    rcases List.mem_cons.mp member with rfl | member
    · have name :
          IsEscaped isPercent ('\\' :: (linkTarget config href).1.text.toList ++ ['\x7b']) := by
        cases (linkTarget config href).1 <;> exact isEscaped_of_none (by decide)
      have close : IsEscaped isPercent ['\x7d'] := isEscaped_of_none (by decide)
      have whole := (name.append (isEscaped_escapeUrl (linkTarget config href).2)).append close
      simpa only [Part.IsComplete, command, List.append_assoc, List.cons_append,
        List.nil_append] using whole
    · exact List.mem_singleton.mp member ▸ isComplete_of_none (by decide)

/-- A span is closed by a brace, and a link perhaps by a space too. -/
theorem Span.closing_cases (config : Config) (span : Span) :
    span.closing config = ['\x7d'] ∨ span.closing config = '\x7d' :: LinkName.href.tail := by
  cases span with
  | code text => exact .inl rfl
  | bold text => exact .inl rfl
  | italic text => exact .inl rfl
  | link text href =>
    rw [Span.closing]
    cases (linkTarget config href).1 with
    | href => exact .inr rfl
    | lib => exact .inl rfl

private theorem Span.isComplete_closing (config : Config) (span : Span) :
    (Part.written (span.closing config)).IsComplete := by
  rcases span.closing_cases config with same | same <;> rw [same] <;>
    exact isComplete_of_none (by decide)

/-- Where no stretch has a comment line every part is escaped. -/
theorem Running.isComplete_parts (config : Config) {running : Running}
    (clean : ∀ fragment ∈ running.fragments, '\\' ∉ fragment)
    (plain : ∀ fragment ∈ running.fragments, IsPlain fragment) :
    ∀ part ∈ running.parts config, part.IsComplete := by
  induction running with
  | plain stretch =>
    intro part member
    rw [List.mem_singleton.mp member]
    have listed : stretch ∈ (Running.plain stretch).fragments := List.mem_singleton.mpr rfl
    exact isEscaped_escape (clean stretch listed) (plain stretch listed)
  | code before inside behind ih =>
    simp only [Running.fragments, List.forall_mem_cons] at clean plain
    have later := ih clean.2.2 plain.2.2
    simp only [Running.parts, List.forall_mem_append, List.forall_mem_cons]
    exact ⟨⟨isEscaped_escape clean.1 plain.1, Span.isComplete_opening config _⟩,
      isEscaped_escape clean.2.1 plain.2.1, Span.isComplete_closing config _, later⟩
  | marked before span inside behind inner ih =>
    simp only [Running.fragments, List.forall_mem_append, List.forall_mem_cons] at clean plain
    have within := inner clean.1.2 plain.1.2
    have later := ih clean.2 plain.2
    simp only [Running.parts, List.forall_mem_append, List.forall_mem_cons]
    exact ⟨⟨⟨isEscaped_escape clean.1.1 plain.1.1, span.isComplete_opening config⟩, within⟩,
      span.isComplete_closing config, later⟩

/-- What opens a span ends with a brace. -/
theorem Span.opening_eq_concat (config : Config) (span : Span) :
    ∃ lead, (span.opening config).flatMap Part.text = lead ++ ['\x7b'] := by
  cases span with
  | code text => exact ⟨"\\texttt".toList, rfl⟩
  | bold text => exact ⟨"\\textbf".toList, rfl⟩
  | italic text => exact ⟨"\\emph".toList, rfl⟩
  | link text href =>
    exact ⟨(Part.destination _ _).text, by
      rw [Span.opening, List.flatMap_cons, List.flatMap_singleton]
      rfl⟩

/-- What is written behind the opening of a span is escaped on its own. -/
theorem IsEscaped.inSpan {span : Span} {inside : Text}
    (escaped : IsEscaped reserved (front ++ renderSpan config span inside)) :
    IsEscaped reserved inside := by
  obtain ⟨lead, opened⟩ := span.opening_eq_concat config
  rw [renderSpan_eq, opened, ← List.append_assoc, ← List.append_assoc] at escaped
  apply escaped.left.right
  rw [← List.append_assoc, List.getLast?_concat]
  decide

/-- What is written behind a span is escaped on its own. -/
theorem IsEscaped.afterSpan {span : Span} {inside : Text}
    (escaped : IsEscaped reserved (front ++ renderSpan config span inside ++ behind)) :
    IsEscaped reserved behind := by
  apply escaped.right
  rw [renderSpan_eq, ← List.append_assoc, List.getLast?_append]
  rcases span.closing_cases config with same | same <;> rw [same]
  · rw [show ['\x7d'].getLast? = some '\x7d' from rfl, Option.some_or]
    decide
  · rw [show ('\x7d' :: LinkName.href.tail).getLast? = some 'e' from rfl, Option.some_or]
    decide

/-- Where every percent sign is escaped no stretch has a comment line. -/
theorem Running.isPlain_of_isEscaped {running : Running}
    (clean : ∀ fragment ∈ running.fragments, '\\' ∉ fragment)
    (escaped : IsEscaped isPercent (running.render config)) :
    ∀ fragment ∈ running.fragments, IsPlain fragment := by
  induction running with
  | plain stretch =>
    have listed : stretch ∈ (Running.plain stretch).fragments := List.mem_singleton.mpr rfl
    intro fragment member
    rw [List.mem_singleton.mp member]
    exact (isEscaped_percent_escape_iff (clean stretch listed)).mp escaped
  | code before inside behind ih =>
    simp only [Running.fragments, List.forall_mem_cons] at clean ⊢
    exact ⟨(isEscaped_percent_escape_iff clean.1).mp escaped.left.left,
      (isEscaped_percent_escape_iff clean.2.1).mp escaped.left.inSpan,
      ih clean.2.2 escaped.afterSpan⟩
  | marked before span inside behind inner ih =>
    simp only [Running.fragments, List.forall_mem_append, List.forall_mem_cons] at clean ⊢
    exact ⟨⟨(isEscaped_percent_escape_iff clean.1.1).mp escaped.left.left,
      inner clean.1.2 escaped.left.inSpan⟩, ih clean.2 escaped.afterSpan⟩

/-- What is written for a text has its percent signs escaped, and its other reserved
signs outside of the destinations of links. -/
structure EscapesAll (config : Config) (s : Text) : Prop where
  percent : IsEscaped isPercent (inline config s)
  sign : ∀ text, .written text ∈ (read s).parts config → IsEscaped isSign text

/-- **Where escaping is complete.** For a text without backslashes the reserved signs are
escaped exactly when no stretch between, behind or inside of its spans has a line that
starts with a percent sign. -/
theorem escapesAll_iff (config : Config) (clean : '\\' ∉ s) :
    EscapesAll config s ↔ ∀ fragment ∈ (read s).fragments, IsPlain fragment := by
  have within : ∀ fragment ∈ (read s).fragments, '\\' ∉ fragment :=
    fun fragment member held => clean ((infix_of_mem_fragments member).subset held)
  constructor
  · intro complete
    have escaped := complete.percent
    rw [inline_eq_render] at escaped
    exact Running.isPlain_of_isEscaped within escaped
  · intro plain
    have complete := Running.isComplete_parts config within plain
    refine ⟨?_, fun text member => IsEscaped.sign (complete (.written text) member)⟩
    rw [inline_eq_render, ← Running.flatMap_text_parts]
    exact isEscaped_flatMap fun part member => (complete part member).percent

/-- A text with code in bold type, and a link in italic type. -/
theorem escapesAll_nestedSpans :
    EscapesAll Config.standard
      "50% of **a_b & \x60x#y% z\x60** cost *$5 [or_so](a_b.html?x&y#50%)*".toList :=
  (escapesAll_iff Config.standard (by decide)).mpr (by decide +kernel)

/-- A percent sign behind a span passes for a comment. -/
theorem not_escapesAll_percentBehindSpan :
    '\\' ∉ "*a*% b".toList ∧
      (∀ line ∈ Text.splitOn '\n' "*a*% b".toList, Line.isComment line = false) ∧
      inline Config.standard "*a*% b".toList = "\\emph\x7ba\x7d% b".toList ∧
      ¬ EscapesAll Config.standard "*a*% b".toList := by
  have written : inline Config.standard "*a*% b".toList = "\\emph\x7ba\x7d% b".toList := by
    decide +kernel
  refine ⟨by decide, by decide, written, fun complete => ?_⟩
  have escaped := complete.percent
  rw [written] at escaped
  have last := escaped "\\emph\x7ba\x7d".toList '%' " b".toList rfl rfl
  exact absurd last (by decide)

end Scriptorium.Latex
