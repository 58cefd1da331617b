import Scriptorium.Citation.Extraction
import Scriptorium.Proofs.Mark
/-! # The references of a body

Taking the citations out of a body leaves one token for each marker of a reference, and
no other mark, when the body holds none itself (`Extraction.marks_ofBody`). Markers in
fences and in definitions refer to nothing, nor do those with a colon behind them
(`Extraction.references`).
-/

namespace Scriptorium

namespace Citation

/-- The mark of a reference to a name. -/
def mark (id : Text) : Mark :=
  .citation (Hex.encode id)

variable {s rest : Text} {marker : Marker}

/-- A marker stands at the start of the text that it is read from. -/
theorem eq_of_marker?_eq_some (read : marker? s = some (marker, rest)) :
    marker.id ≠ [] ∧
      s = markerText marker.id ++ ((if marker.hasColon then [':'] else []) ++ rest) := by
  simp only [marker?, Option.bind_eq_bind, Option.bind_eq_some_iff, Prod.exists] at read
  obtain ⟨_, behind, opening, id, after, named, _, last, closing, same⟩ := read
  obtain ⟨split, nonempty⟩ := Scanner.eq_of_run_eq_some named
  have whole : s = markerText id ++ last := by
    rw [Scanner.literal_eq_some_iff.mp opening, split, Scanner.literal_eq_some_iff.mp closing,
      markerText]
    simp only [List.cons_append, List.nil_append, List.append_assoc]
  split at same <;> cases same <;> exact ⟨nonempty, whole⟩

/-- What is behind a marker is shorter than the text it stands in. -/
theorem length_lt_of_marker? (s : Text) (marker : Marker) (rest : Text)
    (read : marker? s = some (marker, rest)) : rest.length < s.length := by
  rw [(eq_of_marker?_eq_some read).2, markerText]
  simp only [List.length_append, List.length_cons]
  omega

end Citation

namespace Extraction

open Citation (marker? Marker)

variable {line : Text} {lines : List Text}

/-- The name that a piece of a line refers to. A marker with a colon is no reference. -/
def reference? : Piece Marker → Option Text
  | .plain _ => none
  | .found marker => if marker.hasColon then none else some marker.id

/-- The names that a line refers to. -/
def lineReferences (line : Text) : List Text :=
  (Scanner.pieces marker? line).filterMap reference?

/-- The names that lines refer to, the first of which lies in a fence or not: those of
the lines outside of fences and definitions. -/
def references (inFence : Bool) : List Text → List Text
  | [] => []
  | line :: lines =>
    if Line.isFence line.trimStart then references (!inFence) lines
    else if inFence then references inFence lines
    else
      match Line.definition? line with
      | none => lineReferences line ++ references inFence lines
      | some _ =>
        have := (List.dropWhile_suffix (l := lines) continuesDefinition).length_le
        references inFence (lines.dropWhile continuesDefinition)
termination_by lines => lines.length

/-! ## Lines -/

/-- A character that no marker begins with refers to nothing. -/
theorem lineReferences_of_none {c : Char} (absent : marker? (c :: line) = none) :
    lineReferences (c :: line) = lineReferences line := by
  rw [lineReferences, Scanner.pieces_of_none absent]
  rfl

/-- A marker refers to its name, unless a colon stands behind it. -/
theorem lineReferences_of_some {marker : Marker} {rest : Text}
    (read : marker? line = some (marker, rest)) (shorter : rest.length < line.length) :
    lineReferences line =
      (if marker.hasColon then [] else [marker.id]) ++ lineReferences rest := by
  rw [lineReferences, Scanner.pieces_of_some read shorter, List.filterMap_cons, reference?]
  cases marker.hasColon <;> rfl

/-- The tokens of a line are those of its references. -/
theorem marks_tokenizeAfter (front line : Text) (none : marks (front ++ line) = []) :
    marks (front ++ Citation.tokenize line) = (lineReferences line).map Citation.mark := by
  induction line using Scanner.match_induction Citation.length_lt_of_marker? generalizing front with
  | nil =>
    rw [Citation.tokenize, Scanner.replaceAll_nil, none, lineReferences, Scanner.pieces]
    rfl
  | plain c cs absent ih =>
    rw [Citation.tokenize, Scanner.replaceAll_of_none absent, List.append_cons,
      lineReferences_of_none absent]
    exact ih (front ++ [c]) (by rwa [← List.append_cons])
  | found s marker rest read shorter ih =>
    obtain ⟨nonempty, whole⟩ := Citation.eq_of_marker?_eq_some read
    rw [Citation.tokenize, Scanner.replaceAll_of_some read shorter,
      lineReferences_of_some read shorter]
    rw [whole] at none
    cases colon : marker.hasColon with
    | true =>
      rw [colon, if_pos rfl] at none
      rw [if_pos rfl, if_pos rfl, ← List.append_assoc, List.nil_append]
      apply ih
      simpa only [List.append_assoc] using none
    | false =>
      have isWord : Mark.IsWord (Citation.mark marker.id) := Citation.isDigits_encode nonempty
      have before : marks front = [] :=
        marks_eq_nil_of_within (List.prefix_append front _).isInfix none
      have behind : marks ([] ++ rest) = [] :=
        marks_eq_nil_of_within ⟨front ++ Citation.markerText marker.id, [], by
          rw [colon]
          simp⟩ none
      rw [if_neg Bool.false_ne_true, if_neg Bool.false_ne_true,
        show Citation.token marker.id = Mark.text (Citation.mark marker.id) from rfl,
        marks_append_text isWord, before, List.map_append, ← ih [] behind]
      rfl

private theorem marks_tokenize (none : marks line = []) :
    marks (Citation.tokenize line) = (lineReferences line).map Citation.mark :=
  marks_tokenizeAfter [] line none

/-- The lines that are kept hold the tokens of the references. -/
theorem marks_keptLines (inFence : Bool) (none : ∀ line ∈ lines, marks line = []) :
    (keptLines (items inFence lines)).flatMap marks =
      (references inFence lines).map Citation.mark := by
  fun_induction items inFence lines with
  | case1 inFence => rw [references]; rfl
  | case2 inFence line lines fence ih =>
    rw [List.forall_mem_cons] at none
    rw [references, if_pos fence, ← ih none.2]
    exact (congrArg (· ++ _) none.1).trans (List.nil_append _)
  | case3 line lines fence ih =>
    rw [List.forall_mem_cons] at none
    rw [references, if_neg fence, if_pos rfl, ← ih none.2]
    exact (congrArg (· ++ _) none.1).trans (List.nil_append _)
  | case4 inFence line lines fence notFence absent ih =>
    rw [List.forall_mem_cons] at none
    rw [references, if_neg fence, if_neg notFence, absent]
    rw [List.map_append, ← ih none.2, ← marks_tokenize none.1]
    rfl
  | case5 inFence line lines fence notFence id first rest found shorter ih =>
    rw [List.forall_mem_cons] at none
    rw [references, if_neg fence, if_neg notFence, found]
    exact ih fun line member => none.2 line ((List.dropWhile_suffix _).subset member)

/-- A body without marks has one mark behind extraction for each of its references. -/
theorem marks_ofBody {body : Text} (none : marks body = []) :
    marks (ofBody body).markdown = (references false body.lines).map Citation.mark := by
  have closed : ∀ s, marks (closeText s) = marks s := by
    intro s
    unfold closeText
    cases trimmed : s.trimEnd with
    | nil => rw [← marks_trimEnd s, trimmed]
    | cons c cs =>
      dsimp only
      rw [marks_concat (by decide), ← trimmed, marks_trimEnd]
  rw [ofBody, closed, marks_joinLines, marks_keptLines false (marks_of_mem_lines none)]

/-! ## Names -/

/-- A name that a line refers to is not empty, and stands in that line. -/
theorem infix_of_mem_lineReferences {id : Text} (member : id ∈ lineReferences line) :
    id ≠ [] ∧ id <:+: line := by
  induction line using Scanner.match_induction Citation.length_lt_of_marker? with
  | nil =>
    rw [lineReferences, Scanner.pieces] at member
    cases member
  | plain c cs absent ih =>
    rw [lineReferences_of_none absent] at member
    obtain ⟨nonempty, inside⟩ := ih member
    exact ⟨nonempty, inside.trans (List.suffix_cons c cs).isInfix⟩
  | found s marker rest read shorter ih =>
    obtain ⟨nonempty, whole⟩ := Citation.eq_of_marker?_eq_some read
    rw [lineReferences_of_some read shorter] at member
    rw [whole]
    rcases List.mem_append.mp member with here | later
    · have same : id = marker.id := by
        split at here
        · cases here
        · exact List.mem_singleton.mp here
      subst same
      refine ⟨nonempty, ?_⟩
      rw [Citation.markerText]
      exact ⟨['[', '^'], [']'] ++ ((if marker.hasColon then [':'] else []) ++ rest), by simp⟩
    · obtain ⟨filled, inside⟩ := ih later
      refine ⟨filled, inside.trans ?_⟩
      rw [← List.append_assoc]
      exact (List.suffix_append _ rest).isInfix

/-- A name that lines refer to stands in one of them. -/
theorem infix_of_mem_references {inFence : Bool} {id : Text}
    (member : id ∈ references inFence lines) : id ≠ [] ∧ ∃ line ∈ lines, id <:+: line := by
  fun_induction references inFence lines with
  | case1 inFence => cases member
  | case2 inFence line lines fence ih =>
    obtain ⟨nonempty, found, listed, inside⟩ := ih member
    exact ⟨nonempty, found, List.mem_cons_of_mem _ listed, inside⟩
  | case3 line lines fence ih =>
    obtain ⟨nonempty, found, listed, inside⟩ := ih member
    exact ⟨nonempty, found, List.mem_cons_of_mem _ listed, inside⟩
  | case4 inFence line lines fence notFence absent ih =>
    rcases List.mem_append.mp member with here | later
    · obtain ⟨nonempty, inside⟩ := infix_of_mem_lineReferences here
      exact ⟨nonempty, line, List.mem_cons_self, inside⟩
    · obtain ⟨nonempty, found, listed, inside⟩ := ih later
      exact ⟨nonempty, found, List.mem_cons_of_mem _ listed, inside⟩
  | case5 inFence line lines fence notFence found read shorter ih =>
    obtain ⟨nonempty, found, listed, inside⟩ := ih member
    have among := (List.dropWhile_suffix continuesDefinition).subset listed
    exact ⟨nonempty, found, List.mem_cons_of_mem _ among, inside⟩

/-! ## Definitions -/

/-- The name and the content of a definition stand in its line. -/
theorem infix_of_definition?_eq_some {id first rest : Text}
    (read : Line.definition? line = some ((id, first), rest)) : id <:+: line ∧ first <:+: line := by
  simp only [Line.definition?, Option.bind_eq_bind, Option.bind_eq_some_iff, Prod.exists] at read
  obtain ⟨_, behind, opening, _, after, named, _, last, closing, same⟩ := read
  cases same
  have split := (Scanner.eq_of_run_eq_some named).1
  have content : Line.skipSpaces last <:+ last := List.dropWhile_suffix _
  rw [Scanner.literal_eq_some_iff.mp opening, split, Scanner.literal_eq_some_iff.mp closing]
  exact ⟨⟨['[', '^'], [']', ':'] ++ last, by simp only [List.append_assoc]⟩,
    content.isInfix.trans ⟨['[', '^'] ++ id ++ [']', ':'], [], by
      simp only [List.append_assoc, List.append_nil]⟩⟩

private theorem marks_definitionContent {first : Text} {others : List Text}
    (none : marks first = [])
    (rest : ∀ line ∈ others, marks line = []) : marks (definitionContent first others) = [] := by
  rw [definitionContent, marks_trim, marks_joinLines, List.flatMap_map]
  apply List.flatMap_eq_nil_iff.mpr
  intro line member
  rw [marks_trim]
  rcases List.mem_cons.mp member with rfl | later
  · exact none
  · exact rest line later

/-- Definitions in lines without marks hold none. -/
theorem marks_definitions (inFence : Bool) (none : ∀ line ∈ lines, marks line = []) :
    ∀ definition ∈ definitions (items inFence lines),
      marks definition.1 = [] ∧ marks definition.2 = [] := by
  fun_induction items inFence lines with
  | case1 inFence => exact fun definition member => absurd member List.not_mem_nil
  | case2 inFence line lines fence ih => exact ih (List.forall_mem_cons.mp none).2
  | case3 line lines fence ih => exact ih (List.forall_mem_cons.mp none).2
  | case4 inFence line lines fence notFence absent ih => exact ih (List.forall_mem_cons.mp none).2
  | case5 inFence line lines fence notFence id first rest found shorter ih =>
    obtain ⟨here, later⟩ := List.forall_mem_cons.mp none
    obtain ⟨name, content⟩ := infix_of_definition?_eq_some found
    intro definition member
    rcases List.mem_cons.mp member with rfl | member
    · exact ⟨marks_eq_nil_of_within name here,
        marks_definitionContent (marks_eq_nil_of_within content here) fun line listed =>
          later line ((List.takeWhile_prefix _).subset listed)⟩
    · exact ih (fun line listed => later line ((List.dropWhile_suffix _).subset listed))
        definition member

/-- The names and contents of citations hold no marks. -/
def Unmarked (citations : CitationTable) : Prop :=
  ∀ citation ∈ citations.entries, marks citation.id = [] ∧ marks citation.rawContent = []

/-- Definitions without marks put none into a table. -/
theorem unmarked_insertAll {definitions : List (Text × Text)} {table : CitationTable}
    (none : ∀ definition ∈ definitions, marks definition.1 = [] ∧ marks definition.2 = [])
    (unmarked : Unmarked table) : Unmarked (table.insertAll definitions) := by
  induction definitions generalizing table with
  | nil => exact unmarked
  | cons definition definitions ih =>
    obtain ⟨here, later⟩ := List.forall_mem_cons.mp none
    apply ih later
    dsimp only [CitationTable.insert]
    split
    · exact unmarked
    · intro citation member
      rcases List.mem_append.mp member with old | new
      · exact unmarked citation old
      · rw [List.mem_singleton.mp new]
        exact here

/-- The citations of a body without marks hold none. -/
theorem unmarked_citations {body : Text} (none : marks body = []) :
    Unmarked (ofBody body).citations := by
  apply unmarked_insertAll (marks_definitions false (marks_of_mem_lines none))
  intro citation member
  cases member

end Extraction

end Scriptorium
