import Scriptorium.Metadata
import Scriptorium.Proofs.Line
/-! # The title of a document without marks

The title that the front matter or the body names stands in a line of the document. So
a document without marks has a title without marks (`ParsedDocument.marks_title`).
-/

namespace Scriptorium

/-- A link in a text without marks has none in its text and destination. -/
theorem marks_of_link {line text destination rest : Text} (none : marks line = [])
    (read : Line.link? line = some ((text, destination), rest)) :
    marks text = [] ∧ marks destination = [] := by
  rw [Line.marks_link read] at none
  obtain ⟨name, behind⟩ := List.append_eq_nil_iff.mp none
  exact ⟨name, (List.append_eq_nil_iff.mp behind).1⟩

namespace Metadata

variable {metadata : Metadata} {line : Text}

/-- The title, if there is one, holds no mark. -/
def PlainTitle (metadata : Metadata) : Prop :=
  ∀ title ∈ metadata.title, marks title.text = [] ∧ marks title.link = []

private theorem title_setEntry (metadata : Metadata) (key : Text) (link : MetaLink) :
    (metadata.setEntry key link).title = metadata.title ∨
      (metadata.setEntry key link).title = some link := by
  unfold setEntry
  split
  · exact .inr rfl
  · left
    repeat' split
    all_goals rfl

/-- An entry without marks leaves a plain title plain. -/
theorem plainTitle_readEntry (plain : metadata.PlainTitle) (none : marks line = []) :
    (metadata.readEntry line).PlainTitle := by
  unfold readEntry
  split
  · rename_i key text link _ read
    simp only [Line.entry?, Option.bind_eq_bind, Option.bind_eq_some_iff, Prod.exists] at read
    obtain ⟨name, behind, run, _, after, colon, read⟩ := read
    have inside : Line.skipSpaces after <:+: line.trim := by
      rw [(Scanner.eq_of_run_eq_some run).1, Scanner.literal_eq_some_iff.mp colon]
      exact ((List.dropWhile_suffix _).trans ((List.suffix_append _ _).trans
        (List.suffix_append _ _))).isInfix
    rw [← marks_trim] at none
    split at read
    · rename_i found rest isLink
      cases read
      have linked := marks_of_link (marks_eq_nil_of_within inside none) isLink
      rcases title_setEntry metadata key ⟨text, link⟩ with same | new
      · intro title member
        rw [same] at member
        exact plain title member
      · intro title member
        rw [new] at member
        cases Option.mem_some_iff.mp member
        exact linked
    · simp only [Option.some.injEq, Prod.mk.injEq, reduceCtorEq, and_false, false_and] at read
  · exact plain

private theorem title_readRelated (metadata : Metadata) (line : Text) :
    (metadata.readRelated line).title = metadata.title := by
  unfold readRelated
  dsimp only
  split
  · rfl
  · split <;> rfl

private theorem title_readThought (metadata : Metadata) (line : Text) :
    (metadata.readThought line).title = metadata.title := by
  unfold readThought
  split <;> rfl

end Metadata

namespace MatterReader

variable {reader : MatterReader} {raw line : Text}

private theorem title_readFooterLine (reader : MatterReader) (raw line : Text) :
    (reader.readFooterLine raw line).metadata.title = reader.metadata.title := by
  unfold readFooterLine
  generalize "- related:".toList = related, "### Thoughts".toList = thoughts
  repeat' split
  · rfl
  · rfl
  · exact Metadata.title_readRelated _ raw
  · exact Metadata.title_readThought _ raw
  · rfl

private theorem plainTitle_readHeaderLine (plain : reader.metadata.PlainTitle) (index : Nat)
    (none : marks line = []) : (reader.readHeaderLine index line).metadata.PlainTitle := by
  unfold readHeaderLine
  split
  · exact plain
  · split
    · rename_i entry item
      rw [Text.dropStart?_eq_some_iff.mp item] at none
      exact Metadata.plainTitle_readEntry plain
        (marks_eq_nil_of_within (List.suffix_append _ entry).isInfix none)
    · exact plain

/-- A line without marks leaves a plain title plain. -/
theorem plainTitle_readLine (plain : reader.metadata.PlainTitle) (index : Nat)
    (none : marks raw = []) : (reader.readLine index raw).metadata.PlainTitle := by
  have footer : (reader.readFooterLine raw raw.trim).metadata.PlainTitle := by
    unfold Metadata.PlainTitle
    rw [title_readFooterLine]
    exact plain
  unfold readLine
  dsimp only
  split
  · exact plain
  · split
    · exact plain
    · cases reader.region with
      | body => exact plain
      | header => exact plainTitle_readHeaderLine plain index ((marks_trim raw).trans none)
      | footer | related | thoughts => exact footer

private theorem plainTitle_readLines {lines : List Text} (plain : reader.metadata.PlainTitle)
    (index : Nat) (none : ∀ line ∈ lines, marks line = []) :
    (reader.readLines index lines).metadata.PlainTitle := by
  induction lines generalizing reader index with
  | nil => exact plain
  | cons line lines ih =>
    obtain ⟨here, later⟩ := List.forall_mem_cons.mp none
    exact ih (plainTitle_readLine plain index here) (index + 1) later

end MatterReader

/-! ## Documents -/

private theorem marks_titleOfHeading {text : Text} (none : marks text = []) :
    marks (titleOfHeading text).text = [] ∧ marks (titleOfHeading text).link = [] := by
  unfold titleOfHeading
  split
  · rename_i name link isLink
    exact marks_of_link none isLink
  · exact ⟨none, marks_nil⟩

private theorem marks_titleFromBody {body : Text} (none : ∀ line ∈ body.lines, marks line = []) :
    ∀ title ∈ titleFromBody? body, marks title.text = [] ∧ marks title.link = [] := by
  intro title found
  obtain ⟨line, listed, read⟩ := List.exists_of_findSome?_eq_some found
  split at read
  · rename_i text _ isHeading
    cases read
    apply marks_titleOfHeading
    rw [← Line.marks_heading isHeading, marks_trim]
    exact none line listed
  · cases read

/-- The title of a document without marks holds none. -/
theorem ParsedDocument.marks_title {markdown : Text} (none : marks markdown = []) :
    ∀ title ∈ (parse markdown).metadata.title, marks title.text = [] ∧ marks title.link = [] := by
  have lines := marks_of_mem_lines none
  have body : marks (parse markdown).body = [] := by
    rw [parse, marks_joinLines]
    apply List.flatMap_eq_nil_iff.mpr
    intro line member
    exact lines line ((List.drop_suffix _ _).subset ((List.take_prefix _ _).subset member))
  have header : (MatterReader.start.readLines 0 markdown.lines).metadata.PlainTitle :=
    MatterReader.plainTitle_readLines (fun title member => by cases member) 0 lines
  intro title member
  have chosen : ((MatterReader.start.readLines 0 markdown.lines).metadata.title <|>
      titleFromBody? (parse markdown).body) = some title := member
  simp only [Option.orElse_eq_orElse, Option.orElse_eq_or, Option.or_eq_some_iff] at chosen
  rcases chosen with named | ⟨-, first⟩
  · exact header title named
  · exact marks_titleFromBody (marks_of_mem_lines body) title first

end Scriptorium
