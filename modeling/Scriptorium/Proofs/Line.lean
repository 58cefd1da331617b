import Mathlib.Data.List.TakeWhile
import Scriptorium.Line
import Scriptorium.Proofs.Mark
/-! # What lines are recognised as

What a line is recognised as takes signs and blank characters off it, none of which
stands in a mark. So the text of a heading, the item of a list and the two parts of a
link hold the marks of their lines. Whether a line is a comment shows in its first
character that is not blank (`Line.isComment_cons_of_solid`).
-/

namespace Scriptorium.Line

variable {line text rest item : Text}

private theorem isMarkChar_of_isSpace {c : Char} (space : isSpace c = true) :
    isMarkChar c = false := by
  simp only [isSpace, Bool.or_eq_true, beq_iff_eq] at space
  rcases space with rfl | rfl <;> decide

private theorem marks_spaces (read : spaces? line = some (text, rest)) :
    marks line = marks rest := by
  obtain ⟨split, -, blank, -⟩ := Scanner.run_eq_some read
  rw [split]
  exact Lexicon.words_append_of_all
    (fun c member => Mark.separates (isMarkChar_of_isSpace (blank c member))) rest

/-- A heading holds the marks of its text. -/
theorem marks_heading {depth : Nat} (read : heading? line = some ((depth, text), rest)) :
    marks line = marks text := by
  simp only [heading?, Option.bind_eq_bind, Option.bind_eq_some_iff, Prod.exists] at read
  obtain ⟨signs, behind, run, _, after, spaces, same⟩ := read
  cases same
  obtain ⟨split, -, sign, -⟩ := Scanner.run_eq_some run
  have signs : ∀ c ∈ signs, Mark.lexicon.Separates c :=
    fun c member => Mark.separates (Mark.isMarkChar_of_beq (by decide) (sign c member))
  rw [marks_trim, ← marks_spaces spaces, split]
  exact Lexicon.words_append_of_all signs behind

/-- A divider holds no mark. -/
theorem marks_of_isDivider (divider : isDivider line = true) : marks line = [] := by
  rw [← marks_trimEnd, beq_iff_eq.mp divider]
  exact marks_of_no_capital (by decide)

/-- A line of a list holds the marks of its item. -/
theorem marks_listMarker {ordered : Bool} (read : listMarker? line = some (ordered, item)) :
    marks line = marks item := by
  unfold listMarker? at read
  split at read
  · simp only [Option.map_eq_some_iff, Prod.exists] at read
    obtain ⟨spaces, behind, run, same⟩ := read
    cases same
    rw [← marks_spaces run]
    exact marks_append_of_no_start (show 'C' ∉ ['-'] by decide) (by decide) _
  · simp only [Option.bind_eq_bind, Option.bind_eq_some_iff, Prod.exists] at read
    obtain ⟨digits, behind, run, _, after, dot, _, last, spaces, same⟩ := read
    cases same
    obtain ⟨split, -, digit, -⟩ := Scanner.run_eq_some run
    have plain : '-' ∉ digits := fun member => absurd (digit '-' member) (by decide)
    rw [← marks_spaces spaces, split, Scanner.literal_eq_some_iff.mp dot]
    exact (marks_append_cons (by decide) digits after).trans
      (by rw [marks_of_no_hyphen plain, List.nil_append])

/-- A link holds the marks of its text and of its destination. -/
theorem marks_link {destination : Text} (read : link? line = some ((text, destination), rest)) :
    marks line = marks text ++ (marks destination ++ marks rest) := by
  unfold link? at read
  split at read
  · simp only [Option.bind_eq_bind, Option.bind_eq_some_iff, Prod.exists] at read
    obtain ⟨_, behind, first, _, after, second, same⟩ := read
    cases same
    have between : "](".toList = [']', '('] := rfl
    rw [Text.eq_of_cut?_eq_some first, Text.eq_of_cut?_eq_some second, between,
      marks_cons (by decide), List.append_assoc, List.cons_append, marks_append_cons (by decide),
      List.singleton_append, marks_cons (by decide), List.append_assoc, List.singleton_append,
      marks_append_cons (by decide)]
  · cases read

/-! ## Comment lines -/

variable {c : Char} {front : Text}

/-- Blank characters at its start do not make a line a comment, nor keep it from being one. -/
theorem isComment_append_of_blank (blank : ∀ c ∈ front, isBlank c = true) (behind : Text) :
    isComment (front ++ behind) = isComment behind := by
  rw [isComment, Text.trimStart, List.dropWhile_append_of_pos blank]
  rfl

/-- A blank character does not make a line a comment, nor keep it from being one. -/
theorem isComment_cons_of_blank (blank : isBlank c = true) (behind : Text) :
    isComment (c :: behind) = isComment behind :=
  isComment_append_of_blank (by simpa using blank : ∀ d ∈ [c], isBlank d = true) behind

/-- The first visible character tells whether a line is a comment. -/
theorem isComment_cons_of_solid (solid : isBlank c = false) (behind : Text) :
    isComment (c :: behind) = (c == '%') := by
  rw [isComment, Text.trimStart, List.dropWhile_cons_of_neg (by rw [solid]; decide)]
  rfl

/-- A line is a comment when a percent sign stands behind blank characters at most. -/
theorem isComment_iff : isComment line = true ↔
    ∃ indent behind, line = indent ++ '%' :: behind ∧ ∀ c ∈ indent, isBlank c = true := by
  constructor
  · intro comment
    obtain ⟨behind, start⟩ := List.head?_eq_some_iff.mp (beq_iff_eq.mp comment)
    exact ⟨line.takeWhile isBlank, behind,
      List.takeWhile_append_dropWhile.symm.trans (congrArg _ start),
      List.all_eq_true.mp List.all_takeWhile⟩
  · rintro ⟨indent, behind, rfl, blank⟩
    rw [isComment_append_of_blank blank, isComment_cons_of_solid (by decide)]
    rfl

/-- A blank line is no comment. -/
theorem isComment_of_isAllBlank (blank : line.isAllBlank = true) : isComment line = false := by
  have none := isComment_append_of_blank (List.all_eq_true.mp blank) []
  rwa [List.append_nil] at none

/-- Whether a line is a comment shows in the front of it that is not blank. -/
theorem isComment_append_of_visible (visible : front.isAllBlank = false) (behind : Text) :
    isComment (front ++ behind) = isComment front := by
  rw [isComment, isComment, Text.trimStart, Text.trimStart, List.dropWhile_append]
  cases kept : front.dropWhile isBlank with
  | nil =>
    have blank : front.isAllBlank = true := List.all_eq_true.mpr (List.dropWhile_eq_nil_iff.mp kept)
    rw [blank] at visible
    cases visible
  | cons c rest => rfl

/-- Two texts that are no comments make none one behind the other. -/
theorem isComment_append (first : isComment front = false) {behind : Text}
    (second : isComment behind = false) : isComment (front ++ behind) = false := by
  cases blank : front.isAllBlank with
  | true => rw [isComment_append_of_blank (List.all_eq_true.mp blank), second]
  | false => rw [isComment_append_of_visible blank, first]

end Scriptorium.Line
