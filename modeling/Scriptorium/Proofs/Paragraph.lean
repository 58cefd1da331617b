import Scriptorium.Paragraph
/-! # The parts of a paragraph

Blocks hold all lines that are not blank (`Paragraph.filter_flatten_blocks`). The lines of a
block are the comment lines at its start, its middle and the comment lines at its end
(`Paragraph.takeWhile_append_middle`). What the middle of a block of code says stands
between its fences (`Paragraph.codeLines_append_closingFence`).
-/

namespace Scriptorium.Paragraph

variable {lines : List Text}

/-- Blocks hold all lines that are not blank, in order. -/
theorem filter_flatten_blocks {keep : Text → Bool}
    (dropped : ∀ line, line.isAllBlank = true → keep line = false) (inFence : Bool)
    (lines : List Text) : (blocks inFence lines).flatten.filter keep = lines.filter keep := by
  fun_induction blocks inFence lines with
  | case1 => rfl
  | case2 inFence line lines blank ih =>
    simp only [Bool.and_eq_true] at blank
    rw [List.flatten_cons, List.nil_append, ih,
      List.filter_cons_of_neg (by rw [dropped line blank.2]; exact Bool.false_ne_true)]
  | case3 inFence line lines other none ih =>
    rw [none, List.flatten_nil] at ih
    rw [List.flatten_cons, List.flatten_nil, List.append_nil, List.filter_cons, List.filter_cons,
      ← ih]
  | case4 inFence line lines other block rest cut ih =>
    rw [cut, List.flatten_cons] at ih
    rw [List.flatten_cons, List.cons_append, List.filter_cons, ih, List.filter_cons]

/-- The fence at the end of lines of code, if there is one. -/
def closingFence (lines : List Text) : List Text :=
  lines.getLast?.toList.filter fun line => Line.isFence line.trimStart

/-- The lines of code and the fence behind them are all lines. -/
theorem codeLines_append_closingFence (lines : List Text) :
    codeLines lines ++ closingFence lines = lines := by
  unfold codeLines closingFence
  cases last : lines.getLast? with
  | none => exact List.append_nil lines
  | some line =>
    obtain ⟨front, rfl⟩ := List.getLast?_eq_some_iff.mp last
    by_cases fence : Line.isFence line.trimStart = true
    · simp [fence]
    · simp [fence]

/-- A block that starts with a fence is code. -/
theorem bodyOf_of_fence (first : Text) {found : Text × Text}
    (fence : Line.fence? first.trimStart = some found) (others : List Text) :
    bodyOf (first :: others) =
      (.code found.1.words.head?, Text.joinLines (codeLines others)) := by
  rw [bodyOf, show (first :: others).head?.getD [] = first from rfl, fence]
  rfl

/-- All other blocks keep their lines. -/
theorem bodyOf_of_none (none : Line.fence? (lines.head?.getD []).trimStart = none) :
    (bodyOf lines).2 = Text.joinLines lines ∧ ((bodyOf lines).1 = .text ∨
      (bodyOf lines).1 = .blockquote ∨ ∃ ordered, (bodyOf lines).1 = .list ordered) := by
  unfold bodyOf
  dsimp only
  rw [none]
  refine ⟨rfl, ?_⟩
  dsimp only
  split
  · exact .inr (.inl rfl)
  · split
    · exact .inr (.inr ⟨_, rfl⟩)
    · exact .inl rfl

/-- The fences of the code that lines are, if they are code. -/
def fences : List Text → List Text
  | [] => []
  | first :: others => if Line.isFence first.trimStart then first :: closingFence others else []

/-- The lines of a block between the comment lines at its two ends. -/
def middle (lines : List Text) : List Text :=
  let rest := withoutLead lines
  rest.take (rest.length - (trail rest).length)

/-- The middle of a paragraph and what trails it are what its lead is followed by. -/
theorem middle_append_trail (lines : List Text) :
    middle lines ++ trail (withoutLead lines) = withoutLead lines := by
  have suffix : trail (withoutLead lines) <:+ withoutLead lines := by
    rw [trail]
    exact List.reverse_prefix.mp (by
      rw [List.reverse_reverse]
      exact List.takeWhile_prefix _)
  have behind := List.suffix_iff_eq_drop.mp suffix
  calc middle lines ++ trail (withoutLead lines)
      = middle lines ++ (withoutLead lines).drop
          ((withoutLead lines).length - (trail (withoutLead lines)).length) := by rw [← behind]
    _ = withoutLead lines := List.take_append_drop _ _

/-- A block is its comments, its middle and its comments again. -/
theorem takeWhile_append_middle (lines : List Text) :
    lines = lines.takeWhile Line.isComment ++ (middle lines ++ trail (withoutLead lines)) := by
  rw [middle_append_trail, withoutLead, List.takeWhile_append_dropWhile]

/-- A block that is not a comment is its middle between annotations. -/
theorem ofLines_of_ne_nil (text : withoutLead lines ≠ []) :
    ofLines lines = ⟨(bodyOf (middle lines)).1, (bodyOf (middle lines)).2,
      ⟨(lines.takeWhile Line.isComment).map Text.trim,
        (trail (withoutLead lines)).map Text.trim⟩⟩ := by
  have nonempty : (withoutLead lines).isEmpty = false := List.isEmpty_eq_false_iff.mpr text
  rw [ofLines, nonempty]
  rfl

end Scriptorium.Paragraph
