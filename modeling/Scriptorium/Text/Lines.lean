import Scriptorium.Text.Basic
/-! # Lines

A line ends with a line feed, which a carriage return may precede. A text that
does not end with a line feed has a last line without one.
-/

namespace Scriptorium.Text

/-- The lines of a text, each with its line feed. Put together they are the text. -/
def terminatedLines : Text → List Text
  | [] => []
  | c :: cs =>
    if c = '\n' then ['\n'] :: terminatedLines cs
    else
      match terminatedLines cs with
      | [] => [[c]]
      | line :: lines => (c :: line) :: lines

/-- A line without its line feed, and without one carriage return before it. A
carriage return that no line feed follows stays. -/
def withoutTerminator (line : Text) : Text :=
  match dropEnd? ['\n'] line with
  | none => line
  | some body => (dropEnd? ['\r'] body).getD body

/-- The lines of a text without their ends. -/
def lines (s : Text) : List Text :=
  (terminatedLines s).map withoutTerminator

/-- Lines put together with a line feed between each two. -/
def joinLines (lines : List Text) : Text :=
  join ['\n'] lines

/-- The lines of a text make it up. -/
theorem flatten_terminatedLines (s : Text) : (terminatedLines s).flatten = s := by
  induction s with
  | nil => rfl
  | cons c cs ih =>
    by_cases newline : c = '\n'
    · simp [terminatedLines, newline, ih]
    · cases split : terminatedLines cs with
      | nil => simp [terminatedLines, newline, split] at ih ⊢; exact ih
      | cons line rest => simp [terminatedLines, newline, split] at ih ⊢; exact ih

end Scriptorium.Text
