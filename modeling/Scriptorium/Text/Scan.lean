import Scriptorium.Text.Basic
/-! # Scanners

A scanner looks at the start of a text: on success it gives a value and the
unread rest. Cutting a text into the matches of a scanner and the plain
characters between them takes the leftmost match first and goes on behind it; a
match that reads nothing counts as none.
-/

namespace Scriptorium

/-- Reads something at the start of a text and gives the unread rest. -/
abbrev Scanner (α : Type) := Text → Option (α × Text)

/-- A part of a text: a character outside of all matches, or a match. -/
inductive Piece (α : Type) where
  | plain (c : Char)
  | found (value : α)
  deriving DecidableEq, Repr

namespace Scanner

variable {α : Type}

/-- The matches of a scanner in a text, leftmost first, and the plain characters
between them. -/
def pieces (scan : Scanner α) : Text → List (Piece α)
  | [] => []
  | c :: cs =>
    match scan (c :: cs) with
    | some (value, rest) =>
      if rest.length ≤ cs.length then .found value :: pieces scan rest
      else .plain c :: pieces scan cs
    | none => .plain c :: pieces scan cs
termination_by s => s.length

/-- A text with each match replaced by what `write` makes of it. -/
def replaceAll (scan : Scanner α) (write : α → Text) (s : Text) : Text :=
  (scan.pieces s).flatMap fun
    | .plain c => [c]
    | .found value => write value

/-- The first match in a text: what stands before it, its value, and what stands
after it. -/
def find? (scan : Scanner α) : Text → Option (Text × α × Text)
  | [] => (scan []).map fun (value, rest) => ([], value, rest)
  | c :: cs =>
    match scan (c :: cs) with
    | some (value, rest) => some ([], value, rest)
    | none => (find? scan cs).map fun (before, value, after) => (c :: before, value, after)

/-- Consumes one given text. -/
def literal (lead : Text) : Scanner Unit :=
  fun s => (Text.dropStart? lead s).map fun rest => ((), rest)

/-- The longest run of characters satisfying `p`, which must not be empty. -/
def run (p : Char → Bool) : Scanner Text :=
  fun s => if (s.takeWhile p).isEmpty then none else some (s.takeWhile p, s.dropWhile p)

/-- A text is read where it stands in front of the rest. -/
theorem literal_eq_some_iff {lead s rest : Text} :
    literal lead s = some ((), rest) ↔ s = lead ++ rest := by
  simp [literal, Text.dropStart?_eq_some_iff]

/-- A run is not empty, and stands in front of the rest. -/
theorem eq_of_run_eq_some {p : Char → Bool} {s found rest : Text}
    (h : run p s = some (found, rest)) : s = found ++ rest ∧ found ≠ [] := by
  unfold run at h
  split at h
  · cases h
  · rename_i nonempty
    cases h
    exact ⟨List.takeWhile_append_dropWhile.symm, by simpa using nonempty⟩

end Scanner

end Scriptorium
