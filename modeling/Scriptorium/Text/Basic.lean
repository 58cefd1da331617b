/-! # Texts

A text is the list of its characters. This module holds the literal operations
on texts that need no knowledge of character classes: cutting at a first
occurrence, splitting at separators, replacing literal occurrences.
-/

namespace Scriptorium

/-- A text is the list of its characters. -/
abbrev Text := List Char

namespace Text

/-- The second text without the first one at its start, when it starts with it. -/
def dropStart? : Text → Text → Option Text
  | [], s => some s
  | _ :: _, [] => none
  | l :: lead, c :: s => if l = c then dropStart? lead s else none

/-- `s` without `tail` at its end, when `s` ends with `tail`. -/
def dropEnd? (tail s : Text) : Option Text :=
  (dropStart? tail.reverse s.reverse).map List.reverse

/-- What is dropped at the start of a text stood there. -/
theorem dropStart?_eq_some_iff {lead s rest : Text} :
    dropStart? lead s = some rest ↔ s = lead ++ rest := by
  induction lead generalizing s with
  | nil => simp [dropStart?]
  | cons l lead ih =>
    cases s with
    | nil => simp [dropStart?]
    | cons c s =>
      by_cases same : l = c
      · simp [dropStart?, same, ih]
      · simp [dropStart?, same, Ne.symm same]

/-- Whether `s` starts with `lead`. -/
def startsWith (s lead : Text) : Bool :=
  lead.isPrefixOf s

/-- Whether `s` ends with `tail`. -/
def endsWith (s tail : Text) : Bool :=
  tail.isSuffixOf s

/-- What stands before and after the first occurrence of `needle` in a text. -/
def cut? (needle : Text) : Text → Option (Text × Text)
  | [] => if needle.isEmpty then some ([], []) else none
  | c :: cs =>
    match dropStart? needle (c :: cs) with
    | some rest => some ([], rest)
    | none => (cut? needle cs).map fun (before, after) => (c :: before, after)

/-- A text is cut at what stands between the two parts. -/
theorem eq_of_cut?_eq_some {needle s before after : Text}
    (h : cut? needle s = some (before, after)) : s = before ++ needle ++ after := by
  induction s generalizing before with
  | nil =>
    simp only [cut?, List.isEmpty_iff] at h
    split at h <;> simp_all
  | cons c cs ih =>
    simp only [cut?] at h
    split at h
    · rename_i rest start
      cases h
      simpa using dropStart?_eq_some_iff.mp start
    · simp only [Option.map_eq_some_iff, Prod.mk.injEq, Prod.exists] at h
      obtain ⟨front, back, cut, rfl, rfl⟩ := h
      simpa using ih cut

/-- Whether `needle` occurs somewhere in `s`. -/
def occursIn (needle s : Text) : Bool :=
  (cut? needle s).isSome

/-- A text split at every character that satisfies `p`. There is always one part
more than there are such characters, so the result is never empty. -/
def splitWhere (p : Char → Bool) : Text → List Text
  | [] => [[]]
  | c :: cs =>
    if p c then [] :: splitWhere p cs
    else
      match splitWhere p cs with
      | [] => [[c]]
      | part :: parts => (c :: part) :: parts

/-- A text split at every occurrence of one character. -/
def splitOn (separator : Char) (s : Text) : List Text :=
  splitWhere (· == separator) s

/-- The parts of a text between the occurrences of a separator, which are taken
from the left; the whole text when there is none. An empty separator splits
nothing. -/
def splitAround (separator : Text) : Text → List Text
  | [] => [[]]
  | c :: cs =>
    match dropStart? separator (c :: cs) with
    | some rest =>
      if rest.length ≤ cs.length then [] :: splitAround separator rest else [c :: cs]
    | none =>
      match splitAround separator cs with
      | [] => [[c]]
      | part :: parts => (c :: part) :: parts
termination_by s => s.length

/-- Parts put together with a separator between each two. -/
def join (separator : Text) (parts : List Text) : Text :=
  separator.intercalate parts

/-- A text with every occurrence of a non-empty `old` replaced, from the left and
without overlap. -/
def replaceNonempty (old new s : Text) : Text :=
  match s with
  | [] => []
  | c :: cs =>
    match dropStart? old (c :: cs) with
    | some rest =>
      if rest.length ≤ cs.length then new ++ replaceNonempty old new rest
      else c :: replaceNonempty old new cs
    | none => c :: replaceNonempty old new cs
termination_by s.length

/-- A text with every occurrence of `old` replaced, from the left and without
overlap. The empty text occurs before every character and at the end. -/
def replace (s old new : Text) : Text :=
  if old.isEmpty then new ++ s.flatMap fun c => c :: new
  else replaceNonempty old new s

/-- A text with the first occurrence of `old` replaced. -/
def replaceFirst (s old new : Text) : Text :=
  match cut? old s with
  | some (before, after) => before ++ new ++ after
  | none => s

/-- The longest end of a text all of whose characters satisfy `p` is dropped. -/
def dropEndWhile (p : Char → Bool) (s : Text) : Text :=
  (s.reverse.dropWhile p).reverse

/-- A text without the characters satisfying `p` at its two ends. -/
def stripWhere (p : Char → Bool) (s : Text) : Text :=
  dropEndWhile p (s.dropWhile p)

/-- Each longest run of characters satisfying `p` becomes the single character
`mark`. -/
def squeeze (p : Char → Bool) (mark : Char) : Text → Text
  | [] => []
  | c :: cs =>
    if p c then
      if cs.head?.any p then squeeze p mark cs else mark :: squeeze p mark cs
    else c :: squeeze p mark cs

/-- A number in decimal digits. -/
def ofNat (n : Nat) : Text :=
  Nat.toDigits 10 n

end Text

end Scriptorium
