import Scriptorium.Text.Blank
import Scriptorium.Text.Digit
import Scriptorium.Text.Lowercase
/-! # Published names and anchors

The name of a file or a folder is published in a form that is safe in a web
address (`Name.publish`): no dots, no blank characters, no ordinal number in
front, lower case. Headings and citations are reached through anchors
(`Anchor.ofText`), which keep ASCII letters, digits and hyphens only.
-/

namespace Scriptorium

/-- Whether a character is a hyphen. -/
def isHyphen (c : Char) : Bool :=
  c == '-'

namespace Name

/-- A name without one ordinal number in front: decimal digits and the hyphens
behind them. -/
def dropOrdinal? (name : Text) : Option Text :=
  match name.dropWhile isDecimalDigit with
  | [] => none
  | c :: rest =>
    if name.head?.any isDecimalDigit && isHyphen c then some (rest.dropWhile isHyphen) else none

/-- What is behind the ordinal of a name is shorter than the name. -/
theorem length_dropOrdinal?_lt {name rest : Text} (h : dropOrdinal? name = some rest) :
    rest.length < name.length := by
  unfold dropOrdinal? at h
  split at h
  · cases h
  · rename_i c behind digits
    split at h
    · cases h
      have dropped := (List.dropWhile_suffix (l := name) isDecimalDigit).length_le
      have hyphens := (List.dropWhile_suffix (l := behind) isHyphen).length_le
      simp only [digits, List.length_cons] at dropped
      omega
    · cases h

/-- A name without all its ordinal numbers in front. -/
def dropOrdinals (name : Text) : Text :=
  match h : dropOrdinal? name with
  | none => name
  | some rest =>
    have := length_dropOrdinal?_lt h
    dropOrdinals rest
termination_by name.length

/-- The published form of the name of one file or folder: dots fall away, blank
characters and hyphens become single hyphens inside, ordinal numbers in front are
dropped, an ampersand is spelled out, and the letters are small. -/
def publish (name : Text) : Text :=
  let undotted : Text := name.trim.filter (· != '.')
  let hyphenated := (undotted.squeeze isBlank '-').squeeze isHyphen '-'
  let unnumbered := dropOrdinals (hyphenated.stripWhere isHyphen)
  let spelled := unnumbered.replace ['&'] "and".toList
  ((spelled.squeeze isHyphen '-').stripWhere isHyphen).toLower

/-- A relative path with each of its segments published. -/
def publishPath (path : Text) : Text :=
  Text.join ['/'] ((path.splitOn '/').map publish)

end Name

namespace Anchor

/-- The characters that anchors keep. -/
def isAnchorChar (c : Char) : Bool :=
  ('a' ≤ c && c ≤ 'z') || isAsciiDigit c || isHyphen c

/-- The anchor of a text: small letters, runs of blank characters and low lines as
hyphens, all other characters dropped, and no two hyphens in a row. -/
def ofText (s : Text) : Text :=
  let hyphenated := s.toLower.squeeze (fun c => isBlank c || c == '_') '-'
  Text.squeeze isHyphen '-' (hyphenated.filter isAnchorChar)

end Anchor

end Scriptorium
