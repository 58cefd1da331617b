import Scriptorium.Text.Basic
/-! # Blank characters

A character is blank when it has the Unicode property White_Space. Trimming and
splitting into words use this class; the recognisers of single lines use the
narrower classes defined where they are needed.
-/

namespace Scriptorium

/-- The characters with the Unicode property White_Space. -/
def isBlank (c : Char) : Bool :=
  let n := c.toNat
  (9 ≤ n && n ≤ 13) || n == 0x20 || n == 0x85 || n == 0xA0 || n == 0x1680 ||
    (0x2000 ≤ n && n ≤ 0x200A) || n == 0x2028 || n == 0x2029 || n == 0x202F ||
    n == 0x205F || n == 0x3000

namespace Text

/-- A text without the blank characters at its start. -/
def trimStart (s : Text) : Text :=
  s.dropWhile isBlank

/-- A text without the blank characters at its end. -/
def trimEnd (s : Text) : Text :=
  dropEndWhile isBlank s

/-- A text without the blank characters at its two ends. -/
def trim (s : Text) : Text :=
  stripWhere isBlank s

/-- Whether all characters of a text are blank. -/
def isAllBlank (s : Text) : Bool :=
  s.all isBlank

/-- The longest parts of a text without blank characters. -/
def words (s : Text) : List Text :=
  (splitWhere isBlank s).filter (!·.isEmpty)

end Text

end Scriptorium
