import Scriptorium.Text.Basic
/-! # UTF-8

Texts as sequences of bytes. Reading is strict (`Utf8.decode?`) or puts the
replacement character for each broken sequence (`Utf8.decodeLossy`); a broken
sequence is the longest start of a well-formed one, and at least one byte.
-/

namespace Scriptorium.Utf8

/-- The bytes of one character. -/
def encodeChar (c : Char) : List UInt8 :=
  let n := c.toNat
  if n < 0x80 then [UInt8.ofNat n]
  else if n < 0x800 then [UInt8.ofNat (0xC0 + n / 0x40), UInt8.ofNat (0x80 + n % 0x40)]
  else if n < 0x10000 then
    [UInt8.ofNat (0xE0 + n / 0x1000), UInt8.ofNat (0x80 + n / 0x40 % 0x40),
      UInt8.ofNat (0x80 + n % 0x40)]
  else
    [UInt8.ofNat (0xF0 + n / 0x40000), UInt8.ofNat (0x80 + n / 0x1000 % 0x40),
      UInt8.ofNat (0x80 + n / 0x40 % 0x40), UInt8.ofNat (0x80 + n % 0x40)]

/-- The bytes of a text. -/
def encode (s : Text) : List UInt8 :=
  s.flatMap encodeChar

/-- Whether a byte continues a character. -/
def isContinuation (b : UInt8) : Bool :=
  0x80 ≤ b && b ≤ 0xBF

/-- Whether `second` may follow `first` in a character of three bytes. -/
def opensThree (first second : UInt8) : Bool :=
  if first = 0xE0 then 0xA0 ≤ second && second ≤ 0xBF
  else if first = 0xED then 0x80 ≤ second && second ≤ 0x9F
  else isContinuation second

/-- Whether `second` may follow `first` in a character of four bytes. -/
def opensFour (first second : UInt8) : Bool :=
  if first = 0xF0 then 0x90 ≤ second && second ≤ 0xBF
  else if first = 0xF4 then 0x80 ≤ second && second ≤ 0x8F
  else isContinuation second

/-- The six bits that a continuing byte carries. -/
def payload (b : UInt8) : Nat :=
  b.toNat % 0x40

/-- Reads the character of several bytes that begins with `first`: the character,
or `none` for a broken sequence, and the bytes behind it. -/
def nextLong (first : UInt8) (rest : List UInt8) : Option Char × List UInt8 :=
  if 0xC2 ≤ first && first ≤ 0xDF then
    match rest with
    | second :: more =>
      if isContinuation second then
        (some (Char.ofNat (first.toNat % 0x20 * 0x40 + payload second)), more)
      else (none, rest)
    | [] => (none, rest)
  else if 0xE0 ≤ first && first ≤ 0xEF then
    match rest with
    | second :: more =>
      if opensThree first second then
        match more with
        | third :: others =>
          if isContinuation third then
            (some (Char.ofNat (first.toNat % 0x10 * 0x1000 + payload second * 0x40 +
              payload third)), others)
          else (none, more)
        | [] => (none, more)
      else (none, rest)
    | [] => (none, rest)
  else if 0xF0 ≤ first && first ≤ 0xF4 then
    match rest with
    | second :: more =>
      if opensFour first second then
        match more with
        | third :: others =>
          if isContinuation third then
            match others with
            | fourth :: behind =>
              if isContinuation fourth then
                (some (Char.ofNat (first.toNat % 0x08 * 0x40000 + payload second * 0x1000 +
                  payload third * 0x40 + payload fourth)), behind)
              else (none, others)
            | [] => (none, others)
          else (none, more)
        | [] => (none, more)
      else (none, rest)
    | [] => (none, rest)
  else (none, rest)

/-- Reads the character that begins with `first`: the character, or `none` for a
broken sequence, and the bytes behind it. -/
def next (first : UInt8) (rest : List UInt8) : Option Char × List UInt8 :=
  if first < 0x80 then (some (Char.ofNat first.toNat), rest) else nextLong first rest

/-- Reading a character takes bytes away and adds none. -/
theorem length_next_le (first : UInt8) (rest : List UInt8) :
    (next first rest).2.length ≤ rest.length := by
  unfold next nextLong
  repeat' split
  all_goals simp_all
  all_goals omega

/-- The characters of a sequence of bytes, `none` for each broken sequence. -/
def scalars : List UInt8 → List (Option Char)
  | [] => []
  | first :: rest =>
    have := length_next_le first rest
    (next first rest).1 :: scalars (next first rest).2
termination_by bytes => bytes.length

/-- The text that a sequence of bytes encodes, when it is well formed. -/
def decode? (bytes : List UInt8) : Option Text :=
  (scalars bytes).mapM id

/-- The text of a sequence of bytes, with U+FFFD for each broken sequence. -/
def decodeLossy (bytes : List UInt8) : Text :=
  (scalars bytes).map fun scalar => scalar.getD (Char.ofNat 0xFFFD)

end Scriptorium.Utf8
