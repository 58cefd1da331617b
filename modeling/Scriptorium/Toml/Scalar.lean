import Scriptorium.Text.Digit
import Scriptorium.Text.Hex
import Scriptorium.Text.Scan
/-! # Strings, numbers and points in time

The values of a TOML document that hold no other values, as they are spelled.
-/

namespace Scriptorium.Toml

/-- Whether a character is white space within a line. -/
def isSpace (c : Char) : Bool :=
  c == ' ' || c == '\t'

/-- Whether a character may stand in a comment or, but for quotes and backslashes, in a
string: all but control characters, and the tab. -/
def isPlain (c : Char) : Bool :=
  c == '\t' || (0x20 ≤ c.toNat && c.toNat != 0x7F)

/-- The end of a line. -/
def lineBreak? : Scanner Unit
  | '\n' :: rest => some ((), rest)
  | '\r' :: '\n' :: rest => some ((), rest)
  | _ => none

/-- A text without the white space and line ends at its start. -/
def skipBreaks : Text → Text
  | '\r' :: '\n' :: rest => skipBreaks rest
  | c :: rest => if isSpace c || c = '\n' then skipBreaks rest else c :: rest
  | [] => []

/-! ## Strings -/

/-- The character that a number of hexadecimal digits names. -/
def namedChar? (count : Nat) : Scanner Char := fun s => do
  let digits ← (s.take count).mapM Hex.value?
  let code := digits.foldl (fun n digit => n * 16 + digit) 0
  if digits.length = count && code.isValidChar then some (Char.ofNat code, s.drop count) else none

/-- The character of an escape, behind its backslash. -/
def escape? : Scanner Char
  | 'b' :: rest => some ('\x08', rest)
  | 'f' :: rest => some ('\x0c', rest)
  | 'n' :: rest => some ('\n', rest)
  | 'r' :: rest => some ('\r', rest)
  | 't' :: rest => some ('\t', rest)
  | '"' :: rest => some ('"', rest)
  | '\\' :: rest => some ('\\', rest)
  | 'u' :: rest => namedChar? 4 rest
  | 'U' :: rest => namedChar? 8 rest
  | _ => none

/-- The rest of a string on one line, behind its opening quote. Escapes are read
between double quotes only. -/
def lineString? (quote : Char) (s : Text) : Option (Text × Text) :=
  match s with
  | [] => none
  | c :: rest =>
    if c = quote then some ([], rest)
    else if c = '\\' && quote = '"' then do
      let (escaped, after) ← escape? rest
      if after.length ≤ rest.length then
        (lineString? quote after).map fun (body, rest) => (escaped :: body, rest)
      else none
    else if isPlain c then (lineString? quote rest).map fun (body, rest) => (c :: body, rest)
    else none
termination_by s.length

/-- The rest of a string that may have several lines, behind its three opening quotes. Up
to two quotes may stand before the three closing ones, and belong to the string. -/
def blockString? (quote : Char) (s : Text) : Option (Text × Text) :=
  match s with
  | [] => none
  | c :: rest =>
    if c = quote then
      let quotes := c :: rest.takeWhile (· == quote)
      let after := rest.dropWhile (· == quote)
      if 5 < quotes.length then none
      else if 3 ≤ quotes.length then some (quotes.drop 3, after)
      else
        have := (List.dropWhile_suffix (l := rest) (· == quote)).length_le
        (blockString? quote after).map fun (body, rest) => (quotes ++ body, rest)
    else if c = '\\' && quote = '"' then
      match lineBreak? (rest.dropWhile isSpace) with
      | some (_, after) =>
        if (skipBreaks after).length ≤ rest.length then blockString? quote (skipBreaks after)
        else none
      | none => do
        let (escaped, after) ← escape? rest
        if after.length ≤ rest.length then
          (blockString? quote after).map fun (body, rest) => (escaped :: body, rest)
        else none
    else
      match lineBreak? s with
      | some (_, after) =>
        if after.length ≤ rest.length then
          (blockString? quote after).map fun (body, rest) => ('\n' :: body, rest)
        else none
      | none =>
        if isPlain c then (blockString? quote rest).map fun (body, rest) => (c :: body, rest)
        else none
termination_by s.length

/-- A string in quotes of the given kind. A line end directly behind three opening quotes
does not belong to it. -/
def string? (quote : Char) : Scanner Text := fun s =>
  match Text.dropStart? [quote, quote, quote] s with
  | some rest =>
    match lineBreak? rest with
    | some (_, rest) => blockString? quote rest
    | none => blockString? quote rest
  | none => do
    let (_, rest) ← Scanner.literal [quote] s
    lineString? quote rest

/-! ## Numbers -/

/-- Digits of the class `p`, between two of which a low line may stand. Gives the digits
without the low lines. -/
def digits? (p : Char → Bool) : Scanner Text
  | c :: '_' :: d :: rest =>
    if p c && p d then (digits? p (d :: rest)).map fun (digits, rest) => (c :: digits, rest)
    else if p c then some ([c], '_' :: d :: rest)
    else none
  | c :: rest =>
    if p c then
      match digits? p rest with
      | some (digits, rest) => some (c :: digits, rest)
      | none => some ([c], rest)
    else none
  | [] => none

/-- A sign, or none. -/
def sign : Text → Text × Text
  | '+' :: rest => (['+'], rest)
  | '-' :: rest => (['-'], rest)
  | s => ([], s)

/-- A whole number without a sign: no digit stands behind a leading zero. -/
def whole? : Scanner Text
  | '0' :: rest => some (['0'], rest)
  | s => digits? isAsciiDigit s

/-- The number that digits stand for in the given base. -/
def valueOf (base : Nat) (digits : Text) : Nat :=
  (digits.filterMap Hex.value?).foldl (fun n digit => n * base + digit) 0

/-- Whether a character is a digit of the given base. -/
def isDigitOf (base : Nat) (c : Char) : Bool :=
  (Hex.value? c).any (· < base)

/-- A whole number behind a mark of its base. -/
def based? (mark : Char) (base : Nat) : Scanner Text := fun s => do
  let (_, rest) ← Scanner.literal ['0', mark] s
  let (digits, rest) ← digits? (isDigitOf base) rest
  if valueOf base digits < 0x8000000000000000 then some ('0' :: mark :: digits, rest) else none

/-- A whole number, which has 64 bits with its sign. -/
def integer? : Scanner Text := fun s =>
  based? 'x' 16 s <|> based? 'o' 8 s <|> based? 'b' 2 s <|> do
    let (sign, rest) := sign s
    let (digits, rest) ← whole? rest
    let limit := if sign = ['-'] then 0x8000000000000001 else 0x8000000000000000
    if valueOf 10 digits < limit then some (sign ++ digits, rest) else none

/-- The exponent of a number, behind its letter: its sign and its digits. -/
def exponent? : Scanner (Text × Text)
  | [] => none
  | c :: rest => do
    if c = 'e' || c = 'E' then
      let (sign, rest) := sign rest
      let (digits, rest) ← digits? isAsciiDigit rest
      some ((sign, digits), rest)
    else none

/-- Whether a decimal number is too large for a floating-point number of 64 bits, so
that it would be rounded to infinity. The number has the given digits and a power of
ten. -/
def isTooLarge (digits : Text) (power : Int) : Bool :=
  let significant := digits.dropWhile (· == '0')
  let size := (significant.length : Int) + power
  if significant.isEmpty || size < 309 then false
  else if 309 < size then true
  else
    let limit := Nat.pow 2 1024 - Nat.pow 2 970
    let value := valueOf 10 significant
    if 0 ≤ power then limit ≤ value * Nat.pow 10 power.toNat
    else limit * Nat.pow 10 (-power).toNat ≤ value

/-- A number with a point or an exponent. One too large for its format is refused,
unless it is negative. -/
def decimal? : Scanner Text := fun s => do
  let (sign, rest) := sign s
  let (digits, rest) ← whole? rest
  let (fraction, rest) :=
    match rest with
    | '.' :: more => (digits? isAsciiDigit more).getD ([], rest)
    | _ => ([], rest)
  match exponent? rest with
  | some ((exponentSign, exponent), rest) =>
    let size := (valueOf 10 exponent : Int)
    let power := (if exponentSign = ['-'] then -size else size) - fraction.length
    if sign ≠ ['-'] && isTooLarge (digits ++ fraction) power then none
    else some (sign ++ digits ++ '.' :: fraction ++ 'e' :: exponentSign ++ exponent, rest)
  | none =>
    if fraction.isEmpty || (sign ≠ ['-'] && isTooLarge (digits ++ fraction) (-fraction.length)) then
      none
    else some (sign ++ digits ++ '.' :: fraction, rest)

/-- Infinity, or what is no number, with a sign or not. -/
def special? : Scanner Text := fun s =>
  let (sign, rest) := sign s
  match rest with
  | 'i' :: 'n' :: 'f' :: rest => some (sign ++ "inf".toList, rest)
  | 'n' :: 'a' :: 'n' :: rest => some (sign ++ "nan".toList, rest)
  | _ => none

/-- A number. -/
def number? : Scanner Text := fun s =>
  decimal? s <|> special? s <|> integer? s

/-! ## Points in time -/

/-- Exactly so many digits whose value is in a range. -/
def numeral? (count low high : Nat) : Scanner Nat := fun s =>
  let digits := s.take count
  let value := valueOf 10 digits
  if digits.length = count && digits.all isAsciiDigit && low ≤ value && value ≤ high then
    some (value, s.drop count)
  else none

/-- The days of a month. -/
def daysIn (year month : Nat) : Nat :=
  if month = 2 then if year % 4 = 0 && (year % 100 ≠ 0 || year % 400 = 0) then 29 else 28
  else if [4, 6, 9, 11].contains month then 30
  else 31

/-- A date. -/
def date? : Scanner Unit := fun s => do
  let (year, rest) ← numeral? 4 0 9999 s
  let (_, rest) ← Scanner.literal ['-'] rest
  let (month, rest) ← numeral? 2 1 12 rest
  let (_, rest) ← Scanner.literal ['-'] rest
  let (_, rest) ← numeral? 2 1 (daysIn year month) rest
  some ((), rest)

/-- Hours and minutes. -/
def clock? : Scanner Unit := fun s => do
  let (_, rest) ← numeral? 2 0 23 s
  let (_, rest) ← Scanner.literal [':'] rest
  let (_, rest) ← numeral? 2 0 59 rest
  some ((), rest)

/-- A time of day, with parts of a second or without; a minute may have a leap second. -/
def time? : Scanner Unit := fun s => do
  let (_, rest) ← clock? s
  let (_, rest) ← Scanner.literal [':'] rest
  let (_, rest) ← numeral? 2 0 60 rest
  match rest with
  | '.' :: more => some ((), ((Scanner.run isAsciiDigit more).map Prod.snd).getD rest)
  | _ => some ((), rest)

/-- The offset of a time zone. -/
def zone? : Scanner Unit
  | 'Z' :: rest => some ((), rest)
  | 'z' :: rest => some ((), rest)
  | '+' :: rest => clock? rest
  | '-' :: rest => clock? rest
  | _ => none

/-- A time of day behind a date, with its offset or without. -/
def timeOfDate? : Scanner Unit
  | [] => none
  | c :: rest =>
    if c = 'T' || c = 't' || c = ' ' then do
      let (_, rest) ← time? rest
      some ((zone? rest).getD ((), rest))
    else none

/-- A date, a time, or both. Gives its spelling. -/
def moment? : Scanner Text := fun s => do
  let (_, rest) ←
    match date? s with
    | some (_, rest) => some ((timeOfDate? rest).getD ((), rest))
    | none => time? s
  some (s.take (s.length - rest.length), rest)

end Scriptorium.Toml
