import Scriptorium.Text.Hex
import Scriptorium.Text.Digit
import Scriptorium.Text.Scan
/-! # JSON

Values of the JSON data format, read by `Json.parse?` and written by `Json.pretty`
with two spaces for each level. Numbers keep their spelling.
-/

namespace Scriptorium

/-- A JSON value. The members of an object keep their order, and a key may come
again. -/
inductive Json where
  | null
  | bool (value : Bool)
  | number (literal : Text)
  | string (value : Text)
  | array (items : List Json)
  | object (members : List (Text × Json))

namespace Json

/-- Whether a character may stand between the parts of a value. -/
def isSpace (c : Char) : Bool :=
  c == ' ' || c == '\n' || c == '\t' || c == '\r'

/-- A text without the space at its start. -/
def skipSpace (s : Text) : Text :=
  s.dropWhile isSpace

/-- The number that four hexadecimal digits stand for. -/
def fourDigits? : Scanner Nat
  | a :: b :: c :: d :: rest => do
    let a ← Hex.value? a
    let b ← Hex.value? b
    let c ← Hex.value? c
    let d ← Hex.value? d
    some (((a * 16 + b) * 16 + c) * 16 + d, rest)
  | _ => none

/-- The character that a single letter behind a backslash stands for. -/
def shortEscape? : Char → Option Char
  | '"' => some '"'
  | '\\' => some '\\'
  | '/' => some '/'
  | 'b' => some '\x08'
  | 'f' => some '\x0c'
  | 'n' => some '\n'
  | 'r' => some '\r'
  | 't' => some '\t'
  | _ => none

/-- The character behind `\u`. A character beyond the first plane is written as two
escapes, a high half and a low half; a half alone stands for nothing. -/
def longEscape? (s : Text) : Option (Char × Text) := do
  let (high, rest) ← fourDigits? s
  if 0xDC00 ≤ high && high ≤ 0xDFFF then none
  else if 0xD800 ≤ high && high ≤ 0xDBFF then
    match rest with
    | '\\' :: 'u' :: rest =>
      let (low, rest) ← fourDigits? rest
      if 0xDC00 ≤ low && low ≤ 0xDFFF then
        some (Char.ofNat (0x10000 + (high - 0xD800) * 0x400 + (low - 0xDC00)), rest)
      else none
    | _ => none
  else some (Char.ofNat high, rest)

/-- The rest of a string behind its opening quote, up to the closing one. Control
characters do not stand in strings. -/
def stringBody (fuel : Nat) (s : Text) : Option (Text × Text) :=
  match fuel, s with
  | 0, _ | _, [] => none
  | _, '"' :: rest => some ([], rest)
  | fuel + 1, '\\' :: 'u' :: rest => do
    let (c, rest) ← longEscape? rest
    let (body, rest) ← stringBody fuel rest
    some (c :: body, rest)
  | fuel + 1, '\\' :: e :: rest => do
    let c ← shortEscape? e
    let (body, rest) ← stringBody fuel rest
    some (c :: body, rest)
  | fuel + 1, c :: rest =>
    if c.toNat < 0x20 || c = '\\' then none
    else (stringBody fuel rest).map fun (body, rest) => (c :: body, rest)

/-- A string from its opening quote on. -/
def string? : Scanner Text
  | '"' :: rest => stringBody rest.length.succ rest
  | _ => none

/-- One or more digits. -/
def digits? : Scanner Text :=
  Scanner.run isAsciiDigit

/-- The part of a number before its point: no digit stands behind a leading zero. -/
def integer? : Scanner Text
  | '0' :: rest => some (['0'], rest)
  | s => digits? s

/-- The part of a number behind a point, with it; nothing when there is no point. -/
def fraction? : Scanner Text
  | '.' :: rest => (digits? rest).map fun (digits, rest) => ('.' :: digits, rest)
  | s => some ([], s)

/-- An exponent; nothing when there is none. -/
def exponent? : Scanner Text
  | [] => some ([], [])
  | c :: rest =>
    if c = 'e' || c = 'E' then
      match rest with
      | '+' :: more => (digits? more).map fun (digits, rest) => (c :: '+' :: digits, rest)
      | '-' :: more => (digits? more).map fun (digits, rest) => (c :: '-' :: digits, rest)
      | more => (digits? more).map fun (digits, rest) => (c :: digits, rest)
    else some ([], c :: rest)

/-- A number, as it is spelled. -/
def number? (s : Text) : Option (Text × Text) := do
  let (sign, s) := match s with
    | '-' :: rest => (['-'], rest)
    | _ => ([], s)
  let (whole, s) ← integer? s
  let (fraction, s) ← fraction? s
  let (exponent, s) ← exponent? s
  some (sign ++ whole ++ fraction ++ exponent, s)

mutual

/-- A value, and the rest behind it. The fuel bounds the number of steps. -/
def value? : Nat → Scanner Json
  | 0, _ => none
  | fuel + 1, s =>
    match skipSpace s with
    | 'n' :: 'u' :: 'l' :: 'l' :: rest => some (null, rest)
    | 't' :: 'r' :: 'u' :: 'e' :: rest => some (bool true, rest)
    | 'f' :: 'a' :: 'l' :: 's' :: 'e' :: rest => some (bool false, rest)
    | '"' :: rest => (string? ('"' :: rest)).map fun (text, rest) => (string text, rest)
    | '[' :: rest =>
      match skipSpace rest with
      | ']' :: rest => some (array [], rest)
      | rest => (items? fuel rest).map fun (items, rest) => (array items, rest)
    | '{' :: rest =>
      match skipSpace rest with
      | '}' :: rest => some (object [], rest)
      | rest => (members? fuel rest).map fun (members, rest) => (object members, rest)
    | rest => (number? rest).map fun (literal, rest) => (number literal, rest)

/-- The items of an array up to its closing bracket. -/
def items? : Nat → Scanner (List Json)
  | 0, _ => none
  | fuel + 1, s => do
    let (item, rest) ← value? fuel s
    match skipSpace rest with
    | ',' :: rest => (items? fuel rest).map fun (items, rest) => (item :: items, rest)
    | ']' :: rest => some ([item], rest)
    | _ => none

/-- The members of an object up to its closing brace. -/
def members? : Nat → Scanner (List (Text × Json))
  | 0, _ => none
  | fuel + 1, s => do
    let (key, rest) ← string? (skipSpace s)
    match skipSpace rest with
    | ':' :: rest =>
      let (item, rest) ← value? fuel rest
      match skipSpace rest with
      | ',' :: rest =>
        (members? fuel rest).map fun (members, rest) => ((key, item) :: members, rest)
      | '}' :: rest => some ([(key, item)], rest)
      | _ => none
    | _ => none

end

/-- The value that a text spells, with space around it. -/
def parse? (s : Text) : Option Json :=
  match value? s.length.succ s with
  | some (value, rest) => if (skipSpace rest).isEmpty then some value else none
  | none => none

/-- How one character is written inside a string. -/
def escapeChar (c : Char) : Text :=
  if c = '"' then ['\\', '"']
  else if c = '\\' then ['\\', '\\']
  else if c = '\n' then ['\\', 'n']
  else if c = '\r' then ['\\', 'r']
  else if c = '\t' then ['\\', 't']
  else if c.toNat = 8 then ['\\', 'b']
  else if c.toNat = 12 then ['\\', 'f']
  else if c.toNat < 0x20 then
    ['\\', 'u', '0', '0', Hex.digit (c.toNat / 16), Hex.digit (c.toNat % 16)]
  else [c]

/-- A string in its quotes. -/
def quote (s : Text) : Text :=
  '"' :: s.flatMap escapeChar ++ ['"']

/-- A new line at the given level. -/
def newLine (level : Nat) : Text :=
  '\n' :: List.replicate (2 * level) ' '

mutual

/-- A value whose lines behind the first stand at the given level or deeper. -/
def prettyAt (level : Nat) : Json → Text
  | null => "null".toList
  | bool true => "true".toList
  | bool false => "false".toList
  | number literal => literal
  | string value => quote value
  | array [] => ['[', ']']
  | array (item :: items) =>
    '[' :: newLine (level + 1) ++ prettyAt (level + 1) item ++ prettyItems (level + 1) items ++
      newLine level ++ [']']
  | object [] => ['{', '}']
  | object ((key, item) :: members) =>
    '{' :: newLine (level + 1) ++ quote key ++ ':' :: ' ' :: prettyAt (level + 1) item ++
      prettyMembers (level + 1) members ++ newLine level ++ ['}']

/-- The items behind the first one. -/
def prettyItems (level : Nat) : List Json → Text
  | [] => []
  | item :: items =>
    ',' :: newLine level ++ prettyAt level item ++ prettyItems level items

/-- The members behind the first one. -/
def prettyMembers (level : Nat) : List (Text × Json) → Text
  | [] => []
  | (key, item) :: members =>
    ',' :: newLine level ++ quote key ++ ':' :: ' ' :: prettyAt level item ++
      prettyMembers level members

end

/-- A value with each item and member on a line of its own. -/
def pretty (value : Json) : Text :=
  prettyAt 0 value

end Json

end Scriptorium
