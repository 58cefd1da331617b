import Scriptorium.Text.Utf8
/-! # Hexadecimal digits

Bytes as pairs of hexadecimal digits. Writing uses the small letters; reading
takes both cases.
-/

namespace Scriptorium.Hex

/-- The hexadecimal digit of a number below sixteen, with small letters. -/
def digit (n : Nat) : Char :=
  if n < 10 then Char.ofNat ('0'.toNat + n) else Char.ofNat ('a'.toNat + n - 10)

/-- The hexadecimal digit of a number below sixteen, with capital letters. -/
def capitalDigit (n : Nat) : Char :=
  if n < 10 then Char.ofNat ('0'.toNat + n) else Char.ofNat ('A'.toNat + n - 10)

/-- The value of a hexadecimal digit of either case. -/
def value? (c : Char) : Option Nat :=
  if '0' ≤ c && c ≤ '9' then some (c.toNat - '0'.toNat)
  else if 'a' ≤ c && c ≤ 'f' then some (c.toNat - 'a'.toNat + 10)
  else if 'A' ≤ c && c ≤ 'F' then some (c.toNat - 'A'.toNat + 10)
  else none

/-- The two digits of each byte. -/
def encodeBytes (bytes : List UInt8) : Text :=
  bytes.flatMap fun b => [digit (b.toNat / 16), digit (b.toNat % 16)]

/-- The bytes whose digits are given. A lone digit at the end, or a character that
is no digit, gives none. -/
def decodeBytes? : Text → Option (List UInt8)
  | [] => some []
  | [_] => none
  | high :: low :: rest =>
    match value? high, value? low with
    | some h, some l => (decodeBytes? rest).map (UInt8.ofNat (h * 16 + l) :: ·)
    | _, _ => none

/-- The digits of the bytes of a text. -/
def encode (s : Text) : Text :=
  encodeBytes (Utf8.encode s)

/-- The text whose bytes have the given digits. -/
def decode? (s : Text) : Option Text :=
  (decodeBytes? s).bind Utf8.decode?

end Scriptorium.Hex
