import Scriptorium.Text.Hex
/-! # Percent encoding

A byte is written as a percent sign and two capital hexadecimal digits. Which
characters are written so depends on the place; beyond ASCII all are. Reading
takes either case of the digits and leaves a percent sign alone that no two
digits follow.
-/

namespace Scriptorium.Percent

/-- One byte, written with a percent sign. -/
def escapeByte (b : UInt8) : Text :=
  ['%', Hex.capitalDigit (b.toNat / 16), Hex.capitalDigit (b.toNat % 16)]

/-- A text in which the characters beyond ASCII and those of the class `reserved`
are written with percent signs. -/
def encode (reserved : Char → Bool) (s : Text) : Text :=
  s.flatMap fun c =>
    if 0x80 ≤ c.toNat || reserved c then (Utf8.encodeChar c).flatMap escapeByte else [c]

/-- The bytes that a text of percent escapes and other characters stands for. -/
def decodeBytes : Text → List UInt8
  | [] => []
  | '%' :: high :: low :: rest =>
    match Hex.value? high, Hex.value? low with
    | some h, some l => UInt8.ofNat (h * 16 + l) :: decodeBytes rest
    | _, _ => Utf8.encodeChar '%' ++ decodeBytes (high :: low :: rest)
  | c :: cs => Utf8.encodeChar c ++ decodeBytes cs

/-- The text that percent escapes stand for; U+FFFD for what is not UTF-8. -/
def decode (s : Text) : Text :=
  Utf8.decodeLossy (decodeBytes s)

end Scriptorium.Percent
