import Scriptorium.Proofs.Text.Utf8
import Scriptorium.Text.Hex
/-! # Hexadecimal digits of texts

The digits of a text spell that text again (`Hex.decode?_encode`), and they are small
hexadecimal digits only (`Hex.mem_encode`).
-/

namespace Scriptorium.Hex

/-- The sixteen digits that are written. -/
def digits : Text := "0123456789abcdef".toList

private theorem digit_mem {n : Nat} (small : n < 16) : digit n ∈ digits := by
  have all : ∀ n < 16, digit n ∈ digits := by decide
  exact all n small

/-- A digit is read as its value. -/
theorem value?_digit {n : Nat} (small : n < 16) : value? (digit n) = some n := by
  have all : ∀ n < 16, value? (digit n) = some n := by decide
  exact all n small

/-- The bytes of a text in UTF-8, each spelled in two digits. -/
def spelledBytes (s : Text) : Text :=
  (s.flatMap String.utf8EncodeChar).flatMap fun b =>
    [Nat.digitChar (b.toNat / 16), Nat.digitChar (b.toNat % 16)]

/-- What is written for a text spells its bytes. -/
theorem encode_eq_spelledBytes (s : Text) : encode s = spelledBytes s := by
  have small : ∀ n < 16, digit n = Nat.digitChar n := by decide
  have bytes : Utf8.encode s = s.flatMap String.utf8EncodeChar :=
    congrArg s.flatMap (funext Utf8.encodeChar_eq_utf8EncodeChar)
  rw [encode, encodeBytes, bytes, spelledBytes]
  congr 1
  funext b
  have bound : b.toNat < 256 := b.toNat_lt
  rw [small _ (by omega), small _ (by omega)]

private theorem decodeBytes?_encodeBytes (bytes : List UInt8) :
    decodeBytes? (encodeBytes bytes) = some bytes := by
  induction bytes with
  | nil => rfl
  | cons b bytes ih =>
    have bound : b.toNat < 256 := b.toNat_lt
    have high := value?_digit (n := b.toNat / 16) (by omega)
    have low := value?_digit (n := b.toNat % 16) (by omega)
    have whole : b.toNat / 16 * 16 + b.toNat % 16 = b.toNat := by omega
    simp only [encodeBytes] at ih
    simp only [encodeBytes, List.flatMap_cons, List.cons_append, List.nil_append, decodeBytes?,
      high, low, ih, whole, UInt8.ofNat_toNat, Option.map_some]

/-- **The digits of a text spell it.** -/
theorem decode?_encode (s : Text) : decode? (encode s) = some s := by
  rw [decode?, encode, decodeBytes?_encodeBytes, Option.bind_some, Utf8.decode?_encode]

/-- The digits of a text are small hexadecimal digits. -/
theorem mem_encode {s : Text} {c : Char} (member : c ∈ encode s) : c ∈ digits := by
  simp only [encode, encodeBytes, List.mem_flatMap] at member
  obtain ⟨b, -, member⟩ := member
  have bound : b.toNat < 256 := b.toNat_lt
  simp only [List.mem_cons, List.not_mem_nil, or_false] at member
  rcases member with rfl | rfl
  · exact digit_mem (by omega)
  · exact digit_mem (by omega)

end Scriptorium.Hex
