import Scriptorium.Proofs.Link.Decode
import Scriptorium.Proofs.Text.Rewriting
import Scriptorium.Publication
/-! # Writing destinations

A path is written as a destination with each of its segments percent-encoded and the whole
escaped for an attribute (`Link.written`). Bytes may be spelled with percent escapes in many ways
(`Percent.Spells`), an encoding is one of them, and where percent signs are escaped the text is
read back from each (`Percent.Spells.decode_eq`). An encoding that escapes what addresses reserve
holds nothing that HTML escapes (`Percent.not_mem_encode`). So the path is what is read from the
destination (`Link.decode_written`).
-/

namespace Scriptorium

private theorem Hex.value?_capitalDigit {n : Nat} (small : n < 16) :
    value? (capitalDigit n) = some n := by
  have all : ∀ n < 16, value? (capitalDigit n) = some n := by decide
  exact all n small

/-- The sixteen digits of percent escapes. -/
def Hex.capitalDigits : Text := "0123456789ABCDEF".toList

private theorem Hex.capitalDigit_mem {n : Nat} (small : n < 16) :
    capitalDigit n ∈ capitalDigits := by
  have all : ∀ n < 16, capitalDigit n ∈ capitalDigits := by decide
  exact all n small

/-! ## Percent escapes -/

namespace Percent

variable {reserved : Char → Bool} {c : Char} {s : Text} {bytes : List UInt8}

/-- A text spells bytes: each is written with two hexadecimal digits of either case, or as its
own character when that is in ASCII and not reserved. -/
inductive Spells (reserved : Char → Bool) : Text → List UInt8 → Prop where
  | nil : Spells reserved [] []
  | escape {high low : Char} {h l : Nat} (first : Hex.value? high = some h)
      (second : Hex.value? low = some l) {s : Text} {bytes : List UInt8}
      (behind : Spells reserved s bytes) :
      Spells reserved ('%' :: high :: low :: s) (UInt8.ofNat (h * 16 + l) :: bytes)
  | plain {c : Char} (ascii : c.toNat < 0x80) (free : reserved c = false) {s : Text}
      {bytes : List UInt8} (behind : Spells reserved s bytes) :
      Spells reserved (c :: s) (UInt8.ofNat c.toNat :: bytes)

/-- Where percent signs are escaped, the bytes are read back. -/
theorem Spells.decodeBytes_eq (escaped : reserved '%' = true) (spells : Spells reserved s bytes) :
    decodeBytes s = bytes := by
  induction spells with
  | nil => rfl
  | escape first second behind ih => rw [decodeBytes_of_escape first second, ih]
  | @plain c ascii free s bytes behind ih =>
    have other : c ≠ '%' := by
      rintro rfl
      rw [escaped] at free
      cases free
    rw [decodeBytes_of_plain fun _ _ _ _ _ same => absurd same other, encodeChar_of_ascii ascii, ih,
      List.singleton_append]

/-- **A text is read from every spelling of its bytes.** -/
theorem Spells.decode_eq {text : Text} (escaped : reserved '%' = true)
    (spells : Spells reserved s (Utf8.encode text)) : decode s = text := by
  rw [decode, spells.decodeBytes_eq escaped, Utf8.decodeLossy, Utf8.scalars_encode, List.map_map]
  exact List.map_id text

private theorem Spells.escapes (front : List UInt8) (behind : Spells reserved s bytes) :
    Spells reserved (front.flatMap escapeByte ++ s) (front ++ bytes) := by
  induction front with
  | nil => exact behind
  | cons b front ih =>
    have bound : b.toNat < 256 := b.toNat_lt
    have whole : b.toNat / 16 * 16 + b.toNat % 16 = b.toNat := by omega
    have next := Spells.escape (Hex.value?_capitalDigit (n := b.toNat / 16) (by omega))
      (Hex.value?_capitalDigit (n := b.toNat % 16) (by omega)) ih
    rwa [whole, UInt8.ofNat_toNat] at next

/-- An encoding that escapes at least what is reserved spells the bytes of the text. -/
theorem spells_encode {more : Char → Bool} (reserves : ∀ c, reserved c = true → more c = true)
    (s : Text) : Spells reserved (encode more s) (Utf8.encode s) := by
  induction s with
  | nil => exact .nil
  | cons c s ih =>
    rw [encode, List.flatMap_cons, Utf8.encode, List.flatMap_cons]
    split
    · exact ih.escapes _
    · rename_i plain
      simp only [Bool.or_eq_true, decide_eq_true_eq, not_or, Nat.not_le] at plain
      rw [encodeChar_of_ascii plain.1]
      exact .plain plain.1 (Bool.eq_false_iff.mpr (mt (reserves c) plain.2)) ih

/-- **An encoded text is read back.** -/
theorem decode_encode (escaped : reserved '%' = true) (s : Text) :
    decode (encode reserved s) = s :=
  (spells_encode (fun _ sign => sign) s).decode_eq escaped

/-- An encoding holds escapes and characters that are not reserved. -/
theorem mem_encode (member : c ∈ encode reserved s) :
    c ∈ '%' :: Hex.capitalDigits ∨ (c.toNat < 0x80 ∧ reserved c = false ∧ c ∈ s) := by
  obtain ⟨d, held, written⟩ := List.mem_flatMap.mp member
  split at written
  · left
    obtain ⟨b, -, digits⟩ := List.mem_flatMap.mp written
    have bound : b.toNat < 256 := b.toNat_lt
    simp only [escapeByte, List.mem_cons, List.not_mem_nil, or_false] at digits
    rcases digits with rfl | rfl | rfl
    · exact List.mem_cons_self
    · exact List.mem_cons_of_mem _ (Hex.capitalDigit_mem (by omega))
    · exact List.mem_cons_of_mem _ (Hex.capitalDigit_mem (by omega))
  · rename_i plain
    obtain rfl := List.mem_singleton.mp written
    simp only [Bool.or_eq_true, decide_eq_true_eq, not_or, Nat.not_le, Bool.not_eq_true] at plain
    exact .inr ⟨plain.1, plain.2, held⟩

/-- What is reserved stands in no encoding, the signs of escapes apart. -/
theorem not_mem_encode (escaped : reserved c = true) (other : c ∉ '%' :: Hex.capitalDigits)
    (s : Text) : c ∉ encode reserved s := by
  intro member
  rcases mem_encode member with sign | ⟨-, plain, -⟩
  · exact other sign
  · rw [escaped] at plain
    cases plain

end Percent

/-! ## Paths as destinations -/

private theorem Html.escape_eq_self {s : Text} (plain : ∀ c ∈ "&<>\"".toList, c ∉ s) :
    escape s = s := by
  refine Lexicon.flatMap_eq_self fun c member => ?_
  unfold escapeChar
  split
  iterate 4 exact absurd member (plain _ (by decide))
  rfl

namespace Link

/-- The destination that leads to a path, given by its segments: each is percent-encoded, and
the whole is escaped for an attribute. -/
def written (reserved : Char → Bool) (segments : List Text) : Text :=
  Html.escape (Text.join ['/'] (segments.map (Percent.encode reserved)))

variable {reserved : Char → Bool} {c : Char}

/-- Segments are read each on its own. -/
theorem reading_join (parts : List Text) :
    reading (Text.join ['/'] parts) = Text.join ['/'] (parts.map reading) := by
  unfold Text.join
  induction parts with
  | nil => exact reading_nil
  | cons part parts ih =>
    cases parts with
    | nil => rw [List.map_singleton, List.intercalate_singleton, List.intercalate_singleton]
    | cons next parts =>
      rw [List.intercalate_cons_cons, List.map_cons, List.map_cons, List.intercalate_cons_cons,
        List.append_assoc, List.singleton_append, reading_append_cons (by decide), ih,
        List.map_cons, List.append_assoc, List.singleton_append]

/-- What addresses reserve stands in no destination that is written. -/
theorem not_mem_encoded (reserves : ∀ c, Config.isReserved c = true → reserved c = true)
    (listed : Config.isReserved c = true) (other : c ∉ '/' :: '%' :: Hex.capitalDigits)
    (segments : List Text) : c ∉ Text.join ['/'] (segments.map (Percent.encode reserved)) := by
  have noSlash : c ≠ '/' := List.ne_of_not_mem_cons other
  refine Text.not_mem_join (by simpa using noSlash) (List.forall_mem_map.mpr fun segment _ => ?_)
  exact Percent.not_mem_encode (reserves c listed) (List.not_mem_of_not_mem_cons other) segment

/-- Where the slash is reserved, a path is encoded segment by segment. -/
theorem written_eq (reserves : ∀ c, Config.isReserved c = true → reserved c = true)
    (segments : List Text) :
    written reserved segments = Text.join ['/'] (segments.map (Percent.encode reserved)) := by
  have specials : "&<>\"".toList.all (fun c => Config.isReserved c &&
      !('/' :: '%' :: Hex.capitalDigits).contains c) = true := by decide
  refine Html.escape_eq_self fun c special => ?_
  have listed := Bool.and_eq_true_iff.mp (List.all_eq_true.mp specials c special)
  exact not_mem_encoded reserves listed.1 (by simpa using listed.2) segments

/-- **The path is read from its destination.** -/
theorem decode_written (reserves : ∀ c, Config.isReserved c = true → reserved c = true)
    (segments : List Text) : decode (written reserved segments) = Text.join ['/'] segments := by
  have absent (c : Char) (listed : Config.isReserved c = true)
      (other : c ∉ '/' :: '%' :: Hex.capitalDigits) :=
    not_mem_encoded reserves listed other segments
  have bare : ¬ ['<'] <+: written reserved segments := by
    rw [written_eq reserves]
    exact fun opens => absent '<' (by decide) (by decide) (opens.subset List.mem_cons_self)
  have read (segment : Text) : reading (Percent.encode reserved segment) = segment := by
    have reference : '&' ∉ Percent.encode reserved segment :=
      Percent.not_mem_encode (reserves _ (by decide)) (by decide) segment
    rw [reading, unescape_eq_self reference, Percent.decode_encode (reserves _ (by decide))]
  rw [decode_of_bare bare, written_eq reserves, reading_join, List.map_map]
  exact congrArg _ ((List.map_congr_left fun segment _ => read segment).trans (List.map_id _))

end Link

end Scriptorium
