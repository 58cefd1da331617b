import Scriptorium.Text.Utf8
/-! # Bytes of texts

The bytes of a text are read back as that text (`Utf8.decode?_encode`): each character
is read back from its own bytes, whatever bytes follow (`Utf8.next_encodeChar`).
-/

namespace Scriptorium.Utf8

/-- The code point of a character is no surrogate. -/
theorem toNat_valid (c : Char) : c.toNat < 0xD800 ∨ 0xDFFF < c.toNat ∧ c.toNat < 0x110000 :=
  c.valid

/-- The bytes of a character are those that Lean's own strings are kept in. -/
theorem encodeChar_eq_utf8EncodeChar (c : Char) : encodeChar c = String.utf8EncodeChar c := by
  have valid := toNat_valid c
  have same : c.val.toNat = c.toNat := rfl
  have turned (lead part : Nat) : UInt8.ofNat (lead + part) = UInt8.ofNat (part + lead) := by
    rw [Nat.add_comm]
  have whole {n bound : Nat} (small : n < bound) : n % bound = n := Nat.mod_eq_of_lt small
  simp only [encodeChar, String.utf8EncodeChar, same]
  split
  · rw [if_pos (by omega)]
  · split
    · rw [if_neg (by omega), if_pos (by omega), turned, whole (by omega : c.toNat / 64 < 32),
        turned 128]
    · split
      · rw [if_neg (by omega), if_neg (by omega), if_pos (by omega), turned,
          whole (by omega : c.toNat / 4096 < 16), turned 128, turned 128]
      · rw [if_neg (by omega), if_neg (by omega), if_neg (by omega), turned,
          whole (by omega : c.toNat / 262144 < 8), turned 128, turned 128, turned 128]

/-- A number below 256 is the value of its byte. -/
theorem toNat_ofNat_of_lt {n : Nat} (small : n < 256) : (UInt8.ofNat n).toNat = n := by
  simp only [UInt8.toNat_ofNat', Nat.reducePow]
  exact Nat.mod_eq_of_lt small

/-- A byte of the form `10xxxxxx` continues a character. -/
theorem isContinuation_ofNat (n : Nat) : isContinuation (UInt8.ofNat (0x80 + n % 0x40)) = true := by
  have value := toNat_ofNat_of_lt (n := 0x80 + n % 0x40) (by omega)
  simp only [isContinuation, UInt8.le_iff_toNat_le, value, Bool.and_eq_true, decide_eq_true_eq,
    UInt8.reduceToNat]
  omega

private theorem payload_ofNat (n : Nat) : payload (UInt8.ofNat (0x80 + n % 0x40)) = n % 0x40 := by
  rw [payload, toNat_ofNat_of_lt (by omega)]
  omega

/-- Two bytes are read as the code point that they were made of. -/
theorem nextLong_two {n : Nat} (low : 0x80 ≤ n) (high : n < 0x800) (rest : List UInt8) :
    nextLong (UInt8.ofNat (0xC0 + n / 0x40)) (UInt8.ofNat (0x80 + n % 0x40) :: rest) =
      (some (Char.ofNat n), rest) := by
  have lead := toNat_ofNat_of_lt (n := 0xC0 + n / 0x40) (by omega)
  have opens : 0xC2 ≤ UInt8.ofNat (0xC0 + n / 0x40) ∧ UInt8.ofNat (0xC0 + n / 0x40) ≤ 0xDF := by
    simp only [UInt8.le_iff_toNat_le, lead, UInt8.reduceToNat]
    omega
  have value : (0xC0 + n / 0x40) % 0x20 * 0x40 + n % 0x40 = n := by omega
  simp only [nextLong, opens, isContinuation_ofNat, payload_ofNat, lead, value,
    Bool.and_eq_true, decide_eq_true_eq, and_self, ↓reduceIte]

/-- The second of three bytes is one that may follow the first: no code point below
0x800 is written so, and no surrogate. -/
theorem opensThree_ofNat {n : Nat} (low : 0x800 ≤ n) (high : n < 0x10000)
    (valid : n < 0xD800 ∨ 0xDFFF < n) :
    opensThree (UInt8.ofNat (0xE0 + n / 0x1000)) (UInt8.ofNat (0x80 + n / 0x40 % 0x40)) = true := by
  have lead := toNat_ofNat_of_lt (n := 0xE0 + n / 0x1000) (by omega)
  have second := toNat_ofNat_of_lt (n := 0x80 + n / 0x40 % 0x40) (by omega)
  simp only [opensThree, isContinuation, ← UInt8.toNat_inj, UInt8.le_iff_toNat_le, lead, second,
    UInt8.reduceToNat]
  repeat' split
  all_goals simp only [Bool.and_eq_true, decide_eq_true_eq]; omega

/-- The second of four bytes is one that may follow the first. -/
theorem opensFour_ofNat {n : Nat} (low : 0x10000 ≤ n) (high : n < 0x110000) :
    opensFour (UInt8.ofNat (0xF0 + n / 0x40000)) (UInt8.ofNat (0x80 + n / 0x1000 % 0x40)) =
      true := by
  have lead := toNat_ofNat_of_lt (n := 0xF0 + n / 0x40000) (by omega)
  have second := toNat_ofNat_of_lt (n := 0x80 + n / 0x1000 % 0x40) (by omega)
  simp only [opensFour, isContinuation, ← UInt8.toNat_inj, UInt8.le_iff_toNat_le, lead, second,
    UInt8.reduceToNat]
  repeat' split
  all_goals simp only [Bool.and_eq_true, decide_eq_true_eq]; omega

/-- Three bytes are read as the code point that they were made of. -/
theorem nextLong_three {n : Nat} (low : 0x800 ≤ n) (high : n < 0x10000)
    (valid : n < 0xD800 ∨ 0xDFFF < n) (rest : List UInt8) :
    nextLong (UInt8.ofNat (0xE0 + n / 0x1000)) (UInt8.ofNat (0x80 + n / 0x40 % 0x40) ::
        UInt8.ofNat (0x80 + n % 0x40) :: rest) =
      (some (Char.ofNat n), rest) := by
  have lead := toNat_ofNat_of_lt (n := 0xE0 + n / 0x1000) (by omega)
  have notTwo : ¬ (0xC2 ≤ UInt8.ofNat (0xE0 + n / 0x1000) ∧
      UInt8.ofNat (0xE0 + n / 0x1000) ≤ 0xDF) := by
    simp only [UInt8.le_iff_toNat_le, lead, UInt8.reduceToNat]
    omega
  have opens : 0xE0 ≤ UInt8.ofNat (0xE0 + n / 0x1000) ∧
      UInt8.ofNat (0xE0 + n / 0x1000) ≤ 0xEF := by
    simp only [UInt8.le_iff_toNat_le, lead, UInt8.reduceToNat]
    omega
  have value : (0xE0 + n / 0x1000) % 0x10 * 0x1000 + n / 0x40 % 0x40 * 0x40 + n % 0x40 = n := by
    omega
  simp only [nextLong, notTwo, opens, opensThree_ofNat low high valid, isContinuation_ofNat,
    payload_ofNat, lead, value, Bool.and_eq_true, decide_eq_true_eq, and_self, ↓reduceIte]

/-- Four bytes are read as the code point that they were made of. -/
theorem nextLong_four {n : Nat} (low : 0x10000 ≤ n) (high : n < 0x110000) (rest : List UInt8) :
    nextLong (UInt8.ofNat (0xF0 + n / 0x40000)) (UInt8.ofNat (0x80 + n / 0x1000 % 0x40) ::
        UInt8.ofNat (0x80 + n / 0x40 % 0x40) :: UInt8.ofNat (0x80 + n % 0x40) :: rest) =
      (some (Char.ofNat n), rest) := by
  have lead := toNat_ofNat_of_lt (n := 0xF0 + n / 0x40000) (by omega)
  have notTwo : ¬ (0xC2 ≤ UInt8.ofNat (0xF0 + n / 0x40000) ∧
      UInt8.ofNat (0xF0 + n / 0x40000) ≤ 0xDF) := by
    simp only [UInt8.le_iff_toNat_le, lead, UInt8.reduceToNat]
    omega
  have notThree : ¬ (0xE0 ≤ UInt8.ofNat (0xF0 + n / 0x40000) ∧
      UInt8.ofNat (0xF0 + n / 0x40000) ≤ 0xEF) := by
    simp only [UInt8.le_iff_toNat_le, lead, UInt8.reduceToNat]
    omega
  have opens : 0xF0 ≤ UInt8.ofNat (0xF0 + n / 0x40000) ∧
      UInt8.ofNat (0xF0 + n / 0x40000) ≤ 0xF4 := by
    simp only [UInt8.le_iff_toNat_le, lead, UInt8.reduceToNat]
    omega
  have value : (0xF0 + n / 0x40000) % 0x08 * 0x40000 + n / 0x1000 % 0x40 * 0x1000 +
      n / 0x40 % 0x40 * 0x40 + n % 0x40 = n := by
    omega
  simp only [nextLong, notTwo, notThree, opens, opensFour_ofNat low high, isContinuation_ofNat,
    payload_ofNat, lead, value, Bool.and_eq_true, decide_eq_true_eq, and_self, ↓reduceIte]

/-- **A character is read back from its bytes.** -/
theorem next_encodeChar (c : Char) (rest : List UInt8) :
    ∃ first behind, encodeChar c ++ rest = first :: behind ∧
      next first behind = (some c, rest) := by
  have valid := toNat_valid c
  have back : Char.ofNat c.toNat = c := Char.ofNat_toNat c
  by_cases one : c.toNat < 0x80
  · have byte := toNat_ofNat_of_lt (n := c.toNat) (by omega)
    refine ⟨UInt8.ofNat c.toNat, rest, by simp only [encodeChar, one, ↓reduceIte,
      List.cons_append, List.nil_append], ?_⟩
    simp only [next, UInt8.lt_iff_toNat_lt, byte, UInt8.reduceToNat, one, ↓reduceIte, back]
  -- A longer sequence starts with a byte beyond ASCII.
  have long (n : Nat) (behind : List UInt8) (low : 0x80 ≤ n) (high : n < 0x100) :
      next (UInt8.ofNat n) behind = nextLong (UInt8.ofNat n) behind := by
    have byte := toNat_ofNat_of_lt (n := n) (by omega)
    have beyond : ¬ n < 128 := by omega
    simp only [next, UInt8.lt_iff_toNat_lt, byte, UInt8.reduceToNat, beyond, ↓reduceIte]
  by_cases two : c.toNat < 0x800
  · refine ⟨_, _, by simp only [encodeChar, one, two, ↓reduceIte, List.cons_append,
      List.nil_append]; rfl, ?_⟩
    rw [long _ _ (by omega) (by omega), nextLong_two (by omega) two, back]
  by_cases three : c.toNat < 0x10000
  · refine ⟨_, _, by simp only [encodeChar, one, two, three, ↓reduceIte, List.cons_append,
      List.nil_append]; rfl, ?_⟩
    rw [long _ _ (by omega) (by omega), nextLong_three (by omega) three (by omega), back]
  · refine ⟨_, _, by simp only [encodeChar, one, two, three, ↓reduceIte, List.cons_append,
      List.nil_append]; rfl, ?_⟩
    rw [long _ _ (by omega) (by omega), nextLong_four (by omega) (by omega), back]

/-- The bytes of a text hold no broken sequence. -/
theorem scalars_encode (s : Text) : scalars (encode s) = s.map some := by
  induction s with
  | nil => simp [encode, scalars]
  | cons c s ih =>
    obtain ⟨first, behind, bytes, read⟩ := next_encodeChar c (encode s)
    have split : encode (c :: s) = first :: behind := by
      rw [← bytes]
      rfl
    rw [split, scalars, read, ih, List.map_cons]

/-- **Reading undoes writing.** -/
theorem decode?_encode (s : Text) : decode? (encode s) = some s := by
  rw [decode?, scalars_encode]
  induction s with
  | nil => rfl
  | cons c s ih => simp [ih]

end Scriptorium.Utf8
