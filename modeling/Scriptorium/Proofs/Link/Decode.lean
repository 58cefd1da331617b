import Scriptorium.Proofs.Html.Href
import Scriptorium.Proofs.Text.Lowercase
/-! # Reading destinations

A destination is read in three steps: character references, percent escapes and bytes. A
character of ASCII that stands in no reference and in no escape is a boundary for all
three, so the parts before and behind it are read each on its own
(`Link.reading_append_cons`).

What is read holds no more percent signs and number signs than what was written
(`Link.signs_reading_le`), and a number sign only for one or for its escape
(`Link.infix_of_mem_reading`).
-/

namespace Scriptorium

/-! ## Bytes -/

namespace Utf8

variable {b first second : UInt8} {front rest behind : List UInt8}

private theorem isContinuation_of_ascii (ascii : b < 0x80) : isContinuation b = false := by
  have low : ¬ 0x80 ≤ b := UInt8.not_le.mpr ascii
  simp [isContinuation, low]

private theorem opensThree_of_ascii (ascii : b < 0x80) : opensThree first b = false := by
  rw [UInt8.lt_iff_toNat_lt] at ascii
  simp only [UInt8.reduceToNat] at ascii
  unfold opensThree isContinuation
  repeat' split
  all_goals
    simp only [Bool.and_eq_false_iff, decide_eq_false_iff_not, UInt8.le_iff_toNat_le,
      UInt8.reduceToNat]
    omega

private theorem opensFour_of_ascii (ascii : b < 0x80) : opensFour first b = false := by
  rw [UInt8.lt_iff_toNat_lt] at ascii
  simp only [UInt8.reduceToNat] at ascii
  unfold opensFour isContinuation
  repeat' split
  all_goals
    simp only [Bool.and_eq_false_iff, decide_eq_false_iff_not, UInt8.le_iff_toNat_le,
      UInt8.reduceToNat]
    omega

/-- No character reaches over a byte of ASCII. -/
theorem next_append (ascii : b < 0x80) (first : UInt8) (rest behind : List UInt8) :
    next first (rest ++ b :: behind) =
      ((next first rest).1, (next first rest).2 ++ b :: behind) := by
  unfold next nextLong
  rcases rest with _ | ⟨second, _ | ⟨third, _ | ⟨fourth, rest⟩⟩⟩ <;>
    simp only [List.nil_append, List.cons_append, isContinuation_of_ascii ascii,
      opensThree_of_ascii ascii, opensFour_of_ascii ascii, Bool.false_eq_true, ↓reduceIte] <;>
    repeat' split
  all_goals rfl

/-- A byte of ASCII is read alone. -/
theorem scalars_cons_ascii (ascii : b < 0x80) (behind : List UInt8) :
    scalars (b :: behind) = some (Char.ofNat b.toNat) :: scalars behind := by
  rw [scalars, next, if_pos ascii]

/-- Bytes are read apart before and behind a byte of ASCII. -/
theorem scalars_append_cons (ascii : b < 0x80) (front behind : List UInt8) :
    scalars (front ++ b :: behind) =
      scalars front ++ some (Char.ofNat b.toNat) :: scalars behind := by
  fun_induction scalars front with
  | case1 => rw [List.nil_append, scalars_cons_ascii ascii, List.nil_append]
  | case2 first rest _ ih =>
    rw [List.cons_append, scalars, next_append ascii, ih, List.cons_append]

/-- Three bytes carry more than seven bits. -/
theorem le_of_opensThree (lead : 0xE0 ≤ first ∧ first ≤ 0xEF)
    (opens : opensThree first second = true) :
    0x80 ≤ first.toNat % 0x10 * 0x1000 + payload second * 0x40 := by
  simp only [UInt8.le_iff_toNat_le, UInt8.reduceToNat] at lead
  unfold opensThree isContinuation at opens
  unfold payload
  repeat' split at opens
  all_goals
    simp only [Bool.and_eq_true, decide_eq_true_eq, UInt8.le_iff_toNat_le, ← UInt8.toNat_inj,
      UInt8.reduceToNat] at *
    omega

/-- Four bytes carry more than seven bits. -/
theorem le_of_opensFour (lead : 0xF0 ≤ first ∧ first ≤ 0xF4)
    (opens : opensFour first second = true) :
    0x80 ≤ first.toNat % 0x08 * 0x40000 + payload second * 0x1000 := by
  simp only [UInt8.le_iff_toNat_le, UInt8.reduceToNat] at lead
  unfold opensFour isContinuation at opens
  unfold payload
  repeat' split at opens
  all_goals
    simp only [Bool.and_eq_true, decide_eq_true_eq, UInt8.le_iff_toNat_le, ← UInt8.toNat_inj,
      UInt8.reduceToNat] at *
    omega

/-- A sequence of several bytes is no character of ASCII, a broken one that gives NUL apart. -/
theorem toNat_of_nextLong {c : Char} (read : (nextLong first rest).1 = some c) :
    c.toNat = 0 ∨ 0x80 ≤ c.toNat := by
  suffices value : ∃ n, 0x80 ≤ n ∧ Char.ofNat n = c by
    obtain ⟨n, beyond, rfl⟩ := value
    rcases toNat_ofNat_cases n with same | zero
    · right
      rwa [same]
    · exact .inl zero
  unfold nextLong at read
  repeat' split at read
  all_goals simp only [reduceCtorEq, Option.some.injEq] at read
  all_goals
    refine ⟨_, ?_, read⟩
    simp only [Bool.and_eq_true, decide_eq_true_eq] at *
  · have lead : 0xC2 ≤ first ∧ first ≤ 0xDF := ‹_›
    simp only [UInt8.le_iff_toNat_le, UInt8.reduceToNat] at lead
    omega
  · have bits := le_of_opensThree ‹0xE0 ≤ first ∧ first ≤ 0xEF› ‹opensThree first _ = true›
    exact Nat.le_add_right_of_le bits
  · have bits := le_of_opensFour ‹0xF0 ≤ first ∧ first ≤ 0xF4› ‹opensFour first _ = true›
    exact Nat.le_add_right_of_le (Nat.le_add_right_of_le bits)

private theorem nextLong_suffix (first : UInt8) (rest : List UInt8) :
    (nextLong first rest).2 <:+ rest := by
  unfold nextLong
  repeat' split
  all_goals simp only [List.suffix_rfl, List.suffix_cons_iff, or_true]

variable {c : Char} {bytes : List UInt8}

/-- A character of ASCII is read for its own byte only. -/
theorem count_decodeLossy_le (ascii : c.toNat < 0x80) (nonzero : c.toNat ≠ 0) (bytes : List UInt8) :
    (decodeLossy bytes).count c ≤ bytes.count (UInt8.ofNat c.toNat) := by
  unfold decodeLossy
  fun_induction scalars bytes with
  | case1 => exact Nat.zero_le _
  | case2 first rest _ ih =>
    rw [List.map_cons]
    by_cases short : first < 0x80
    · have read : next first rest = (some (Char.ofNat first.toNat), rest) := by
        rw [next, if_pos short]
      rw [read] at ih ⊢
      rw [List.count_cons, List.count_cons]
      refine Nat.add_le_add ih ?_
      simp only [Option.getD_some, beq_iff_eq]
      split
      · rename_i same
        have back : UInt8.ofNat c.toNat = first := by
          have valid : first.toNat.isValidChar := .inl (Nat.lt_trans first.toNat_lt (by decide))
          rw [← same, Char.ofNat, dif_pos valid]
          exact UInt8.ofNat_toNat
        exact Nat.le_of_eq (by rw [back, if_pos rfl])
      · exact Nat.zero_le _
    · have read : next first rest = nextLong first rest := by rw [next, if_neg short]
      rw [read] at ih ⊢
      have other : ((nextLong first rest).1.getD (Char.ofNat 0xFFFD)) ≠ c := by
        cases value : (nextLong first rest).1 with
        | none =>
          rintro rfl
          exact absurd ascii (by decide)
        | some d =>
          rintro rfl
          rcases toNat_of_nextLong value with zero | beyond
          · exact nonzero zero
          · exact absurd ascii (Nat.not_lt.mpr beyond)
      rw [List.count_cons_of_ne other]
      calc
        _ ≤ (nextLong first rest).2.count (UInt8.ofNat c.toNat) := ih
        _ ≤ rest.count (UInt8.ofNat c.toNat) := (nextLong_suffix first rest).sublist.count_le _
        _ ≤ _ := List.count_le_count_cons

end Utf8

/-! ## Character references -/

namespace Text

variable {c : Char} {old new s rest : Text}

private theorem length_lt_of_dropStart? (nonempty : old ≠ [])
    (found : dropStart? old s = some rest) :
    rest.length < s.length := by
  have positive := List.length_pos_iff.mpr nonempty
  rw [dropStart?_eq_some_iff.mp found, List.length_append]
  omega

/-- A character that the old text does not begin with stays. -/
theorem replaceNonempty_of_none {cs : Text} (absent : dropStart? old (c :: cs) = none) :
    replaceNonempty old new (c :: cs) = c :: replaceNonempty old new cs := by
  rw [replaceNonempty, absent]

/-- An occurrence of the old text is replaced, and replacing goes on behind it. -/
theorem replaceNonempty_of_some (nonempty : old ≠ []) (found : dropStart? old s = some rest) :
    replaceNonempty old new s = new ++ replaceNonempty old new rest := by
  cases s with
  | nil =>
    cases old with
    | nil => exact absurd rfl nonempty
    | cons d old => cases found
  | cons d s =>
    have fits := Nat.le_of_lt_succ (length_lt_of_dropStart? nonempty found)
    rw [replaceNonempty, found]
    exact if_pos fits

/-- What is dropped at the start of a text stands in front of a character that it does not hold. -/
theorem dropStart?_append_cons (absent : c ∉ old) (nonempty : old ≠ []) (front back : Text) :
    dropStart? old (front ++ c :: back) = (dropStart? old front).map (· ++ c :: back) := by
  induction old generalizing front with
  | nil => exact absurd rfl nonempty
  | cons d old ih =>
    cases front with
    | nil => exact if_neg (List.ne_of_not_mem_cons absent).symm
    | cons e front =>
      by_cases same : d = e
      · rw [List.cons_append, dropStart?, dropStart?, if_pos same, if_pos same]
        by_cases last : old = []
        · subst last
          rfl
        · exact ih (List.not_mem_of_not_mem_cons absent) last front
      · rw [List.cons_append, dropStart?, dropStart?, if_neg same, if_neg same]
        rfl

/-- A text that is replaced does not reach over a character that it does not hold. -/
theorem replaceNonempty_append_cons (absent : c ∉ old) (nonempty : old ≠ []) (front back : Text) :
    replaceNonempty old new (front ++ c :: back) =
      replaceNonempty old new front ++ c :: replaceNonempty old new back := by
  induction size : front.length using Nat.strongRecOn generalizing front with
  | _ size ih =>
    subst size
    have cut := dropStart?_append_cons absent nonempty front back
    cases found : dropStart? old front with
    | some rest =>
      rw [found, Option.map_some] at cut
      rw [replaceNonempty_of_some nonempty cut, replaceNonempty_of_some nonempty found,
        ih _ (length_lt_of_dropStart? nonempty found) rest rfl, List.append_assoc]
    | none =>
      rw [found, Option.map_none] at cut
      cases front with
      | nil =>
        rw [List.nil_append] at cut ⊢
        rw [replaceNonempty_of_none cut, replaceNonempty, List.nil_append]
      | cons d front =>
        rw [List.cons_append] at cut ⊢
        rw [replaceNonempty_of_none cut, replaceNonempty_of_none found,
          ih _ (Nat.lt_succ_self _) front rfl, List.cons_append]

private theorem replace_append_cons (absent : c ∉ old) (nonempty : old ≠ []) (front back : Text) :
    (front ++ c :: back).replace old new = front.replace old new ++ c :: back.replace old new := by
  cases old with
  | nil => exact absurd rfl nonempty
  | cons d old => exact replaceNonempty_append_cons absent nonempty front back

/-- Replacing adds no character that the new text does not hold. -/
theorem count_replaceNonempty_le (absent : c ∉ new) (s : Text) :
    (replaceNonempty old new s).count c ≤ s.count c := by
  fun_induction replaceNonempty old new s with
  | case1 => exact Nat.le_refl 0
  | case2 d s rest found fits ih =>
    rw [List.count_append, List.count_eq_zero.mpr absent, dropStart?_eq_some_iff.mp found,
      List.count_append]
    omega
  | case3 d s rest found long ih =>
    rw [List.count_cons, List.count_cons]
    exact Nat.add_le_add_right ih _
  | case4 d s none ih =>
    rw [List.count_cons, List.count_cons]
    exact Nat.add_le_add_right ih _

end Text

/-! ## Percent escapes -/

namespace Percent

variable {c : Char} {s : Text}

/-- A character of ASCII is one byte. -/
theorem encodeChar_of_ascii (ascii : c.toNat < 0x80) :
    Utf8.encodeChar c = [UInt8.ofNat c.toNat] := by
  simp only [Utf8.encodeChar, ascii, ↓reduceIte]

/-- A percent sign and two digits are decoded to one byte. -/
theorem decodeBytes_of_escape {high low : Char} {h l : Nat} (first : Hex.value? high = some h)
    (second : Hex.value? low = some l) (rest : Text) :
    decodeBytes ('%' :: high :: low :: rest) = UInt8.ofNat (h * 16 + l) :: decodeBytes rest := by
  rw [decodeBytes, first, second]

/-- A character that opens no escape stands for its own bytes. -/
theorem decodeBytes_of_plain (plain : ∀ high low rest h l, c = '%' → s = high :: low :: rest →
      Hex.value? high = some h → Hex.value? low = some l → False) :
    decodeBytes (c :: s) = Utf8.encodeChar c ++ decodeBytes s := by
  by_cases sign : c = '%'
  · subst sign
    rcases s with _ | ⟨high, _ | ⟨low, rest⟩⟩
    · rfl
    · rfl
    · rw [decodeBytes]
      split
      · rename_i h l first second
        exact (plain high low rest h l rfl rfl first second).elim
      · rfl
  · rw [decodeBytes]
    rintro high low rest rfl
    exact absurd rfl sign

/-- Escapes are read apart before and behind a character that belongs to none. -/
theorem decodeBytes_append_cons (noDigit : Hex.value? c = none) (front back : Text) :
    decodeBytes (front ++ c :: back) = decodeBytes front ++ decodeBytes (c :: back) := by
  fun_induction decodeBytes front with
  | case1 => rfl
  | case2 high low rest h l second first ih =>
    rw [List.cons_append, List.cons_append, List.cons_append, decodeBytes_of_escape first second,
      ih, List.cons_append]
  | case3 high low rest broken ih =>
    rw [List.cons_append, decodeBytes_of_plain, ih, List.append_assoc]
    rintro _ _ _ h l - ⟨⟩ first second
    exact broken h l first second
  | case4 d cs other ih =>
    rw [List.cons_append, decodeBytes_of_plain, ih, List.append_assoc]
    rintro high low rest h l rfl whole first second
    rcases cs with _ | ⟨e, _ | ⟨f, cs⟩⟩
    · cases whole
      rw [noDigit] at first
      cases first
    · cases whole
      rw [noDigit] at second
      cases second
    · exact other e f cs rfl rfl

/-- A byte of ASCII is written for its own character only. -/
theorem mem_encodeChar_iff {d : Char} (ascii : d.toNat < 0x80) :
    UInt8.ofNat d.toNat ∈ Utf8.encodeChar c ↔ c = d := by
  have value := Utf8.toNat_ofNat_of_lt (n := d.toNat) (by omega)
  have valid := Utf8.toNat_valid c
  constructor
  · intro member
    unfold Utf8.encodeChar at member
    dsimp only at member
    repeat' split at member
    all_goals
      simp only [List.mem_cons, List.not_mem_nil, or_false, ← UInt8.toNat_inj, value,
        UInt8.toNat_ofNat', Nat.reducePow] at member
      exact Char.toNat_inj.mp (by omega)
  · rintro rfl
    rw [encodeChar_of_ascii ascii]
    exact List.mem_singleton_self _

private theorem count_encodeChar {d : Char} (ascii : d.toNat < 0x80) :
    (Utf8.encodeChar c).count (UInt8.ofNat d.toNat) = if c = d then 1 else 0 := by
  by_cases same : c = d
  · subst same
    rw [encodeChar_of_ascii ascii, List.count_singleton_self, if_pos rfl]
  · rw [if_neg same, List.count_eq_zero, mem_encodeChar_iff ascii]
    exact same

/-- The percent signs and number signs of a text. -/
def signs (s : Text) : Nat :=
  s.count '%' + s.count '#'

/-- The bytes of a text that stand for percent signs and number signs. -/
def signBytes (bytes : List UInt8) : Nat :=
  bytes.count 0x25 + bytes.count 0x23

private theorem signs_append (front back : Text) :
    signs (front ++ back) = signs front + signs back := by
  simp only [signs, List.count_append]
  omega

private theorem signs_cons (c : Char) (s : Text) : signs (c :: s) = signs [c] + signs s :=
  signs_append [c] s

private theorem signBytes_append (front back : List UInt8) :
    signBytes (front ++ back) = signBytes front + signBytes back := by
  simp only [signBytes, List.count_append]
  omega

private theorem signBytes_encodeChar (c : Char) : signBytes (Utf8.encodeChar c) = signs [c] := by
  have percent := count_encodeChar (c := c) (d := '%') (by decide)
  have number := count_encodeChar (c := c) (d := '#') (by decide)
  simp only [signBytes, signs, List.count_singleton, beq_iff_eq]
  exact congr (congrArg _ percent) number

private theorem signBytes_singleton_le (b : UInt8) : signBytes [b] ≤ 1 := by
  simp only [signBytes, List.count_singleton, beq_iff_eq]
  split
  · rename_i percent
    subst percent
    decide
  · split <;> decide

/-- Decoding leaves as many bytes of a sign as there are signs, or fewer. -/
theorem signBytes_decodeBytes_le (s : Text) : signBytes (decodeBytes s) ≤ signs s := by
  fun_induction decodeBytes s with
  | case1 => exact Nat.le_refl _
  | case2 high low rest h l second first ih =>
    have byte := signBytes_singleton_le (UInt8.ofNat (h * 16 + l))
    have sign : signs ['%'] = 1 := rfl
    rw [← List.singleton_append, signBytes_append, signs_cons, signs_cons high, signs_cons low]
    omega
  | case3 high low rest broken ih =>
    rw [signBytes_append, signBytes_encodeChar, signs_cons '%' (high :: low :: rest)]
    exact Nat.add_le_add_left ih _
  | case4 d cs other ih =>
    rw [signBytes_append, signBytes_encodeChar, signs_cons d cs]
    exact Nat.add_le_add_left ih _

/-- Reading escapes gives no more percent signs and number signs than there are. -/
theorem signs_decode_le (s : Text) : signs (decode s) ≤ signs s := by
  have percent := Utf8.count_decodeLossy_le (c := '%') (by decide) (by decide) (decodeBytes s)
  have number := Utf8.count_decodeLossy_le (c := '#') (by decide) (by decide) (decodeBytes s)
  exact Nat.le_trans (Nat.add_le_add percent number) (signBytes_decodeBytes_le s)

/-- The value of a digit below ten is that of a decimal digit. -/
theorem toNat_of_value?_eq_some {n : Nat} (value : Hex.value? c = some n) (low : n < 10) :
    c.toNat = 0x30 + n := by
  unfold Hex.value? at value
  simp only [Bool.and_eq_true, decide_eq_true_eq] at value
  split at value
  · rename_i digit
    have first : 0x30 ≤ c.toNat := digit.1
    have same : c.toNat - 0x30 = n := Option.some.inj value
    omega
  · split at value
    · have same : c.toNat - 0x61 + 10 = n := Option.some.inj value
      omega
    · split at value
      · have same : c.toNat - 0x41 + 10 = n := Option.some.inj value
        omega
      · cases value

/-- The value of a digit is below sixteen. -/
theorem value?_lt {n : Nat} (value : Hex.value? c = some n) : n < 16 := by
  unfold Hex.value? at value
  simp only [Bool.and_eq_true, decide_eq_true_eq] at value
  split at value
  · rename_i digit
    have last : c.toNat ≤ 0x39 := digit.2
    have same : c.toNat - 0x30 = n := Option.some.inj value
    omega
  · split at value
    · rename_i digit
      have last : c.toNat ≤ 0x66 := digit.2
      have same : c.toNat - 0x61 + 10 = n := Option.some.inj value
      omega
    · split at value
      · rename_i digit
        have last : c.toNat ≤ 0x46 := digit.2
        have same : c.toNat - 0x41 + 10 = n := Option.some.inj value
        omega
      · cases value

/-- A number sign is read from one, or from its escape. -/
theorem infix_of_mem_decode (member : '#' ∈ decode s) : '#' ∈ s ∨ "%23".toList <:+: s := by
  have byte : 0x23 ∈ decodeBytes s := by
    have count := Utf8.count_decodeLossy_le (c := '#') (by decide) (by decide) (decodeBytes s)
    exact List.count_pos_iff.mp (Nat.lt_of_lt_of_le (List.count_pos_iff.mpr member) count)
  have written {c : Char} (held : 0x23 ∈ Utf8.encodeChar c) : c = '#' :=
    (mem_encodeChar_iff (d := '#') (by decide)).mp held
  clear member
  fun_induction decodeBytes s with
  | case1 => cases byte
  | case2 high low rest h l second first ih =>
    rcases List.mem_cons.mp byte with here | later
    · right
      have high16 := value?_lt first
      have low16 := value?_lt second
      have sum : h * 16 + l = 0x23 := by
        have value := congrArg UInt8.toNat here
        rw [Utf8.toNat_ofNat_of_lt (by omega)] at value
        exact value.symm
      obtain rfl : high = '2' := Char.toNat_inj.mp
        ((toNat_of_value?_eq_some first (by omega)).trans (show 0x30 + h = 0x32 by omega))
      obtain rfl : low = '3' := Char.toNat_inj.mp
        ((toNat_of_value?_eq_some second (by omega)).trans (show 0x30 + l = 0x33 by omega))
      exact (List.prefix_append "%23".toList rest).isInfix
    · exact (ih later).imp (fun held => by simp [held])
        fun held => held.trans (List.suffix_append ['%', high, low] rest).isInfix
  | case3 high low rest broken ih =>
    rcases List.mem_append.mp byte with here | later
    · exact absurd (written here) (by decide)
    · exact (ih later).imp (List.mem_cons_of_mem '%') fun held =>
        held.trans (List.suffix_cons '%' _).isInfix
  | case4 d cs other ih =>
    rcases List.mem_append.mp byte with here | later
    · exact .inl (written here ▸ List.mem_cons_self)
    · exact (ih later).imp (List.mem_cons_of_mem d) fun held =>
        held.trans (List.suffix_cons d cs).isInfix

end Percent

/-! ## Destinations -/

namespace Link

variable {c : Char} {s href : Text}

/-- What character references and percent escapes stand for. -/
def reading (s : Text) : Text :=
  Percent.decode (Html.unescape s)

/-- Either nothing is dropped, or the angle brackets around a destination. -/
theorem dropAngles_cases (href : Text) :
    dropAngles href = href ∨
      ∃ inner, href = '<' :: (inner ++ ['>']) ∧ dropAngles href = inner := by
  unfold dropAngles
  cases opened : Text.dropStart? ['<'] href with
  | none => exact .inl rfl
  | some rest =>
    rw [Option.bind_some]
    cases closed : Text.dropEnd? ['>'] rest with
    | none => exact .inl rfl
    | some inner =>
      refine .inr ⟨inner, ?_, rfl⟩
      rw [Text.dropStart?_eq_some_iff.mp opened, Text.eq_of_dropEnd?_eq_some closed]
      rfl

/-- A destination is decoded by reading it without its angle brackets. -/
theorem decode_eq_reading (href : Text) : decode href = reading (dropAngles href) :=
  rfl

/-- A destination that no angle bracket opens is read as it stands. -/
theorem decode_of_bare (bare : ¬ ['<'] <+: href) : decode href = reading href := by
  rcases dropAngles_cases href with same | ⟨inner, rfl, -⟩
  · rw [decode_eq_reading, same]
  · exact absurd ⟨inner ++ ['>'], rfl⟩ bare

/-- A character that stands in no character reference, no percent escape and no sequence of
several bytes. -/
structure IsBoundary (c : Char) : Prop where
  ascii : c.toNat < 0x80
  noDigit : Hex.value? c = none
  noEscape : c ≠ '%'
  noReference : c ∉ "&lt;gquoamp".toList

instance (c : Char) : Decidable (IsBoundary c) :=
  decidable_of_iff (c.toNat < 0x80 ∧ Hex.value? c = none ∧ c ≠ '%' ∧ c ∉ "&lt;gquoamp".toList)
    ⟨fun ⟨ascii, noDigit, noEscape, noReference⟩ => ⟨ascii, noDigit, noEscape, noReference⟩,
      fun ⟨ascii, noDigit, noEscape, noReference⟩ => ⟨ascii, noDigit, noEscape, noReference⟩⟩

private theorem IsBoundary.unescape_append_cons (boundary : IsBoundary c) (front back : Text) :
    Html.unescape (front ++ c :: back) = Html.unescape front ++ c :: Html.unescape back := by
  have absent {reference : Text} (within : reference.all "&lt;gquoamp".toList.contains = true) :
      c ∉ reference := fun held =>
    boundary.noReference (List.contains_iff_mem.mp (List.all_eq_true.mp within c held))
  dsimp only [Html.unescape]
  rw [Text.replace_append_cons (absent (by decide)) (by decide),
    Text.replace_append_cons (absent (by decide)) (by decide),
    Text.replace_append_cons (absent (by decide)) (by decide),
    Text.replace_append_cons (absent (by decide)) (by decide)]

private theorem IsBoundary.percentDecode_append_cons (boundary : IsBoundary c) (front back : Text) :
    Percent.decode (front ++ c :: back) = Percent.decode front ++ c :: Percent.decode back := by
  have value := Utf8.toNat_ofNat_of_lt (n := c.toNat) (Nat.lt_trans boundary.ascii (by decide))
  have byte : UInt8.ofNat c.toNat < 0x80 := by
    rw [UInt8.lt_iff_toNat_lt, value]
    exact boundary.ascii
  have own : Percent.decodeBytes (c :: back) =
      UInt8.ofNat c.toNat :: Percent.decodeBytes back := by
    rw [Percent.decodeBytes_of_plain fun _ _ _ _ _ same => absurd same boundary.noEscape,
      Percent.encodeChar_of_ascii boundary.ascii, List.singleton_append]
  rw [Percent.decode, Percent.decodeBytes_append_cons boundary.noDigit, own, Utf8.decodeLossy,
    Utf8.scalars_append_cons byte, value, Char.ofNat_toNat, List.map_append, List.map_cons]
  rfl

/-- **The parts of a text before and behind a boundary are read each on its own.** -/
theorem reading_append_cons (boundary : IsBoundary c) (front back : Text) :
    reading (front ++ c :: back) = reading front ++ c :: reading back := by
  rw [reading, boundary.unescape_append_cons, boundary.percentDecode_append_cons]
  rfl

/-- There is nothing to read in the empty text. -/
theorem reading_nil : reading [] = [] := by
  decide +kernel

/-- A boundary in front of a text is read as it is. -/
theorem reading_cons (boundary : IsBoundary c) (s : Text) : reading (c :: s) = c :: reading s := by
  have parts := reading_append_cons boundary [] s
  rwa [List.nil_append, reading_nil, List.nil_append] at parts

/-- A boundary behind a text is read as it is. -/
theorem reading_concat (boundary : IsBoundary c) (s : Text) :
    reading (s ++ [c]) = reading s ++ [c] := by
  rw [reading_append_cons boundary, reading_nil]

/-- Where there is no ampersand no character reference is read. -/
theorem unescape_eq_self (reference : '&' ∉ s) : Html.unescape s = s := by
  have absent (name new : Text) : s.replace ('&' :: name) new = s :=
    Text.replace_of_not_mem reference
  rw [Html.unescape, show "&lt;".toList = '&' :: "lt;".toList from rfl,
    show "&gt;".toList = '&' :: "gt;".toList from rfl,
    show "&quot;".toList = '&' :: "quot;".toList from rfl,
    show "&amp;".toList = '&' :: "amp;".toList from rfl, absent, absent, absent, absent]

/-- A text in which nothing is written in another form. -/
theorem reading_eq_self (reference : '&' ∉ s) (percent : '%' ∉ s) : reading s = s := by
  rw [reading, unescape_eq_self reference, Percent.decode_of_not_mem percent]

/-- A character that no reference stands for comes no more often in the text read back. -/
theorem count_unescape_le (foreign : c ∉ "<>\"&".toList) (s : Text) :
    (Html.unescape s).count c ≤ s.count c := by
  have single {old : Text} (d : Char) (nonempty : old ≠ []) (within : d ∈ "<>\"&".toList)
      (t : Text) : (t.replace old [d]).count c ≤ t.count c := by
    have absent : c ∉ [d] := fun held => foreign (List.mem_singleton.mp held ▸ within)
    cases old with
    | nil => exact absurd rfl nonempty
    | cons e old => exact Text.count_replaceNonempty_le absent t
  dsimp only [Html.unescape]
  calc _ ≤ _ := single '&' (by decide) (by decide) _
    _ ≤ _ := single '"' (by decide) (by decide) _
    _ ≤ _ := single '>' (by decide) (by decide) _
    _ ≤ _ := single '<' (by decide) (by decide) s

/-- Two slashes in front are read as such. -/
theorem slashes_reading (start : "//".toList <+: s) : "//".toList <+: reading s := by
  obtain ⟨rest, rfl⟩ := start
  rw [show "//".toList ++ rest = '/' :: '/' :: rest from rfl, reading_cons (by decide),
    reading_cons (by decide)]
  exact ⟨reading rest, rfl⟩

/-- Reading gives no more percent signs and number signs than were written. -/
theorem signs_reading_le (s : Text) : Percent.signs (reading s) ≤ Percent.signs s :=
  calc Percent.signs (reading s)
    _ ≤ Percent.signs (Html.unescape s) := Percent.signs_decode_le _
    _ ≤ Percent.signs s :=
      Nat.add_le_add (count_unescape_le (by decide) s) (count_unescape_le (by decide) s)

/-- A number sign is read from one, or from its escape. -/
theorem infix_of_mem_reading (reference : '&' ∉ s) (member : '#' ∈ reading s) :
    '#' ∈ s ∨ "%23".toList <:+: s := by
  rw [reading, unescape_eq_self reference] at member
  exact Percent.infix_of_mem_decode member

end Link

end Scriptorium
