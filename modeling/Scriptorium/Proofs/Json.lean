import Scriptorium.Json
import Scriptorium.Proofs.Text.Hex
import Scriptorium.Proofs.Text.Scan
/-! # Reading JSON that was written

A string is read back from its quotes, whatever its characters (`Json.string?_quote`). A
value without numbers is read back from its lines at any level, whatever follows
(`Json.Writable.readsBack`), so that reading undoes writing
(`Json.Writable.parse?_pretty`).
-/

namespace Scriptorium.Json

/-! ## Strings -/

variable {fuel : Nat} {c : Char} {s rest : Text}

/-- A letter behind a backslash is read as the character that it stands for. -/
theorem stringBody_short {letter : Char} (stands : shortEscape? letter = some c) :
    stringBody (fuel + 1) ('\\' :: letter :: s) =
      (stringBody fuel s).map fun read => (c :: read.1, read.2) := by
  have other : letter ≠ 'u' := by
    rintro rfl
    cases stands
  rw [stringBody.eq_5 _ _ _ other, stands]
  cases stringBody fuel s <;> rfl

/-- A control character is read from its four digits. -/
theorem stringBody_long (control : c.toNat < 0x20) :
    stringBody (fuel + 1) ('\\' :: 'u' :: '0' :: '0' :: Hex.digit (c.toNat / 16) ::
        Hex.digit (c.toNat % 16) :: s) =
      (stringBody fuel s).map fun read => (c :: read.1, read.2) := by
  have zero : Hex.value? '0' = some 0 := rfl
  have high := Hex.value?_digit (n := c.toNat / 16) (by omega)
  have low := Hex.value?_digit (n := c.toNat % 16) (by omega)
  have whole : (0 * 16 + 0) * 16 + c.toNat / 16 = c.toNat / 16 := by omega
  have sum : c.toNat / 16 * 16 + c.toNat % 16 = c.toNat := by omega
  have digits : fourDigits? ('0' :: '0' :: Hex.digit (c.toNat / 16) ::
      Hex.digit (c.toNat % 16) :: s) = some (c.toNat, s) := by
    simp only [fourDigits?, zero, high, low, Option.bind_eq_bind, Option.bind_some, whole, sum]
  have noLow : ¬ (0xDC00 ≤ c.toNat ∧ c.toNat ≤ 0xDFFF) := by omega
  have noHigh : ¬ (0xD800 ≤ c.toNat ∧ c.toNat ≤ 0xDBFF) := by omega
  have read : longEscape? ('0' :: '0' :: Hex.digit (c.toNat / 16) ::
      Hex.digit (c.toNat % 16) :: s) = some (c, s) := by
    simp only [longEscape?, digits, Option.bind_eq_bind, Option.bind_some, Bool.and_eq_true,
      decide_eq_true_eq, noLow, noHigh, ↓reduceIte, Char.ofNat_toNat]
  rw [stringBody.eq_4, read, Option.bind_eq_bind, Option.bind_some]
  dsimp only
  cases stringBody fuel s <;> rfl

/-- **A character is read back** from what is written for it in a string. -/
theorem stringBody_escapeChar (c : Char) (fuel : Nat) (s : Text) :
    stringBody (fuel + 1) (escapeChar c ++ s) =
      (stringBody fuel s).map fun read => (c :: read.1, read.2) := by
  have ofCode {n : Nat} (code : c.toNat = n) : c = Char.ofNat n := by rw [← code, Char.ofNat_toNat]
  unfold escapeChar
  split
  case isTrue quoted =>
    subst quoted
    exact stringBody_short rfl
  split
  case isTrue backslash =>
    subst backslash
    exact stringBody_short rfl
  split
  case isTrue newline =>
    subst newline
    exact stringBody_short rfl
  split
  case isTrue isReturn =>
    subst isReturn
    exact stringBody_short rfl
  split
  case isTrue tab =>
    subst tab
    exact stringBody_short rfl
  split
  case isTrue back =>
    obtain rfl := ofCode back
    exact stringBody_short rfl
  split
  case isTrue feed =>
    obtain rfl := ofCode feed
    exact stringBody_short rfl
  split
  case isTrue control => exact stringBody_long control
  case isFalse quoted backslash _ _ _ _ _ plain =>
    have keeps : ¬ (decide (c.toNat < 0x20) || decide (c = '\\')) = true := by
      simp only [Bool.or_eq_true, decide_eq_true_eq, not_or]
      exact ⟨plain, backslash⟩
    rw [List.singleton_append, stringBody.eq_6 _ _ _ quoted (fun _ same => absurd same backslash)
      (fun _ _ same => absurd same backslash), if_neg keeps]

private theorem stringBody_escape (s rest : Text) (enough : s.length < fuel) :
    stringBody fuel (s.flatMap escapeChar ++ '"' :: rest) = some (s, rest) := by
  induction s generalizing fuel with
  | nil => exact stringBody.eq_3 fuel rest (by rintro rfl; cases enough)
  | cons c s ih =>
    cases fuel with
    | zero => cases enough
    | succ fuel =>
      rw [List.flatMap_cons, List.append_assoc, stringBody_escapeChar,
        ih (Nat.lt_of_succ_lt_succ enough)]
      rfl

private theorem length_le_length_escape (s : Text) : s.length ≤ (s.flatMap escapeChar).length := by
  induction s with
  | nil => exact Nat.le_refl 0
  | cons c s ih =>
    have nonempty : 1 ≤ (escapeChar c).length := by
      unfold escapeChar
      repeat' split
      all_goals exact Nat.succ_le_succ (Nat.zero_le _)
    rw [List.flatMap_cons, List.length_append, List.length_cons]
    omega

/-- **A string is read back** from its quotes. -/
theorem string?_quote (s rest : Text) : string? (quote s ++ rest) = some (s, rest) := by
  have spelled : quote s ++ rest = '"' :: (s.flatMap escapeChar ++ '"' :: rest) := by
    rw [quote, List.append_assoc, List.cons_append]
    rfl
  have shorter := length_le_length_escape s
  rw [spelled, string?]
  apply stringBody_escape
  rw [List.length_append]
  omega

/-! ## Values -/

/-- A value without numbers. -/
inductive Writable : Json → Prop where
  | null : Writable null
  | bool (value : Bool) : Writable (bool value)
  | string (value : Text) : Writable (string value)
  | array {items : List Json} : (∀ item ∈ items, Writable item) → Writable (array items)
  | object {members : List (Text × Json)} : (∀ member ∈ members, Writable member.2) →
      Writable (object members)

variable {level below : Nat} {value item : Json} {items : List Json} {key : Text}
  {members : List (Text × Json)} {tail : Text}

/-- In front of a character that is no space there is nothing to pass over. -/
theorem skipSpace_cons (solid : isSpace c = false) : skipSpace (c :: tail) = c :: tail :=
  List.dropWhile_cons_of_neg (by simp [solid])

private theorem skipSpace_newLine_append (solid : isSpace c = false) :
    skipSpace (newLine level ++ c :: tail) = c :: tail := by
  have space : ∀ d ∈ newLine level, isSpace d = true := by
    intro d member
    rcases List.mem_cons.mp member with rfl | blank
    · rfl
    · rw [List.eq_of_mem_replicate blank]
      rfl
  rw [skipSpace, List.dropWhile_append_of_pos space]
  exact skipSpace_cons solid

/-- What a value is written as starts with no space, and does not look like the end of an
array. -/
theorem Writable.head_prettyAt (writable : Writable value) (level : Nat) :
    ∃ c tail, prettyAt level value = c :: tail ∧ isSpace c = false ∧ c ≠ ']' := by
  cases writable with
  | null => exact ⟨'n', _, rfl, rfl, by decide⟩
  | bool value => cases value <;> exact ⟨_, _, rfl, rfl, by decide⟩
  | string value => exact ⟨'"', _, rfl, rfl, by decide⟩
  | @array items _ => cases items <;> exact ⟨'[', _, rfl, rfl, by decide⟩
  | @object members _ => cases members <;> exact ⟨'\x7b', _, rfl, rfl, by decide⟩

/-- A value is read back from what it is written as, at any level and whatever follows. -/
def ReadsBack (value : Json) : Prop :=
  ∀ {level fuel : Nat} {s rest : Text}, skipSpace s = prettyAt level value ++ rest →
    (prettyAt level value).length < fuel → value? fuel s = some (value, rest)

/-- The items of an array are read back when each of them is. -/
theorem items?_prettyItems (writable : ∀ other ∈ item :: items, Writable other)
    (each : ∀ other ∈ item :: items, ReadsBack other)
    (start : skipSpace s = prettyAt level item ++ (prettyItems level items ++
      (newLine below ++ ']' :: rest)))
    (enough : (prettyAt level item).length + (prettyItems level items).length + 1 < fuel) :
    items? fuel s = some (item :: items, rest) := by
  induction items generalizing item s fuel with
  | nil =>
    obtain ⟨fuel, rfl⟩ := Nat.exists_eq_add_one_of_ne_zero (by omega : fuel ≠ 0)
    have first := each item List.mem_cons_self start (by omega : _ < fuel)
    have closing : skipSpace (newLine below ++ ']' :: rest) = ']' :: rest :=
      skipSpace_newLine_append rfl
    rw [items?.eq_2, first]
    simp only [Option.bind_eq_bind, Option.bind_some, prettyItems, List.nil_append, closing]
  | cons next items ih =>
    obtain ⟨fuel, rfl⟩ := Nat.exists_eq_add_one_of_ne_zero (by omega : fuel ≠ 0)
    have first := each item List.mem_cons_self start (by omega : _ < fuel)
    obtain ⟨nextWritable, -⟩ := List.forall_mem_cons.mp (List.forall_mem_cons.mp writable).2
    obtain ⟨c, tail, spelled, solid, -⟩ := nextWritable.head_prettyAt level
    have comma (behind : Text) : skipSpace (',' :: behind) = ',' :: behind := skipSpace_cons rfl
    have later : items? fuel (newLine level ++ (prettyAt level next ++ (prettyItems level items ++
        (newLine below ++ ']' :: rest)))) = some (next :: items, rest) := by
      apply ih (List.forall_mem_cons.mp writable).2 (List.forall_mem_cons.mp each).2
      · rw [spelled, List.cons_append, skipSpace_newLine_append solid]
      · simp only [prettyItems, List.cons_append, List.length_cons, List.length_append] at enough
        omega
    -- Behind the comma the next item starts on a new line.
    rw [items?.eq_2, first]
    simp only [Option.bind_eq_bind, Option.bind_some, prettyItems, List.cons_append,
      List.append_assoc, comma, later, Option.map_some]

/-- A member is read up to what stands behind its value: a comma and more members, or the
closing brace. -/
theorem members?_member {behind more : Text} (writable : Writable item) (reads : ReadsBack item)
    (start : skipSpace s = quote key ++ (':' :: ' ' :: (prettyAt level item ++ behind)))
    (enough : (prettyAt level item).length < fuel) :
    (skipSpace behind = ',' :: more → members? (fuel + 1) s =
        (members? fuel more).map fun read => ((key, item) :: read.1, read.2)) ∧
      (skipSpace behind = '\x7d' :: more → members? (fuel + 1) s = some ([(key, item)], more)) := by
  obtain ⟨c, tail, spelled, solid, -⟩ := writable.head_prettyAt level
  have colon (more : Text) : skipSpace (':' :: more) = ':' :: more := skipSpace_cons rfl
  have blank : skipSpace (' ' :: (prettyAt level item ++ behind)) =
      prettyAt level item ++ behind := by
    rw [spelled, List.cons_append]
    exact skipSpace_cons solid
  have read : value? fuel (' ' :: (prettyAt level item ++ behind)) = some (item, behind) :=
    reads blank enough
  rw [members?.eq_2, start, string?_quote]
  constructor
  · intro comma
    simp only [Option.bind_eq_bind, Option.bind_some, colon, read, comma]
  · intro closing
    simp only [Option.bind_eq_bind, Option.bind_some, colon, read, closing]

/-- The members of an object are read back when the value of each is. -/
theorem members?_prettyMembers (writable : ∀ other ∈ (key, item) :: members, Writable other.2)
    (each : ∀ other ∈ (key, item) :: members, ReadsBack other.2)
    (start : skipSpace s = quote key ++ (':' :: ' ' :: (prettyAt level item ++
      (prettyMembers level members ++ (newLine below ++ '\x7d' :: rest)))))
    (enough : (prettyAt level item).length + (prettyMembers level members).length + 1 < fuel) :
    members? fuel s = some ((key, item) :: members, rest) := by
  induction members generalizing key item s fuel with
  | nil =>
    obtain ⟨fuel, rfl⟩ := Nat.exists_eq_add_one_of_ne_zero (by omega : fuel ≠ 0)
    have closing : skipSpace (newLine below ++ '\x7d' :: rest) = '\x7d' :: rest :=
      skipSpace_newLine_append rfl
    have first : (prettyAt level item).length < fuel := by omega
    apply (members?_member (writable _ List.mem_cons_self) (each _ List.mem_cons_self) start
      first).2
    simp only [prettyMembers, List.nil_append, closing]
  | cons next members ih =>
    obtain ⟨name, value⟩ := next
    obtain ⟨fuel, rfl⟩ := Nat.exists_eq_add_one_of_ne_zero (by omega : fuel ≠ 0)
    have later : members? fuel (newLine level ++ (quote name ++ (':' :: ' ' ::
        (prettyAt level value ++ (prettyMembers level members ++
          (newLine below ++ '\x7d' :: rest)))))) = some ((name, value) :: members, rest) := by
      apply ih (List.forall_mem_cons.mp writable).2 (List.forall_mem_cons.mp each).2
      · exact skipSpace_newLine_append rfl
      · simp only [prettyMembers, List.cons_append, List.length_cons, List.length_append] at enough
        omega
    have first : (prettyAt level item).length < fuel := by omega
    have comma : skipSpace (prettyMembers level ((name, value) :: members) ++
        (newLine below ++ '\x7d' :: rest)) = ',' :: (newLine level ++ (quote name ++ (':' :: ' ' ::
          (prettyAt level value ++ (prettyMembers level members ++
            (newLine below ++ '\x7d' :: rest)))))) := by
      simp only [prettyMembers, List.cons_append, List.append_assoc]
      exact skipSpace_cons rfl
    rw [(members?_member (writable _ List.mem_cons_self) (each _ List.mem_cons_self) start
      first).1 comma, later, Option.map_some]

private theorem value?_items (start : skipSpace s = '[' :: rest) {inner : Text}
    (skipped : skipSpace rest = c :: inner) (noEnd : c ≠ ']') :
    value? (fuel + 1) s =
      (items? fuel (c :: inner)).map fun read => (array read.1, read.2) := by
  rw [value?.eq_2, start]
  simp only [skipped]
  split
  · rename_i same
    exact absurd (List.cons_eq_cons.mp same).1 noEnd
  · rfl

private theorem value?_members (start : skipSpace s = '\x7b' :: rest) {inner : Text}
    (skipped : skipSpace rest = c :: inner) (noEnd : c ≠ '\x7d') :
    value? (fuel + 1) s =
      (members? fuel (c :: inner)).map fun read => (object read.1, read.2) := by
  rw [value?.eq_2, start]
  simp only [skipped]
  split
  · rename_i same
    exact absurd (List.cons_eq_cons.mp same).1 noEnd
  · rfl

/-- **A value is read back** from its lines. -/
theorem Writable.readsBack (writable : Writable value) : ReadsBack value := by
  -- The fuel is above the length of the text, and each step that takes one reads a character.
  induction writable with
  | null =>
    intro level fuel s rest start enough
    obtain ⟨fuel, rfl⟩ := Nat.exists_eq_add_one_of_ne_zero (by omega : fuel ≠ 0)
    rw [value?.eq_2, start]
    rfl
  | bool value =>
    intro level fuel s rest start enough
    obtain ⟨fuel, rfl⟩ := Nat.exists_eq_add_one_of_ne_zero (by omega : fuel ≠ 0)
    rw [value?.eq_2, start]
    cases value <;> rfl
  | string text =>
    intro level fuel s rest start enough
    obtain ⟨fuel, rfl⟩ := Nat.exists_eq_add_one_of_ne_zero (by omega : fuel ≠ 0)
    have read := string?_quote text rest
    rw [prettyAt] at start
    rw [value?.eq_2, start]
    exact congrArg (Option.map _) read
  | @array items writable each =>
    intro level fuel s rest start enough
    obtain ⟨fuel, rfl⟩ := Nat.exists_eq_add_one_of_ne_zero (by omega : fuel ≠ 0)
    cases items with
    | nil =>
      rw [value?.eq_2, start, prettyAt]
      rfl
    | cons item items =>
      obtain ⟨c, tail, spelled, solid, noEnd⟩ :=
        (writable item List.mem_cons_self).head_prettyAt (level + 1)
      rw [prettyAt] at start enough
      simp only [List.length_append, List.length_cons, List.cons_append, List.append_assoc,
        List.nil_append] at start enough
      have read : items? fuel (prettyAt (level + 1) item ++ (prettyItems (level + 1) items ++
          (newLine level ++ ']' :: rest))) = some (item :: items, rest) := by
        apply items?_prettyItems writable each
        · rw [spelled, List.cons_append, skipSpace_cons solid]
        · omega
      rw [spelled, List.cons_append] at start read
      rw [value?_items start (skipSpace_newLine_append solid) noEnd, read]
      rfl
  | @object members writable each =>
    intro level fuel s rest start enough
    obtain ⟨fuel, rfl⟩ := Nat.exists_eq_add_one_of_ne_zero (by omega : fuel ≠ 0)
    cases members with
    | nil =>
      rw [value?.eq_2, start, prettyAt]
      rfl
    | cons member members =>
      obtain ⟨key, item⟩ := member
      rw [prettyAt] at start enough
      simp only [List.length_append, List.length_cons, List.cons_append, List.append_assoc,
        List.nil_append] at start enough
      have read : members? fuel (quote key ++ (':' :: ' ' :: (prettyAt (level + 1) item ++
          (prettyMembers (level + 1) members ++ (newLine level ++ '\x7d' :: rest))))) =
          some ((key, item) :: members, rest) := by
        apply members?_prettyMembers writable each
        · exact skipSpace_cons rfl
        · omega
      rw [value?_members start (skipSpace_newLine_append rfl) (by decide)]
      exact congrArg (Option.map _) read

/-- **Reading undoes writing.** -/
theorem Writable.parse?_pretty (writable : Writable value) : parse? value.pretty = some value := by
  obtain ⟨c, tail, spelled, solid, -⟩ := writable.head_prettyAt 0
  have start : skipSpace value.pretty = prettyAt 0 value ++ [] := by
    rw [pretty, List.append_nil, spelled, skipSpace_cons solid]
  have read : value? value.pretty.length.succ value.pretty = some (value, []) :=
    writable.readsBack start (Nat.lt_succ_self _)
  rw [parse?, read]
  rfl

end Scriptorium.Json
