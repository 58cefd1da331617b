import Scriptorium.Math.Token
import Scriptorium.Proofs.Text.Hex
import Scriptorium.Proofs.Text.Lexicon
/-! # The tokens of protected mathematics as a lexicon

The recogniser reads exactly the written tokens (`Math.token?_eq_some_iff`), no token
starts inside of another (`Math.Token.eq_text_of_suffix`), and the token of a source is read back
as that source (`Math.Token.source?_ofSource`).
-/

namespace Scriptorium.Math

/-- The form of a token: some decimal digits for its number, and any ASCII letters and
digits for its payload. -/
structure Token.WellFormed (token : Token) : Prop where
  number_ne_nil : token.number ≠ []
  digits : ∀ c ∈ token.number, isDecimalDigit c = true
  letters : ∀ c ∈ token.payload, isAsciiAlphanumeric c = true

/-- The text that every token starts with. -/
def tokenLead : Text := ['L', 'A', 'T', 'E', 'X', '-']

/-- The text that every token ends with. -/
def tokenEnd : Text := ['-', 'E', 'N', 'D']

/-- A token is its tag, its number and its payload between lead and end. -/
theorem Token.text_eq (token : Token) :
    token.text = tokenLead ++ (token.kind.tag ++ '-' :: (token.number ++
      '-' :: (token.payload ++ tokenEnd))) := by
  have lead : "LATEX-".toList = tokenLead := rfl
  have closing : "-END".toList = tokenEnd := rfl
  unfold Token.text
  simp only [lead, closing, List.append_assoc, List.cons_append]

@[simp]
theorem Kind.tag_display : Kind.display.tag = ['D', 'I', 'S', 'P', 'L', 'A', 'Y'] := rfl

@[simp]
theorem Kind.tag_inline : Kind.inline.tag = ['I', 'N', 'L', 'I', 'N', 'E'] := rfl

@[simp]
theorem Kind.tag_environment : Kind.environment.tag = ['E', 'N', 'V'] := rfl

private theorem kind?_tag (kind : Kind) (rest : Text) :
    kind? (kind.tag ++ rest) = some (kind, rest) := by
  cases kind <;> rfl

/-- What is read as a kind is its tag. -/
theorem eq_of_kind?_eq_some {s rest : Text} {kind : Kind} (read : kind? s = some (kind, rest)) :
    s = kind.tag ++ rest := by
  unfold kind? at read
  split at read
  · rename_i display
    cases read
    exact Text.dropStart?_eq_some_iff.mp display
  · split at read
    · rename_i inline
      cases read
      exact Text.dropStart?_eq_some_iff.mp inline
    · simp only [Option.map_eq_some_iff, Prod.mk.injEq] at read
      obtain ⟨behind, environment, rfl, rfl⟩ := read
      exact Text.dropStart?_eq_some_iff.mp environment

/-- What is read as a token is a written token. -/
theorem eq_of_token?_eq_some {s rest : Text} {token : Token}
    (read : token? s = some (token, rest)) : token.WellFormed ∧ s = token.text ++ rest := by
  simp only [token?, Option.bind_eq_bind, Option.bind_eq_some_iff, Prod.exists] at read
  obtain ⟨_, _, lead, kind, _, tag, _, _, hyphen, number, _, digits, _, behind, hyphen', _, _,
    closing, same⟩ := read
  cases same
  obtain ⟨split, nonempty, isDigit, -⟩ := Scanner.run_eq_some digits
  refine ⟨⟨nonempty, isDigit, fun c member =>
    List.all_eq_true.mp List.all_takeWhile c member⟩, ?_⟩
  have payload : behind = behind.takeWhile isAsciiAlphanumeric ++ (tokenEnd ++ rest) := by
    rw [show tokenEnd ++ rest = behind.dropWhile isAsciiAlphanumeric from
      (Scanner.literal_eq_some_iff.mp closing).symm, List.takeWhile_append_dropWhile]
  rw [Scanner.literal_eq_some_iff.mp lead, eq_of_kind?_eq_some tag,
    Scanner.literal_eq_some_iff.mp hyphen, split, Scanner.literal_eq_some_iff.mp hyphen']
  rw [Token.text_eq]
  simp only [List.append_assoc, List.cons_append, List.nil_append, ← payload]
  rfl

/-- A written token is read, whatever follows. -/
theorem token?_text {token : Token} (wellFormed : token.WellFormed) (rest : Text) :
    token? (token.text ++ rest) = some (token, rest) := by
  obtain ⟨kind, number, payload⟩ := token
  have digits : Scanner.run isDecimalDigit (number ++ '-' :: (payload ++ (tokenEnd ++ rest))) =
      some (number, '-' :: (payload ++ (tokenEnd ++ rest))) :=
    Scanner.run_append wellFormed.number_ne_nil wellFormed.digits (by
      simp only [List.head?_cons, Option.mem_some_iff]
      rintro c rfl
      decide)
  have stop : isAsciiAlphanumeric '-' = false := by decide
  have letters : (payload ++ (tokenEnd ++ rest)).takeWhile isAsciiAlphanumeric = payload ∧
      (payload ++ (tokenEnd ++ rest)).dropWhile isAsciiAlphanumeric = tokenEnd ++ rest := by
    rw [List.takeWhile_append_of_pos wellFormed.letters,
      List.dropWhile_append_of_pos wellFormed.letters]
    simp [tokenEnd, stop]
  have whole : (Token.mk kind number payload).text ++ rest =
      tokenLead ++ (kind.tag ++ (['-'] ++ (number ++ '-' :: (payload ++ (tokenEnd ++ rest))))) := by
    rw [Token.text_eq]
    simp only [List.append_assoc, List.cons_append, List.nil_append]
  rw [whole]
  have lead := Scanner.literal_append tokenLead
    (kind.tag ++ (['-'] ++ (number ++ '-' :: (payload ++ (tokenEnd ++ rest)))))
  have hyphen := Scanner.literal_append ['-'] (number ++ '-' :: (payload ++ (tokenEnd ++ rest)))
  have hyphen' := Scanner.literal_append ['-'] (payload ++ (tokenEnd ++ rest))
  have closing := Scanner.literal_append tokenEnd rest
  simp only [List.cons_append, List.nil_append] at hyphen'
  unfold token?
  rw [show "LATEX-".toList = tokenLead from rfl, show "-END".toList = tokenEnd from rfl]
  simp only [lead, kind?_tag, hyphen, digits, hyphen', letters, closing, Option.bind_eq_bind,
    Option.bind_some]

/-- What is read as a token is the text of a well-formed one, and nothing else is. -/
theorem token?_eq_some_iff {s rest : Text} {token : Token} :
    token? s = some (token, rest) ↔ token.WellFormed ∧ s = token.text ++ rest := by
  constructor
  · exact eq_of_token?_eq_some
  · rintro ⟨wellFormed, rfl⟩
    exact token?_text wellFormed rest

/-- No token starts with letters and digits in front of a closing. -/
theorem letters_ne_text {letters : Text}
    (alphanumeric : ∀ c ∈ letters, isAsciiAlphanumeric c = true)
    (other : Token) (rest behind : Text) :
    letters ++ (tokenEnd ++ rest) ≠ other.text ++ behind := by
  intro same
  have hyphen : isAsciiAlphanumeric '-' = false := by decide
  have left : (letters ++ (tokenEnd ++ rest)).dropWhile isAsciiAlphanumeric = tokenEnd ++ rest := by
    rw [List.dropWhile_append_of_pos alphanumeric]
    simp [tokenEnd, hyphen]
  have right : (other.text ++ behind).dropWhile isAsciiAlphanumeric =
      '-' :: (other.kind.tag ++ '-' :: (other.number ++ '-' :: (other.payload ++ tokenEnd)) ++
        behind) := by
    rw [Token.text_eq]
    rfl
  rw [same, right] at left
  cases kind : other.kind <;> simp [kind, tokenEnd] at left

/-- **No token starts behind the tag of another.** A capital letter is in none of the digits, and
the payload and the closing behind them do not go on like a token. -/
theorem Token.not_suffix_number {token other : Token} {tail rest behind : Text}
    (wellFormed : token.WellFormed) (same : 'L' :: tail ++ rest = other.text ++ behind) :
    ¬ 'L' :: tail <:+ token.number ++ '-' :: (token.payload ++ tokenEnd) := by
  intro inside
  rcases Text.suffix_append_cases inside with inside | ⟨part, nonempty, within, whole⟩
  · rcases List.suffix_cons_iff.mp inside with hyphen | inside
    · cases hyphen
    · rcases Text.suffix_append_cases inside with inside | ⟨part, nonempty, within, whole⟩
      · simp [tokenEnd, List.suffix_cons_iff] at inside
      · rw [whole, List.append_assoc] at same
        exact letters_ne_text (fun c member => wellFormed.letters c (within.subset member))
          other rest behind same
  · cases part with
    | nil => exact nonempty rfl
    | cons c part =>
      cases whole
      have digit := wellFormed.digits 'L' (within.subset List.mem_cons_self)
      cases digit.symm.trans (by decide : isDecimalDigit 'L' = false)

/-- **No token starts inside of another.** -/
theorem Token.eq_text_of_suffix {token other : Token} {part rest behind : Text}
    (wellFormed : token.WellFormed) (nonempty : part ≠ []) (suffix : part <:+ token.text)
    (same : part ++ rest = other.text ++ behind) : part = token.text := by
  have start : ∃ tail, part = 'L' :: tail := by
    cases part with
    | nil => exact absurd rfl nonempty
    | cons c tail =>
      rw [Token.text_eq] at same
      exact ⟨tail, by rw [(List.cons_eq_cons.mp same).1]⟩
  obtain ⟨tail, rfl⟩ := start
  have number := Token.not_suffix_number wellFormed same
  -- Before the number the tags bring an `L`, but neither `LAY` nor `LINE` goes on like a token.
  rw [Token.text_eq] at suffix same ⊢
  simp only [tokenLead, List.cons_append, List.nil_append, List.cons.injEq, true_and] at same
  cases kind : token.kind with
  | display =>
    simp only [tokenLead, Kind.tag_display, kind, List.cons_append, List.nil_append,
      List.suffix_cons_iff, List.cons.injEq, true_and, Char.reduceEq, false_and,
      number, or_self, or_false, false_or] at suffix ⊢
    rcases suffix with whole | rfl
    · exact whole
    · simp at same
  | inline =>
    simp only [tokenLead, Kind.tag_inline, kind, List.cons_append, List.nil_append,
      List.suffix_cons_iff, List.cons.injEq, true_and, Char.reduceEq, false_and,
      number, or_self, or_false, false_or] at suffix ⊢
    rcases suffix with whole | rfl
    · exact whole
    · simp at same
  | environment =>
    simpa [kind, tokenLead, List.suffix_cons_iff, number] using suffix

/-- **The tokens as a lexicon.** -/
def lexicon : Lexicon Token where
  scan := token?
  text := Token.text
  IsWord := Token.WellFormed
  text_ne_nil token := by
    rw [Token.text_eq]
    exact List.cons_ne_nil _ _
  scan_eq_some_iff := token?_eq_some_iff
  eq_text_of_suffix wellFormed _ nonempty suffix same :=
    Token.eq_text_of_suffix wellFormed nonempty suffix same

/-- The digits of a number are decimal digits. -/
theorem isDecimalDigit_of_isDigit {c : Char} (digit : c.isDigit = true) :
    isDecimalDigit c = true := by
  have range : 0x30 ≤ c.toNat ∧ c.toNat ≤ 0x39 := by
    simp only [Char.isDigit, Bool.and_eq_true, decide_eq_true_eq, ge_iff_le,
      UInt32.le_iff_toNat_le] at digit
    exact digit
  change (decide (0x30 ≤ c.toNat) && (decide (c.toNat ≤ 0x39) || _)) = true
  simp only [range, decide_true, Bool.true_or, Bool.and_self]

/-- The token of a source is well-formed. -/
theorem Token.wellFormed_ofSource (kind : Kind) (number : Nat) (source : Text) :
    (Token.ofSource kind number source).WellFormed where
  number_ne_nil := Nat.toDigits_ne_nil
  digits c member :=
    isDecimalDigit_of_isDigit (Nat.isDigit_of_mem_toDigits (by decide) (by decide) member)
  letters c member := by
    have hexadecimal : Hex.digits.all isAsciiAlphanumeric = true := by decide
    exact List.all_eq_true.mp hexadecimal c (Hex.mem_encode member)

/-- The token of a source is read back as that source. -/
theorem Token.source?_ofSource (kind : Kind) (number : Nat) (source : Text) :
    (Token.ofSource kind number source).source? = some source :=
  Hex.decode?_encode source

end Scriptorium.Math
