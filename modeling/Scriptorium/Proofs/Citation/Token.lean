import Scriptorium.Citation.Token
import Scriptorium.Proofs.Text.Hex
import Scriptorium.Proofs.Text.Lexicon
/-! # The tokens of references as a lexicon

The recogniser reads exactly the written tokens (`Citation.token?_eq_some_iff`), no token
starts inside of another (`Citation.eq_tokenText_of_suffix`), and the token of a name is
one of them (`Citation.isDigits_encode`).
-/

namespace Scriptorium.Citation

/-- The form of the digits in a token: at least one, all of them hexadecimal. -/
structure IsDigits (digits : Text) : Prop where
  nonempty : digits ≠ []
  hexadecimal : ∀ c ∈ digits, isHexDigit c = true

/-- The text that every token starts with. -/
def tokenLead : Text :=
  ['C', 'I', 'T', 'A', 'T', 'I', 'O', 'N', '-', 'R', 'E', 'F', '-']

/-- The text that every token ends with. -/
def tokenEnd : Text := ['-', 'E', 'N', 'D']

variable {s rest digits : Text}

/-- A token is its lead, its digits and its end. -/
theorem tokenText_eq (digits : Text) : tokenText digits = tokenLead ++ (digits ++ tokenEnd) := by
  rw [← List.append_assoc]
  rfl

/-- The token of a name spells the digits of the name. -/
theorem token_eq (id : Text) : token id = tokenText (Hex.encode id) :=
  rfl

/-- What is read as a token is a written token. -/
theorem eq_of_token?_eq_some (read : token? s = some (digits, rest)) :
    IsDigits digits ∧ s = tokenText digits ++ rest := by
  simp only [token?, Option.bind_eq_bind, Option.bind_eq_some_iff, Prod.exists] at read
  obtain ⟨_, behind, lead, _, after, run, _, _, closing, same⟩ := read
  cases same
  obtain ⟨split, nonempty, hexadecimal, -⟩ := Scanner.run_eq_some run
  have opens : s = tokenLead ++ behind := Scanner.literal_eq_some_iff.mp lead
  have closes : after = tokenEnd ++ rest := Scanner.literal_eq_some_iff.mp closing
  refine ⟨⟨nonempty, hexadecimal⟩, ?_⟩
  rw [opens, split, closes, tokenText_eq]
  simp only [List.append_assoc]

/-- A written token is read, whatever follows. -/
theorem token?_tokenText (isDigits : IsDigits digits) (rest : Text) :
    token? (tokenText digits ++ rest) = some (digits, rest) := by
  have run : Scanner.run isHexDigit (digits ++ (tokenEnd ++ rest)) =
      some (digits, tokenEnd ++ rest) :=
    Scanner.run_append isDigits.nonempty isDigits.hexadecimal (by
      simp only [tokenEnd, List.cons_append, List.head?_cons, Option.mem_some_iff]
      rintro c rfl
      decide)
  have whole : tokenText digits ++ rest = tokenLead ++ (digits ++ (tokenEnd ++ rest)) := by
    rw [tokenText_eq]
    simp only [List.append_assoc]
  have lead := Scanner.literal_append tokenLead (digits ++ (tokenEnd ++ rest))
  have closing := Scanner.literal_append tokenEnd rest
  rw [whole]
  unfold token?
  rw [show "CITATION-REF-".toList = tokenLead from rfl, show "-END".toList = tokenEnd from rfl]
  simp only [lead, run, closing, Option.bind_eq_bind, Option.bind_some]

/-- What is read as a token is its digits between lead and end, and nothing else is. -/
theorem token?_eq_some_iff :
    token? s = some (digits, rest) ↔ IsDigits digits ∧ s = tokenText digits ++ rest := by
  constructor
  · exact eq_of_token?_eq_some
  · rintro ⟨isDigits, rfl⟩
    exact token?_tokenText isDigits rest

/-- A capital letter among digits stands in none of them. -/
theorem IsDigits.not_mem (isDigits : IsDigits digits) {c : Char} (capital : isHexDigit c = false) :
    c ∉ digits := by
  intro member
  rw [isDigits.hexadecimal c member] at capital
  cases capital

/-- **No token starts inside of another.** -/
theorem eq_tokenText_of_suffix {other part behind : Text} (isDigits : IsDigits digits)
    (nonempty : part ≠ []) (suffix : part <:+ tokenText digits)
    (same : part ++ rest = tokenText other ++ behind) : part = tokenText digits := by
  have start : ∃ tail, part = 'C' :: tail := by
    cases part with
    | nil => exact absurd rfl nonempty
    | cons c tail =>
      rw [tokenText_eq] at same
      exact ⟨tail, by rw [(List.cons_eq_cons.mp same).1]⟩
  obtain ⟨tail, rfl⟩ := start
  -- Only the first letter of the lead is a capital C.
  have inside : ¬ 'C' :: tail <:+ digits ++ tokenEnd := by
    intro inside
    have member := inside.subset List.mem_cons_self
    rcases List.mem_append.mp member with digit | closing
    · exact isDigits.not_mem (by decide) digit
    · exact absurd closing (by decide)
  rw [tokenText_eq] at suffix ⊢
  simpa [tokenLead, List.suffix_cons_iff, inside] using suffix

/-- **The tokens as a lexicon.** -/
def lexicon : Lexicon Text where
  scan := token?
  text := tokenText
  IsWord := IsDigits
  text_ne_nil digits := by
    rw [tokenText_eq]
    exact List.cons_ne_nil _ _
  scan_eq_some_iff := token?_eq_some_iff
  eq_text_of_suffix isDigits _ nonempty suffix same :=
    eq_tokenText_of_suffix isDigits nonempty suffix same

private theorem encode_ne_nil {id : Text} (nonempty : id ≠ []) : Hex.encode id ≠ [] := by
  intro empty
  have spelled := Hex.decode?_encode id
  have nothing : Hex.decode? [] = some [] := Hex.decode?_encode []
  rw [empty, nothing] at spelled
  exact nonempty (Option.some.inj spelled).symm

/-- The digits of a name are those of a token. -/
theorem isDigits_encode {id : Text} (nonempty : id ≠ []) : IsDigits (Hex.encode id) where
  nonempty := encode_ne_nil nonempty
  hexadecimal c member := by
    have all : Hex.digits.all isHexDigit = true := by decide
    exact List.all_eq_true.mp all c (Hex.mem_encode member)

end Scriptorium.Citation
