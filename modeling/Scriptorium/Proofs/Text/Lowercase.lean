import Scriptorium.Text.Lowercase
/-! # What lower case writes

Small letters lie behind the punctuation and the digits of ASCII. So a character below
them stands in the lower case of a text only where the text holds it
(`Text.mem_of_mem_toLower`), and a capital of ASCII nowhere (`Text.not_mem_toLower`).
-/

namespace Scriptorium

/-- No small letter lies before the small letters of ASCII. -/
theorem smallLetter_le : ∀ run ∈ caseRuns, (0x61 : Int) ≤ run.first + run.offset := by
  decide +kernel

/-- A code point that is a capital of a run. -/
structure CaseRun.IsCapital (run : CaseRun) (n : Nat) : Prop where
  first_le : run.first ≤ n
  le_last : n ≤ run.last
  step_dvd : (n - run.first) % run.step = 0

/-- The offset of a character is that of a run whose capitals it is among, or none. -/
theorem caseOffset_cases (n : Nat) (runs : List CaseRun) :
    caseOffset n runs = 0 ∨ ∃ run ∈ runs, run.IsCapital n ∧ caseOffset n runs = run.offset := by
  induction runs with
  | nil => exact .inl rfl
  | cons run runs ih =>
    unfold caseOffset
    split
    · exact .inl rfl
    · rename_i reached
      split
      · rename_i found
        simp only [Bool.and_eq_true, decide_eq_true_eq, beq_iff_eq] at found
        exact .inr ⟨run, List.mem_cons_self, ⟨Nat.not_lt.mp reached, found.1, found.2⟩, rfl⟩
      · rcases ih with same | ⟨later, member, capital, offset⟩
        · exact .inl same
        · exact .inr ⟨later, List.mem_cons_of_mem run member, capital, offset⟩

/-- The character of a number has this code point, or the code point zero. -/
theorem toNat_ofNat_cases (n : Nat) : (Char.ofNat n).toNat = n ∨ (Char.ofNat n).toNat = 0 := by
  by_cases valid : n.isValidChar
  · left
    rw [Char.ofNat, dif_pos valid]
    rfl
  · right
    rw [Char.ofNat, dif_neg valid]
    rfl

/-- Lower case keeps a character, or writes one behind the punctuation of ASCII. -/
theorem mem_lowerChar {c d : Char} (member : c ∈ lowerChar d) :
    c = d ∨ 0x61 ≤ c.toNat ∨ c.toNat = 0 := by
  unfold lowerChar at member
  split at member
  · right
    left
    simp only [List.mem_cons, List.not_mem_nil, or_false] at member
    rcases member with rfl | rfl <;> decide
  · rw [List.mem_singleton] at member
    subst member
    rcases caseOffset_cases d.toNat caseRuns with same | ⟨run, listed, capital, offset⟩
    · left
      rw [same, Int.add_zero, Int.toNat_natCast, Char.ofNat_toNat]
    · right
      have small := smallLetter_le run listed
      have first := capital.first_le
      rw [offset]
      rcases toNat_ofNat_cases (d.toNat + run.offset).toNat with code | zero
      · left
        omega
      · exact .inr zero

namespace Text

/-- A character of a text in small letters is one of the text, a small letter or above. -/
theorem mem_lowerAfter {c : Char} {before s : Text} (member : c ∈ lowerAfter before s) :
    c ∈ s ∨ 0x61 ≤ c.toNat ∨ c.toNat = 0 := by
  induction s generalizing before with
  | nil => exact absurd member List.not_mem_nil
  | cons d s ih =>
    simp only [lowerAfter, List.mem_append] at member
    rcases member with first | later
    · split at first
      · right
        left
        split at first <;> rw [List.mem_singleton] at first <;> subst first <;> decide
      · rcases mem_lowerChar first with rfl | beyond
        · exact .inl List.mem_cons_self
        · exact .inr beyond
    · exact (ih later).imp_left (List.mem_cons_of_mem d)

/-- A character below the small letters stands in a text in small letters only when it stood in it
before. -/
theorem mem_of_mem_toLower {c : Char} {s : Text} (low : c.toNat < 0x61) (nonzero : c.toNat ≠ 0)
    (member : c ∈ s.toLower) : c ∈ s := by
  rcases mem_lowerAfter member with held | beyond | zero
  · exact held
  · exact absurd low (Nat.not_lt.mpr beyond)
  · exact absurd zero nonzero

private theorem mem_lowerChar_of_mem_lowerAfter {c : Char} {before s : Text}
    (member : c ∈ lowerAfter before s) (low : c.toNat < 0x61) : ∃ d, c ∈ lowerChar d := by
  induction s generalizing before with
  | nil => exact absurd member List.not_mem_nil
  | cons d s ih =>
    simp only [lowerAfter, List.mem_append] at member
    rcases member with first | later
    · split at first
      · split at first <;> rw [List.mem_singleton] at first <;> subst first <;>
          exact absurd low (by decide)
      · exact ⟨d, first⟩
    · exact ih later

/-- A character that has another lower-case form stands in no text of small letters. -/
theorem not_mem_toLower {c : Char} {s : Text} (low : c.toNat < 0x61) (nonzero : c.toNat ≠ 0)
    (changed : c ∉ lowerChar c) : c ∉ s.toLower := by
  intro member
  obtain ⟨d, written⟩ := mem_lowerChar_of_mem_lowerAfter member low
  rcases mem_lowerChar written with rfl | beyond | zero
  · exact changed written
  · exact absurd low (Nat.not_lt.mpr beyond)
  · exact nonzero zero

end Text

end Scriptorium
