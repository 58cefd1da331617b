import Scriptorium.Proofs.Anchor
import Scriptorium.Text.Blank
import Scriptorium.Text.Digit
/-! # Small letters

What lower case writes for a letter is in lower case already, and it is neither a blank
character nor a digit (`isSmall_of_mem_lowerChar`). So making a text lower case twice does
no more than once (`Text.toLower_toLower`). Where some characters of a text are spelled in
small letters (`Text.Spelled`), all others stand as they did, in the same order
(`Text.Spelled.of_append_cons`).
-/

namespace Scriptorium

/-! ## Small letters of a run -/

namespace CaseRun

/-- The small letter of the first capital. -/
def firstSmall (run : CaseRun) : Nat :=
  (run.first + run.offset).toNat

/-- The small letter of the last capital. -/
def lastSmall (run : CaseRun) : Nat :=
  (run.last + run.offset).toNat

/-- Whether the small letters of a run alternate with the capitals of another one. -/
def alternates (run other : CaseRun) : Bool :=
  other.step == 2 && (run.step == 2 || run.first == run.last) &&
    (run.firstSmall + other.first) % 2 == 1

/-- Whether no small letter of a run is a capital of the given runs, which ascend. -/
def lacksCapitals (run : CaseRun) : List CaseRun → Bool
  | [] => true
  | other :: others =>
    run.lastSmall.blt other.first ||
      (other.last.blt run.firstSmall || run.alternates other) && run.lacksCapitals others

/-- Whether no small letter of a run lies in the given ranges, which ascend. -/
def isOutside (run : CaseRun) : List (Nat × Nat) → Bool
  | [] => true
  | (low, high) :: ranges =>
    run.lastSmall.blt low || high.blt run.firstSmall && run.isOutside ranges

/-- The code points of blank characters behind those of ASCII. -/
def blankRanges : List (Nat × Nat) :=
  [(0x85, 0x85), (0xA0, 0xA0), (0x1680, 0x1680), (0x2000, 0x200A), (0x2028, 0x2029),
    (0x202F, 0x202F), (0x205F, 0x205F), (0x3000, 0x3000)]

/-- No small letter of a run is a capital, a digit, a blank character, or the capital I with
a dot above, which has no run. -/
theorem lacks_caseRuns : ∀ run ∈ caseRuns, run.lacksCapitals caseRuns = true ∧
    run.isOutside decimalDigitRanges = true ∧ run.isOutside blankRanges = true ∧
    run.isOutside [(0x130, 0x130)] = true := by
  decide +kernel

variable {run : CaseRun} {n : Nat}

private theorem IsCapital.small_mem (capital : run.IsCapital n) :
    run.firstSmall ≤ (n + run.offset).toNat ∧ (n + run.offset).toNat ≤ run.lastSmall := by
  obtain ⟨first, last, -⟩ := capital
  simp only [firstSmall, lastSmall]
  omega

private theorem IsCapital.not_isCapital_of_alternates {other : CaseRun} (capital : run.IsCapital n)
    (low : 0 ≤ run.first + run.offset) (alternates : run.alternates other = true) :
    ¬ other.IsCapital (n + run.offset).toNat := by
  rintro ⟨reached, -, even⟩
  obtain ⟨first, last, step⟩ := capital
  simp only [CaseRun.alternates, firstSmall, Bool.and_eq_true, Bool.or_eq_true,
    beq_iff_eq] at alternates
  obtain ⟨⟨two, steps⟩, odd⟩ := alternates
  rw [two] at even
  rcases steps with steps | single
  · rw [steps] at step
    omega
  · omega

/-- A small letter is passed over where the capitals are looked up. -/
theorem IsCapital.caseOffset_small (capital : run.IsCapital n)
    (low : 0 ≤ run.first + run.offset) {runs : List CaseRun}
    (lacks : run.lacksCapitals runs = true) : caseOffset (n + run.offset).toNat runs = 0 := by
  obtain ⟨least, most⟩ := capital.small_mem
  induction runs with
  | nil => rfl
  | cons other runs ih =>
    simp only [lacksCapitals, Bool.or_eq_true, Bool.and_eq_true, Nat.blt_eq] at lacks
    unfold caseOffset
    split
    · rfl
    · rename_i reached
      rcases lacks with before | ⟨apart, later⟩
      · exact absurd (Nat.lt_of_le_of_lt most before) reached
      · split
        · rename_i found
          simp only [Bool.and_eq_true, decide_eq_true_eq, beq_iff_eq] at found
          rcases apart with behind | alternates
          · exact absurd found.1 (Nat.not_le.mpr (Nat.lt_of_lt_of_le behind least))
          · exact absurd ⟨Nat.not_lt.mp reached, found.1, found.2⟩
              (capital.not_isCapital_of_alternates low alternates)
        · exact ih later

/-- The small letters of a run lie outside of the ranges that the run does. -/
theorem IsCapital.inRanges_small (capital : run.IsCapital n) {ranges : List (Nat × Nat)}
    (outside : run.isOutside ranges = true) : inRanges ranges (n + run.offset).toNat = false := by
  obtain ⟨least, most⟩ := capital.small_mem
  induction ranges with
  | nil => rfl
  | cons range ranges ih =>
    obtain ⟨low, high⟩ := range
    simp only [isOutside, Bool.or_eq_true, Bool.and_eq_true, Nat.blt_eq] at outside
    rw [inRanges, Bool.and_eq_false_iff, decide_eq_false_iff_not]
    rcases outside with before | ⟨behind, later⟩
    · exact .inl (Nat.not_le.mpr (Nat.lt_of_le_of_lt most before))
    · have passed : ¬ (n + run.offset).toNat ≤ high :=
        Nat.not_le.mpr (Nat.lt_of_lt_of_le behind least)
      exact .inr (by rw [decide_eq_false passed, Bool.false_or, ih later])

end CaseRun

/-! ## What lower case writes -/

private theorem isBlank_eq_inRanges {c : Char} (behind : 0x61 ≤ c.toNat) :
    isBlank c = inRanges CaseRun.blankRanges c.toNat := by
  rw [Bool.eq_iff_iff]
  simp only [isBlank, inRanges, CaseRun.blankRanges, Bool.or_eq_true, Bool.and_eq_true,
    decide_eq_true_eq, beq_iff_eq, Bool.false_eq_true, or_false]
  omega

/-- A character that lower case may write: it is in lower case, and it is neither a blank
character nor a digit nor one of the signs that lie before the letters of ASCII. -/
structure IsSmall (c : Char) : Prop where
  lower : lowerChar c = [c]
  solid : isBlank c = false
  no_digit : isDecimalDigit c = false
  no_sign : ¬ (0x20 < c.toNat ∧ c.toNat < 0x30)

instance (c : Char) : Decidable (IsSmall c) :=
  decidable_of_iff (lowerChar c = [c] ∧ isBlank c = false ∧ isDecimalDigit c = false ∧
      ¬ (0x20 < c.toNat ∧ c.toNat < 0x30))
    ⟨fun ⟨lower, solid, noDigit, noSign⟩ => ⟨lower, solid, noDigit, noSign⟩,
      fun ⟨lower, solid, noDigit, noSign⟩ => ⟨lower, solid, noDigit, noSign⟩⟩

/-- What a capital is spelled as is a small letter. -/
theorem isSmall_of_isCapital {run : CaseRun} {n : Nat} (listed : run ∈ caseRuns)
    (capital : run.IsCapital n) : IsSmall (Char.ofNat (n + run.offset).toNat) := by
  have small := smallLetter_le run listed
  have behind : 0x61 ≤ (n + run.offset).toNat := by
    have first := capital.first_le
    omega
  obtain ⟨noCapital, noDigit, noBlank, noDot⟩ := CaseRun.lacks_caseRuns run listed
  have same := capital.caseOffset_small (by omega) noCapital
  have digit := capital.inRanges_small noDigit
  have blank := capital.inRanges_small noBlank
  have dotted := capital.inRanges_small noDot
  rcases toNat_ofNat_cases (n + run.offset).toNat with code | zero
  · rw [← code] at behind same digit blank dotted
    generalize Char.ofNat (n + run.offset).toNat = c at behind same digit blank dotted
    have plain : c.toNat ≠ 0x130 := by
      intro dot
      rw [dot] at dotted
      exact absurd dotted (by decide)
    refine ⟨?_, ?_, digit, by omega⟩
    · rw [lowerChar, if_neg plain, same, Int.add_zero, Int.toNat_natCast, Char.ofNat_toNat]
    · rw [isBlank_eq_inRanges behind, blank]
  · have null : Char.ofNat (n + run.offset).toNat = '\x00' := Char.toNat_inj.mp zero
    rw [null]
    decide

/-- What lower case writes for the capital I with a dot above. -/
theorem isSmall_dotted : IsSmall 'i' ∧ IsSmall (Char.ofNat 0x307) := by
  decide

/-- Lower case keeps a character, or writes small letters for it. -/
theorem lowerChar_cases (c : Char) : lowerChar c = [c] ∨ ∀ d ∈ lowerChar c, IsSmall d := by
  unfold lowerChar
  split
  · obtain ⟨letter, dot⟩ := isSmall_dotted
    exact .inr (List.forall_mem_cons.mpr ⟨letter, List.forall_mem_singleton.mpr dot⟩)
  · rcases caseOffset_cases c.toNat caseRuns with same | ⟨run, listed, capital, offset⟩
    · left
      rw [same, Int.add_zero, Int.toNat_natCast, Char.ofNat_toNat]
    · right
      rw [offset]
      exact List.forall_mem_singleton.mpr (isSmall_of_isCapital listed capital)

private theorem lowerChar_ne_nil (c : Char) : lowerChar c ≠ [] := by
  unfold lowerChar
  split <;> exact List.cons_ne_nil _ _

private theorem isSmall_sigma : IsSmall 'σ' ∧ IsSmall 'ς' := by
  decide

namespace Text

/-- The second text is the first one with some characters spelled in small letters. -/
inductive Spelled : Text → Text → Prop
  | nil : Spelled [] []
  | keep {s t : Text} (c : Char) : Spelled s t → Spelled (c :: s) (c :: t)
  | spell {s t letters : Text} (c : Char) : letters ≠ [] → (∀ d ∈ letters, IsSmall d) →
      Spelled s t → Spelled (c :: s) (letters ++ t)

variable {c : Char} {s t front back : Text}

/-- A character that is no small letter was there before, with the same spelling behind
it. -/
theorem Spelled.of_append_cons (front : Text) (spelled : Spelled s (front ++ c :: back))
    (other : ¬ IsSmall c) :
    ∃ front' back', s = front' ++ c :: back' ∧ Spelled front' front ∧ Spelled back' back := by
  generalize whole : front ++ c :: back = t at spelled
  induction spelled generalizing front with
  | nil => exact absurd whole (List.append_ne_nil_of_right_ne_nil _ (List.cons_ne_nil c back))
  | @keep s t d spelled ih =>
    rcases front with _ | ⟨e, front⟩
    · obtain ⟨rfl, rfl⟩ := List.cons_eq_cons.mp whole
      exact ⟨[], s, rfl, .nil, spelled⟩
    · obtain ⟨rfl, behind⟩ := List.cons_eq_cons.mp whole
      obtain ⟨front', back', rfl, before, after⟩ := ih front behind
      exact ⟨e :: front', back', rfl, .keep e before, after⟩
  | @spell s t letters d nonempty small spelled ih =>
    rcases List.append_eq_append_iff.mp whole with ⟨later, rfl, behind⟩ | ⟨later, rfl, behind⟩
    · rcases later with _ | ⟨e, later⟩
      · obtain ⟨front', back', rfl, before, after⟩ := ih [] behind
        have longer := Spelled.spell d nonempty small before
        rw [List.append_nil, List.append_nil] at longer
        exact ⟨d :: front', back', rfl, longer, after⟩
      · -- The character would be one of the letters.
        obtain ⟨rfl, -⟩ := List.cons_eq_cons.mp behind
        exact absurd (small c (List.mem_append_right _ List.mem_cons_self)) other
    · obtain ⟨front', back', rfl, before, after⟩ := ih later behind.symm
      exact ⟨d :: front', back', rfl, .spell d nonempty small before, after⟩

/-- Only the empty text is spelled as the empty one. -/
theorem Spelled.eq_nil (spelled : Spelled s []) : s = [] := by
  generalize whole : ([] : Text) = t at spelled
  cases spelled with
  | nil => rfl
  | keep => cases whole
  | spell _ nonempty => exact absurd (List.append_eq_nil_iff.mp whole.symm).1 nonempty

/-- A character that is no small letter is spelled as itself. -/
theorem Spelled.of_cons (spelled : Spelled s (c :: t)) (other : ¬ IsSmall c) :
    ∃ back, s = c :: back ∧ Spelled back t := by
  obtain ⟨front, back, rfl, none, after⟩ := Spelled.of_append_cons [] spelled other
  rw [none.eq_nil]
  exact ⟨back, rfl, after⟩

/-- A character that is no small letter stands in a text when it stands in its spelling. -/
theorem Spelled.mem (spelled : Spelled s t) (member : c ∈ t) (other : ¬ IsSmall c) : c ∈ s := by
  obtain ⟨front, back, rfl⟩ := List.append_of_mem member
  obtain ⟨front', back', rfl, -, -⟩ := spelled.of_append_cons front other
  exact List.mem_append_right _ List.mem_cons_self

/-- Lower case spells characters in small letters. -/
theorem spelled_lowerAfter (before s : Text) : Spelled s (lowerAfter before s) := by
  induction s generalizing before with
  | nil => exact .nil
  | cons c s ih =>
    have later := ih (c :: before)
    obtain ⟨medial, final⟩ := isSmall_sigma
    rw [lowerAfter]
    split
    · split
      · exact .spell c (List.cons_ne_nil _ _) (List.forall_mem_singleton.mpr final) later
      · exact .spell c (List.cons_ne_nil _ _) (List.forall_mem_singleton.mpr medial) later
    · rcases lowerChar_cases c with same | small
      · rw [same]
        exact .keep c later
      · exact .spell c (lowerChar_ne_nil c) small later

/-- A text in small letters spells the text. -/
theorem spelled_toLower (s : Text) : Spelled s s.toLower :=
  spelled_lowerAfter [] s

/-- Replacing a character by small letters spells it. -/
theorem spelled_replace {new : Text} (nonempty : new ≠ []) (small : ∀ d ∈ new, IsSmall d)
    (s : Text) : Spelled s (s.replace [c] new) := by
  change Spelled s (replaceNonempty [c] new s)
  fun_induction replaceNonempty [c] new s with
  | case1 => exact .nil
  | case2 d s rest found fits ih =>
    obtain ⟨rfl, rfl⟩ := List.cons_eq_cons.mp (dropStart?_eq_some_iff.mp found)
    exact .spell d nonempty small ih
  | case3 d s rest found long ih => exact .keep d ih
  | case4 d s none ih => exact .keep d ih

/-- A character of a text in small letters is its own small letter. -/
theorem lowerChar_of_mem_lowerAfter {before : Text} (member : c ∈ lowerAfter before s) :
    lowerChar c = [c] := by
  induction s generalizing before with
  | nil => exact absurd member List.not_mem_nil
  | cons d s ih =>
    simp only [lowerAfter, List.mem_append] at member
    rcases member with first | later
    · split at first
      · split at first <;> rw [List.mem_singleton.mp first]
        · exact isSmall_sigma.2.lower
        · exact isSmall_sigma.1.lower
      · rcases lowerChar_cases d with same | small
        · rw [same] at first
          rw [List.mem_singleton.mp first, same]
        · exact (small c first).lower
    · exact ih later

/-- What a text in lower case holds is lower case on its own. -/
theorem lower_of_mem_toLower (member : c ∈ s.toLower) : c ≠ 'Σ' ∧ lowerChar c = [c] := by
  have capital : lowerChar 'Σ' ≠ ['Σ'] := by decide
  have same := lowerChar_of_mem_lowerAfter member
  exact ⟨fun sigma => capital (sigma ▸ same), same⟩

/-- Lower case is in lower case. -/
theorem toLower_toLower (s : Text) : s.toLower.toLower = s.toLower :=
  lowerAfter_eq_self fun _ => lower_of_mem_toLower

end Text

end Scriptorium
