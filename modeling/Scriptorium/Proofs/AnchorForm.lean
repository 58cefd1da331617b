import Scriptorium.Proofs.PublishedName
/-! # Anchors are their own anchors

Making an anchor leaves a text alone exactly when it holds nothing but small letters of ASCII,
digits and hyphens, no two of them in a row; and these are all the anchors
(`Anchor.ofText_eq_self_iff`). Of the text itself it needs no more than the lower case with a
hyphen for each run of blank characters and low lines (`Anchor.ofText_hyphenate`). The small
letters and digits of the text are all kept (`Anchor.count_le_count_ofText`).
-/

namespace Scriptorium

namespace Text

private theorem count_squeeze {p : Char → Bool} {mark c : Char} (other : p c = false)
    (new : c ≠ mark) (s : Text) : (s.squeeze p mark).count c = s.count c := by
  have apart {d : Char} (found : p d = true) : d ≠ c := by
    rintro rfl
    rw [found] at other
    cases other
  fun_induction squeeze p mark s with
  | case1 => rfl
  | case2 d s found again ih => rw [ih, List.count_cons_of_ne (apart found)]
  | case3 d s found single ih =>
    rw [List.count_cons_of_ne new.symm, ih, List.count_cons_of_ne (apart found)]
  | case4 d s absent ih => rw [List.count_cons, List.count_cons, ih]

private theorem count_le_count_lowerAfter {c : Char} (lower : lowerChar c = [c]) (other : c ≠ 'Σ')
    (before s : Text) : s.count c ≤ (lowerAfter before s).count c := by
  induction s generalizing before with
  | nil => exact Nat.le_refl 0
  | cons d s ih =>
    rw [lowerAfter, List.count_append, List.count_cons, Nat.add_comm]
    refine Nat.add_le_add ?_ (ih _)
    by_cases same : d = c
    · subst same
      rw [if_neg other, lower]
      exact Nat.le_of_eq List.count_singleton.symm
    · rw [if_neg (by simpa using same)]
      exact Nat.zero_le _

end Text

namespace Anchor

variable {c : Char} {s : Text}

/-- A text with the form of an anchor. -/
structure IsAnchor (s : Text) : Prop where
  allowed : ∀ c ∈ s, isAnchorChar c = true
  no_run : ¬ ['-', '-'] <:+: s

private theorem IsAnchor.ofText_eq_self (anchor : IsAnchor s) : ofText s = s := by
  rw [ofText_of_isAnchorChar anchor.allowed]
  exact squeeze_eq_self_iff.mpr anchor.no_run

private theorem isAnchor_ofText (s : Text) : IsAnchor (ofText s) where
  allowed := fun _ => isAnchorChar_of_mem_ofText
  no_run := squeeze_eq_self_iff.mp (Text.squeeze_squeeze rfl _)

/-- An anchor is its own anchor. -/
theorem ofText_ofText (s : Text) : ofText (ofText s) = ofText s :=
  (isAnchor_ofText s).ofText_eq_self

/-! ## What an anchor is made of -/

/-- Whether a character is written as a hyphen, a whole run of such at a time. -/
def isGap (c : Char) : Bool :=
  isBlank c || c == '_'

/-- A text in lower case, with one hyphen for each longest run of gaps. -/
def hyphenate (s : Text) : Text :=
  s.toLower.squeeze isGap '-'

private theorem ofText_eq (s : Text) :
    ofText s = Text.squeeze isHyphen '-' ((hyphenate s).filter isAnchorChar) :=
  rfl

private theorem isGap_of_mem_hyphenate (member : c ∈ hyphenate s) : isGap c = false := by
  rcases Text.eq_of_mem_squeeze member with solid | rfl
  · exact solid
  · rfl

private theorem toLower_hyphenate (s : Text) : (hyphenate s).toLower = hyphenate s := by
  apply Text.lowerAfter_eq_self
  intro c member
  by_cases hyphen : c = '-'
  · subst hyphen
    exact ⟨by decide, lowerChar_of_isAnchorChar rfl⟩
  · exact Text.lower_of_mem_toLower (Text.mem_of_mem_squeeze member hyphen)

private theorem hyphenate_hyphenate (s : Text) : hyphenate (hyphenate s) = hyphenate s := by
  have apart : ∀ c ∈ hyphenate s, isGap c = false := fun _ => isGap_of_mem_hyphenate
  rw [hyphenate, toLower_hyphenate, Text.squeeze_of_none apart]

/-- A hyphenated text has the anchor of the text. -/
theorem ofText_hyphenate (s : Text) : ofText (hyphenate s) = ofText s := by
  rw [ofText_eq, hyphenate_hyphenate, ← ofText_eq]

/-- An anchor keeps the small letters and the digits of its text. -/
theorem count_le_count_ofText (allowed : isAnchorChar c = true)
    (other : c ≠ '-') (s : Text) : s.count c ≤ (ofText s).count c := by
  have noSigma : c ≠ 'Σ' := by
    rintro rfl
    exact absurd allowed (by decide)
  have noLine : c ≠ '_' := by
    rintro rfl
    exact absurd allowed (by decide)
  have solid : (isBlank c || c == '_') = false := by
    rw [not_isBlank_of_isAnchorChar allowed, Bool.false_or, beq_eq_false_iff_ne]
    exact noLine
  have noHyphen : isHyphen c = false := beq_eq_false_iff_ne.mpr other
  dsimp only [ofText]
  rw [Text.count_squeeze noHyphen other, List.count_filter allowed,
    Text.count_squeeze solid other]
  exact Text.count_le_count_lowerAfter (lowerChar_of_isAnchorChar allowed) noSigma [] s

/-- **Making anchors settles texts.** A second time it changes nothing. The texts that it leaves
alone are the anchors, which are the texts of small letters of ASCII, digits and hyphens without
two hyphens in a row. Any two texts that are hyphenated alike have one anchor, that of the
hyphenated text. -/
theorem ofText_eq_self_iff (s : Text) :
    ofText (ofText s) = ofText s ∧
      (ofText s = s ↔ ∃ source, ofText source = s) ∧
      ((∃ source, ofText source = s) ↔ IsAnchor s) ∧
      ofText (hyphenate s) = ofText s := by
  have settled : (∃ source, ofText source = s) → IsAnchor s := by
    rintro ⟨source, rfl⟩
    exact isAnchor_ofText source
  refine ⟨ofText_ofText s, ⟨fun fixed => ⟨s, fixed⟩, fun image => ?_⟩, ⟨settled, fun anchor => ?_⟩,
    ofText_hyphenate s⟩
  · exact (settled image).ofText_eq_self
  · exact ⟨s, anchor.ofText_eq_self⟩

end Anchor

end Scriptorium
