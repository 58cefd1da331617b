import Scriptorium.Proofs.Name
/-! # The form of anchors

An anchor holds small letters of ASCII, digits and hyphens only
(`Anchor.isAnchorChar_of_mem_ofText`). Making an anchor of such a text does no more than
to put one hyphen for each run of hyphens (`Anchor.ofText_of_isAnchorChar`). So a text
behind a hyphen stays as it is when it is stable: when it neither starts with a hyphen nor
holds two in a row (`Anchor.squeeze_hyphen_cons_eq_self_iff`).
-/

namespace Scriptorium

namespace Text

variable {p : Char → Bool} {mark : Char} {front s : Text}

/-- A text without characters of a class stays when these are squeezed. -/
theorem squeeze_of_none (none : ∀ c ∈ s, p c = false) : s.squeeze p mark = s := by
  induction s with
  | nil => rfl
  | cons c s ih =>
    obtain ⟨here, later⟩ := List.forall_mem_cons.mp none
    rw [squeeze, here, ih later]
    rfl

/-- A run does not reach across the end of a text whose last character is none of a run. -/
theorem squeeze_append (last : front.getLast?.any p = false) (s : Text) :
    (front ++ s).squeeze p mark = front.squeeze p mark ++ s.squeeze p mark := by
  induction front with
  | nil => rfl
  | cons c front ih =>
    cases front with
    | nil =>
      have single : p c = false := last
      simp only [List.cons_append, List.nil_append, squeeze, single, Bool.false_eq_true, ↓reduceIte]
    | cons d front =>
      have step (t : Text) : Text.squeeze p mark (c :: d :: t) =
          (if p c then if p d then [] else [mark] else [c]) ++ Text.squeeze p mark (d :: t) := by
        rw [Text.squeeze, List.head?_cons, Option.any_some]
        repeat' split
        all_goals rfl
      have later := ih last
      rw [List.cons_append] at later
      rw [List.cons_append, List.cons_append, step, later, step, List.append_assoc]

private theorem head?_squeeze (marked : p mark = true) (s : Text) :
    (s.squeeze p mark).head?.any p = s.head?.any p := by
  fun_induction squeeze p mark s with
  | case1 => rfl
  | case2 c s found again ih => rw [ih, again, List.head?_cons, Option.any_some, found]
  | case3 c s found single ih =>
    rw [List.head?_cons, List.head?_cons, Option.any_some, Option.any_some, marked, found]
  | case4 c s absent ih => rfl

/-- Squeezed runs are squeezed. -/
theorem squeeze_squeeze (marked : p mark = true) (s : Text) :
    (s.squeeze p mark).squeeze p mark = s.squeeze p mark := by
  fun_induction squeeze p mark s with
  | case1 => rfl
  | case2 c s found again ih => exact ih
  | case3 c s found single ih =>
    rw [squeeze, if_pos marked, head?_squeeze marked, if_neg single, ih]
  | case4 c s absent ih => rw [squeeze, if_neg absent, ih]

private theorem length_squeeze_le (p : Char → Bool) (mark : Char) (s : Text) :
    (s.squeeze p mark).length ≤ s.length := by
  fun_induction squeeze p mark s with
  | case1 => exact Nat.le_refl _
  | case2 c cs found again ih => exact Nat.le_succ_of_le ih
  | case3 c cs found single ih => exact Nat.succ_le_succ ih
  | case4 c cs absent ih => exact Nat.succ_le_succ ih

/-- Characters that are their own small letters stay, unless one is a capital sigma. -/
theorem lowerAfter_eq_self {before : Text} (small : ∀ c ∈ s, c ≠ 'Σ' ∧ lowerChar c = [c]) :
    lowerAfter before s = s := by
  induction s generalizing before with
  | nil => rfl
  | cons c s ih =>
    obtain ⟨⟨other, same⟩, later⟩ := List.forall_mem_cons.mp small
    rw [lowerAfter, if_neg other, same, ih later]
    rfl

end Text

namespace Anchor

variable {c : Char} {s : Text}

private theorem bound_of_isAnchorChar (allowed : isAnchorChar c = true) :
    c.toNat = 0x2D ∨ (0x30 ≤ c.toNat ∧ c.toNat ≤ 0x39) ∨ (0x61 ≤ c.toNat ∧ c.toNat ≤ 0x7A) := by
  simp only [isAnchorChar, isAsciiDigit, isHyphen, Bool.or_eq_true, Bool.and_eq_true,
    decide_eq_true_eq, beq_iff_eq] at allowed
  rcases allowed with (⟨low, high⟩ | ⟨low, high⟩) | rfl
  · exact .inr (.inr ⟨low, high⟩)
  · exact .inr (.inl ⟨low, high⟩)
  · exact .inl rfl

/-- A character of an anchor is its own small letter. -/
theorem lowerChar_of_isAnchorChar (allowed : isAnchorChar c = true) : lowerChar c = [c] := by
  have bound := bound_of_isAnchorChar allowed
  have small : ∀ n < 0x7B, ¬ (0x41 ≤ n ∧ n ≤ 0x5A) → caseOffset n caseRuns = 0 := by decide
  rw [lowerChar, if_neg (by omega), small c.toNat (by omega) (by omega), Int.add_zero,
    Int.toNat_natCast, Char.ofNat_toNat]

private theorem toLower_of_isAnchorChar (allowed : ∀ c ∈ s, isAnchorChar c = true) :
    s.toLower = s := by
  apply Text.lowerAfter_eq_self
  intro c member
  refine ⟨?_, lowerChar_of_isAnchorChar (allowed c member)⟩
  rintro rfl
  exact absurd (allowed _ member) (by decide)

/-- No character of an anchor is blank. -/
theorem not_isBlank_of_isAnchorChar (allowed : isAnchorChar c = true) : isBlank c = false := by
  have bound := bound_of_isAnchorChar allowed
  simp only [isBlank, Bool.or_eq_false_iff, Bool.and_eq_false_iff, decide_eq_false_iff_not,
    beq_eq_false_iff_ne]
  omega

/-- Characters that anchors keep are kept. -/
theorem ofText_of_isAnchorChar (allowed : ∀ c ∈ s, isAnchorChar c = true) :
    ofText s = s.squeeze isHyphen '-' := by
  have solid : ∀ c ∈ s, (isBlank c || c == '_') = false := by
    intro c member
    have line : c ≠ '_' := by
      rintro rfl
      exact absurd (allowed _ member) (by decide)
    rw [not_isBlank_of_isAnchorChar (allowed c member), Bool.false_or, beq_eq_false_iff_ne]
    exact line
  rw [ofText, toLower_of_isAnchorChar allowed, Text.squeeze_of_none solid,
    List.filter_eq_self.mpr allowed]

/-- The anchor of a text consists of characters of anchors. -/
theorem isAnchorChar_of_mem_ofText (member : c ∈ ofText s) : isAnchorChar c = true := by
  by_cases hyphen : c = '-'
  · subst hyphen
    rfl
  · exact (List.mem_filter.mp (Text.mem_of_mem_squeeze member hyphen)).2

private theorem squeeze_twice (s : Text) :
    Text.squeeze isHyphen '-' ('-' :: '-' :: s) = Text.squeeze isHyphen '-' ('-' :: s) := by
  rw [Text.squeeze]
  rfl

private theorem squeeze_once (single : ¬ ['-'] <+: s) :
    Text.squeeze isHyphen '-' ('-' :: s) = '-' :: s.squeeze isHyphen '-' := by
  have other : s.head?.any isHyphen = false := by
    cases s with
    | nil => rfl
    | cons c s =>
      rw [List.singleton_prefix_cons_iff] at single
      simpa [isHyphen] using Ne.symm single
  rw [Text.squeeze, other]
  rfl

/-- Squeezing leaves a text alone when no two hyphens stand in a row. -/
theorem squeeze_eq_self_iff : s.squeeze isHyphen '-' = s ↔ ¬ ['-', '-'] <:+: s := by
  induction s with
  | nil => simp [Text.squeeze]
  | cons c s ih =>
    rw [List.infix_cons_iff, not_or]
    by_cases hyphen : c = '-'
    · subst hyphen
      rw [List.cons_prefix_cons]
      by_cases again : ['-'] <+: s
      · obtain ⟨s, rfl⟩ := again
        refine iff_of_false (fun same => ?_) (fun apart => apart.1 ⟨rfl, List.prefix_append _ s⟩)
        have shorter := Text.length_squeeze_le isHyphen '-' ('-' :: s)
        rw [List.singleton_append, squeeze_twice] at same
        rw [same] at shorter
        exact absurd shorter (Nat.not_succ_le_self _)
      · simp [squeeze_once again, ih, again]
    · have kept : Text.squeeze isHyphen '-' (c :: s) =
          c :: Text.squeeze isHyphen '-' s := by
        simp [Text.squeeze, isHyphen, hyphen]
      simp [kept, ih, Ne.symm hyphen]

/-- An anchor that may stand behind a hyphen: it does not start with one, and no two stand
in a row in it. -/
structure IsStable (anchor : Text) : Prop where
  no_lead : ¬ ['-'] <+: anchor
  no_run : ¬ ['-', '-'] <:+: anchor

/-- A hyphen and the text behind it stay as they are exactly when the text is stable. -/
theorem squeeze_hyphen_cons_eq_self_iff :
    Text.squeeze isHyphen '-' ('-' :: s) = '-' :: s ↔ IsStable s := by
  rw [squeeze_eq_self_iff, List.infix_cons_iff, List.cons_prefix_cons, not_or]
  exact ⟨fun ⟨lead, run⟩ => ⟨fun first => lead ⟨rfl, first⟩, run⟩,
    fun stable => ⟨fun lead => stable.no_lead lead.2, stable.no_run⟩⟩

end Anchor

end Scriptorium
