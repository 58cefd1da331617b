import Scriptorium.Proofs.Link.Document
import Scriptorium.Proofs.Text.SmallLetter
/-! # Signs that publishing keeps

Publishing a name drops or replaces blank characters, dots, hyphens, digits in front, ampersands
and capitals. Any other sign of a name stands in the published name (`Name.mem_publish`), and
so in the path to a page where it stands in the path to the document
(`Link.mem_pagePath_iff`). The quote and the number sign are such signs, though in HTML the one
ends an attribute and the other a path.
-/

namespace Scriptorium

namespace Text

variable {p : Char → Bool} {c : Char} {s : Text}

private theorem mem_squeeze (mark : Char) (member : c ∈ s) (other : p c = false) :
    c ∈ s.squeeze p mark := by
  have ne {d : Char} (found : p d = true) : c ≠ d := by
    rintro rfl
    rw [found] at other
    cases other
  fun_induction squeeze p mark s with
  | case1 => exact member
  | case2 d s found again ih => exact ih (List.mem_of_ne_of_mem (ne found) member)
  | case3 d s found single ih =>
    exact List.mem_cons_of_mem mark (ih (List.mem_of_ne_of_mem (ne found) member))
  | case4 d s absent ih => exact List.mem_cons.mpr ((List.mem_cons.mp member).imp_right ih)

private theorem mem_replaceNonempty {old : Text} (new : Text) (member : c ∈ s) (other : c ∉ old) :
    c ∈ replaceNonempty old new s := by
  fun_induction replaceNonempty old new s with
  | case1 => exact member
  | case2 d s rest found fits ih =>
    rw [dropStart?_eq_some_iff.mp found] at member
    exact List.mem_append_right new (ih ((List.mem_append.mp member).resolve_left other))
  | case3 d s rest found long ih => exact List.mem_cons.mpr ((List.mem_cons.mp member).imp_right ih)
  | case4 d s none ih => exact List.mem_cons.mpr ((List.mem_cons.mp member).imp_right ih)

private theorem mem_lowerAfter_of_mem {before : Text} (member : c ∈ s) (lower : lowerChar c = [c])
    (other : c ≠ 'Σ') : c ∈ lowerAfter before s := by
  induction s generalizing before with
  | nil => exact member
  | cons d s ih =>
    rw [lowerAfter]
    rcases List.mem_cons.mp member with rfl | later
    · rw [if_neg other, lower]
      exact List.mem_append_left _ List.mem_cons_self
    · exact List.mem_append_right _ (ih later)

end Text

/-- A sign that publishing a name neither drops nor replaces. -/
structure IsKeptSign (c : Char) : Prop where
  solid : isBlank c = false
  no_dot : c ≠ '.'
  no_hyphen : isHyphen c = false
  no_digit : isDecimalDigit c = false
  no_ampersand : c ≠ '&'
  no_sigma : c ≠ 'Σ'
  lower : lowerChar c = [c]

instance (c : Char) : Decidable (IsKeptSign c) :=
  decidable_of_iff (isBlank c = false ∧ c ≠ '.' ∧ isHyphen c = false ∧ isDecimalDigit c = false ∧
      c ≠ '&' ∧ c ≠ 'Σ' ∧ lowerChar c = [c])
    ⟨fun ⟨solid, noDot, noHyphen, noDigit, noAmpersand, noSigma, lower⟩ =>
        ⟨solid, noDot, noHyphen, noDigit, noAmpersand, noSigma, lower⟩,
      fun ⟨solid, noDot, noHyphen, noDigit, noAmpersand, noSigma, lower⟩ =>
        ⟨solid, noDot, noHyphen, noDigit, noAmpersand, noSigma, lower⟩⟩

namespace Name

variable {name : Text} {c : Char}

/-- Dropping the ordinals of a name loses no kept sign. -/
theorem mem_dropOrdinals (kept : IsKeptSign c) (member : c ∈ name) : c ∈ dropOrdinals name := by
  fun_induction dropOrdinals name with
  | case1 name none => exact member
  | case2 name rest found shorter ih =>
    apply ih
    unfold dropOrdinal? at found
    split at found
    · cases found
    · rename_i hyphen behind digits
      have held : c ∈ hyphen :: behind := digits ▸ Text.mem_dropWhile member kept.no_digit
      split at found
      · rename_i sign
        cases found
        have other : c ≠ hyphen := by
          rintro rfl
          have same := (Bool.and_eq_true_iff.mp sign).2
          rw [kept.no_hyphen] at same
          cases same
        exact Text.mem_dropWhile (List.mem_of_ne_of_mem other held) kept.no_hyphen
      · cases found

/-- **A kept sign of a name stands in the published name.** -/
theorem mem_publish (kept : IsKeptSign c) (member : c ∈ name) : c ∈ publish name := by
  have undotted : c ∈ name.trim.filter (· != '.') :=
    List.mem_filter.mpr ⟨Text.mem_stripWhere member kept.solid, by simpa using kept.no_dot⟩
  have hyphenated := Text.mem_squeeze '-' (Text.mem_squeeze '-' undotted kept.solid) kept.no_hyphen
  have unnumbered := mem_dropOrdinals kept (Text.mem_stripWhere hyphenated kept.no_hyphen)
  have other : c ∉ ['&'] := by simpa using kept.no_ampersand
  have spelled := Text.mem_replaceNonempty "and".toList unnumbered other
  exact Text.mem_lowerAfter_of_mem
    (Text.mem_stripWhere (Text.mem_squeeze '-' spelled kept.no_hyphen) kept.no_hyphen) kept.lower
    kept.no_sigma

end Name

namespace Link

variable {c : Char} {stem : Text} {segments : List Text}

/-- Publishing a path loses no kept sign. -/
theorem exists_mem_publishSegments (kept : IsKeptSign c)
    (member : ∃ segment ∈ segments, c ∈ segment) :
    ∃ segment ∈ publishSegments segments, c ∈ segment := by
  have named {segment : Text} (held : c ∈ segment) : ¬ isNameless segment = true := by
    intro nameless
    rcases eq_of_isNameless nameless with rfl | rfl | rfl
    · cases held
    · exact kept.no_dot (by simpa using held)
    · exact kept.no_dot (by simpa using held)
  fun_induction publishSegments segments with
  | case1 => exact member
  | case2 last =>
    obtain ⟨_, same, held⟩ := member
    obtain rfl := List.mem_singleton.mp same
    rw [if_neg (named held)]
    exact ⟨_, List.mem_cons_self, List.mem_append_left _ (Name.mem_publish kept held)⟩
  | case3 segment rest more ih =>
    obtain ⟨found, listed, held⟩ := member
    rcases List.mem_cons.mp listed with rfl | later
    · rw [if_neg (named held)]
      exact ⟨_, List.mem_cons_self, Name.mem_publish kept held⟩
    · obtain ⟨page, written, holds⟩ := ih ⟨found, later, held⟩
      exact ⟨page, List.mem_cons_of_mem _ written, holds⟩

/-- What is no slash stands in a path when it stands in one of its parts. -/
theorem mem_join_iff (slash : c ≠ '/') {parts : List Text} :
    c ∈ Text.join ['/'] parts ↔ ∃ part ∈ parts, c ∈ part := by
  have separator : c ∉ ['/'] := fun held => slash (List.mem_singleton.mp held)
  rw [← List.count_pos_iff, Text.count_join separator, List.count_pos_iff, List.mem_flatten]

/-- **A kept sign of low code stands in the path to a page** exactly when it stands in the path to
the document. -/
theorem mem_pagePath_iff (kept : IsKeptSign c) (low : c.toNat < 0x61) (nonzero : c.toNat ≠ 0)
    (slash : c ≠ '/') : c ∈ pagePath stem ↔ c ∈ stem := by
  constructor
  · intro member
    have other : c ∉ "-.".toList := by
      have hyphen : c ≠ '-' := by
        rintro rfl
        exact absurd kept.no_hyphen (by decide)
      rw [show "-.".toList = ['-', '.'] from rfl]
      simp [hyphen, kept.no_dot]
    have counts := count_pagePath_le low nonzero other slash stem
    exact List.count_pos_iff.mp (Nat.lt_of_lt_of_le (List.count_pos_iff.mpr member) counts)
  · intro member
    rw [← Text.join_splitOn '/' stem, mem_join_iff slash] at member
    exact (mem_join_iff slash).mpr (exists_mem_publishSegments kept member)

end Link

end Scriptorium
