import Scriptorium.Name
import Scriptorium.Proofs.Text.Lowercase
/-! # The shape of published names

Publishing a name brings in hyphens and small letters only, and takes every dot out
(`Name.mem_of_mem_publish`). So a published name is never a segment that means the
directory itself or the one above, and it stays one segment (`Name.not_slash_publish`).
Neither names nor anchors hold capitals of ASCII (`Name.not_capital_publish`,
`Anchor.not_capital_ofText`).
-/

namespace Scriptorium

namespace Text

variable {p : Char → Bool} {mark c : Char} {s : Text}

/-- Dropping characters at the end of a text leaves a front of it. -/
theorem prefix_dropEndWhile (p : Char → Bool) (s : Text) : dropEndWhile p s <+: s :=
  List.reverse_suffix.mp (by
    rw [dropEndWhile, List.reverse_reverse]
    exact List.dropWhile_suffix p)

/-- Dropping characters at the ends of a text leaves a part of it. -/
theorem infix_stripWhere (p : Char → Bool) (s : Text) : s.stripWhere p <:+: s :=
  (prefix_dropEndWhile p _).isInfix.trans (List.dropWhile_suffix p).isInfix

/-- Dropping characters at the ends of a text adds none. -/
theorem mem_of_mem_stripWhere (member : c ∈ s.stripWhere p) : c ∈ s :=
  (infix_stripWhere p s).subset member

/-- Dropping characters in front of a text loses no other one. -/
theorem mem_dropWhile (member : c ∈ s) (other : p c = false) : c ∈ s.dropWhile p := by
  rw [← List.takeWhile_append_dropWhile (p := p) (l := s), List.mem_append] at member
  refine member.resolve_left fun taken => ?_
  rw [List.all_eq_true.mp List.all_takeWhile c taken] at other
  cases other

/-- Dropping characters at the ends of a text loses no other one. -/
theorem mem_stripWhere (member : c ∈ s) (other : p c = false) : c ∈ s.stripWhere p :=
  List.mem_reverse.mpr (mem_dropWhile (List.mem_reverse.mpr (mem_dropWhile member other)) other)

/-- Squeezing characters adds no other one than their mark. -/
theorem mem_of_mem_squeeze (member : c ∈ s.squeeze p mark) (other : c ≠ mark) : c ∈ s := by
  fun_induction squeeze p mark s with
  | case1 => exact member
  | case2 d s found again ih => exact List.mem_cons_of_mem d (ih member)
  | case3 d s found single ih =>
    rcases List.mem_cons.mp member with new | later
    · exact absurd new other
    · exact List.mem_cons_of_mem d (ih later)
  | case4 d s absent ih =>
    rcases List.mem_cons.mp member with rfl | later
    · exact List.mem_cons_self
    · exact List.mem_cons_of_mem d (ih later)

/-- Replacing brings only characters of the new text about. -/
theorem mem_of_mem_replaceNonempty {old new : Text} (member : c ∈ replaceNonempty old new s)
    (other : c ∉ new) : c ∈ s := by
  fun_induction replaceNonempty old new s with
  | case1 => exact member
  | case2 d s rest found fits ih =>
    rcases List.mem_append.mp member with written | later
    · exact absurd written other
    · rw [dropStart?_eq_some_iff.mp found]
      exact List.mem_append_right old (ih later)
  | case3 d s rest found long ih =>
    rcases List.mem_cons.mp member with rfl | later
    · exact List.mem_cons_self
    · exact List.mem_cons_of_mem d (ih later)
  | case4 d s absent ih =>
    rcases List.mem_cons.mp member with rfl | later
    · exact List.mem_cons_self
    · exact List.mem_cons_of_mem d (ih later)

end Text

namespace Name

variable {name : Text} {c : Char}

private theorem dropOrdinal?_suffix {rest : Text} (found : dropOrdinal? name = some rest) :
    rest <:+ name := by
  unfold dropOrdinal? at found
  split at found
  · cases found
  · rename_i hyphen behind digits
    split at found
    · cases found
      have dropped : hyphen :: behind <:+ name := digits ▸ List.dropWhile_suffix isDecimalDigit
      exact (List.dropWhile_suffix isHyphen).trans ((List.suffix_cons hyphen behind).trans dropped)
    · cases found

/-- Dropping the ordinals of a name leaves its end. -/
theorem dropOrdinals_suffix (name : Text) : dropOrdinals name <:+ name := by
  fun_induction dropOrdinals name with
  | case1 name none => exact List.suffix_rfl
  | case2 name rest found shorter ih => exact ih.trans (dropOrdinal?_suffix found)

/-- A published name holds no dot, and beside hyphens and letters nothing that its name
does not hold. -/
theorem mem_of_mem_publish (member : c ∈ publish name) (low : c.toNat < 0x61)
    (nonzero : c.toNat ≠ 0) (other : c ≠ '-') : c ∈ name ∧ c ≠ '.' := by
  have notSpelled : c ∉ "and".toList := by
    rw [show "and".toList = ['a', 'n', 'd'] from rfl]
    simp only [List.mem_cons, List.not_mem_nil, or_false]
    rintro (rfl | rfl | rfl) <;> exact absurd low (by decide)
  have spelled := Text.mem_of_mem_squeeze
    (Text.mem_of_mem_stripWhere (Text.mem_of_mem_toLower low nonzero member)) other
  have unnumbered := Text.mem_of_mem_replaceNonempty spelled notSpelled
  have hyphenated := Text.mem_of_mem_stripWhere ((dropOrdinals_suffix _).subset unnumbered)
  have undotted := Text.mem_of_mem_squeeze (Text.mem_of_mem_squeeze hyphenated other) other
  obtain ⟨trimmed, dotless⟩ := List.mem_filter.mp undotted
  exact ⟨Text.mem_of_mem_stripWhere trimmed, by simpa using dotless⟩

/-- A published name holds no full stop. -/
theorem not_dot_publish (name : Text) : '.' ∉ publish name :=
  fun member => (mem_of_mem_publish member (by decide) (by decide) (by decide)).2 rfl

/-- A published name holds no slash, if the name does not. -/
theorem not_slash_publish (whole : '/' ∉ name) : '/' ∉ publish name :=
  fun member => whole (mem_of_mem_publish member (by decide) (by decide) (by decide)).1

/-- A published name holds no capital E. -/
theorem not_capital_publish (name : Text) : 'E' ∉ publish name :=
  Text.not_mem_toLower (by decide) (by decide) (by decide)

end Name

namespace Anchor

/-- An anchor holds no capital E. -/
theorem not_capital_ofText (s : Text) : 'E' ∉ ofText s := by
  intro member
  have kept := (List.mem_filter.mp (Text.mem_of_mem_squeeze member (by decide))).2
  exact absurd kept (by decide)

end Anchor

end Scriptorium
