import Mathlib.Algebra.GroupWithZero.Nat
import Scriptorium.Proofs.Link.Decode
import Scriptorium.Proofs.Link.Segments
import Scriptorium.Proofs.Name
/-! # Links to documents

A link to a document is a path that ends in `.md`, perhaps with an anchor behind it
(`Link.publish_document`, `Link.publish_document_anchor`). Its page has another end
(`Link.pageEnd_pagePath`), which is an end of the same kind when the page is read as a
destination again (`Link.PageEnd.reading`), and no more percent signs than the document
(`Link.count_pagePath_le`).
-/

namespace Scriptorium

/-! ## Characters of names -/

/-- A small letter holds a low character only when it is that character. -/
theorem count_lowerChar_le {c d : Char} (low : c.toNat < 0x61) (nonzero : c.toNat ≠ 0) :
    (lowerChar d).count c ≤ [d].count c := by
  by_cases held : c ∈ lowerChar d
  · rcases mem_lowerChar held with rfl | beyond | zero
    · rw [List.count_singleton_self]
      unfold lowerChar at held ⊢
      split at held
      · rename_i dotted
        rw [dotted] at low
        exact absurd low (by decide)
      · rename_i plain
        rw [if_neg plain]
        exact List.count_le_length
    · exact absurd low (Nat.not_lt.mpr beyond)
    · exact absurd zero nonzero
  · rw [List.count_eq_zero.mpr held]
    exact Nat.zero_le _

namespace Text

variable {c mark : Char} {p : Char → Bool}

/-- Spelling a text in small letters brings no low character about. -/
theorem count_lowerAfter_le (low : c.toNat < 0x61) (nonzero : c.toNat ≠ 0) (before s : Text) :
    (lowerAfter before s).count c ≤ s.count c := by
  induction s generalizing before with
  | nil => exact Nat.le_refl 0
  | cons d s ih =>
    rw [lowerAfter, List.count_append, show d :: s = [d] ++ s from rfl, List.count_append]
    refine Nat.add_le_add ?_ (ih _)
    split
    · have sigma : c ∉ ['ς'] ∧ c ∉ ['σ'] := by
        constructor <;>
        · rw [List.mem_singleton]
          rintro rfl
          exact absurd low (by decide)
      split
      · rw [List.count_eq_zero.mpr sigma.1]
        exact Nat.zero_le _
      · rw [List.count_eq_zero.mpr sigma.2]
        exact Nat.zero_le _
    · exact count_lowerChar_le low nonzero

/-- A character that is replaced is gone, when nothing brings it back. -/
theorem not_mem_replaceNonempty_singleton {new : Text} (absent : c ∉ new) (s : Text) :
    c ∉ replaceNonempty [c] new s := by
  fun_induction replaceNonempty [c] new s with
  | case1 => exact List.not_mem_nil
  | case2 d s rest found fits ih => exact List.not_mem_append absent ih
  | case3 d s rest found long ih =>
    have size := congrArg List.length (dropStart?_eq_some_iff.mp found)
    simp only [List.length_cons, List.length_append, List.length_nil] at size
    omega
  | case4 d s none ih =>
    have other : c ≠ d := by
      rintro rfl
      rw [dropStart?, if_pos rfl] at none
      cases none
    exact List.not_mem_cons_of_ne_of_not_mem other ih

private theorem stripWhere_sublist (p : Char → Bool) (s : Text) : (s.stripWhere p).Sublist s := by
  have front := (List.dropWhile_suffix p (l := s)).sublist
  have back := (List.dropWhile_suffix p (l := (s.dropWhile p).reverse)).sublist.reverse
  rw [List.reverse_reverse] at back
  exact back.trans front

private theorem count_squeeze_le (other : c ≠ mark) (s : Text) :
    (s.squeeze p mark).count c ≤ s.count c := by
  fun_induction squeeze p mark s with
  | case1 => exact Nat.le_refl 0
  | case2 d s found again ih => exact Nat.le_trans ih List.count_le_count_cons
  | case3 d s found single ih =>
    rw [List.count_cons_of_ne other.symm]
    exact Nat.le_trans ih List.count_le_count_cons
  | case4 d s absent ih =>
    rw [List.count_cons, List.count_cons]
    exact Nat.add_le_add_right ih _

end Text

namespace Name

variable {c : Char}

/-- Publishing a name brings in hyphens and letters only. -/
theorem count_publish_le (low : c.toNat < 0x61) (nonzero : c.toNat ≠ 0) (other : c ≠ '-')
    (name : Text) : (publish name).count c ≤ name.count c := by
  have notSpelled : c ∉ "and".toList := by
    rw [show "and".toList = ['a', 'n', 'd'] from rfl]
    simp only [List.mem_cons, List.not_mem_nil, or_false]
    rintro (rfl | rfl | rfl) <;> exact absurd low (by decide)
  have strip (p : Char → Bool) (s : Text) : (s.stripWhere p).count c ≤ s.count c :=
    (Text.stripWhere_sublist p s).count_le c
  dsimp only [publish]
  calc _ ≤ _ := Text.count_lowerAfter_le low nonzero _ _
    _ ≤ _ := strip isHyphen _
    _ ≤ _ := Text.count_squeeze_le other _
    _ ≤ _ := Text.count_replaceNonempty_le notSpelled _
    _ ≤ _ := (dropOrdinals_suffix _).sublist.count_le c
    _ ≤ _ := strip isHyphen _
    _ ≤ _ := Text.count_squeeze_le other _
    _ ≤ _ := Text.count_squeeze_le other _
    _ ≤ _ := List.filter_sublist.count_le c
    _ ≤ name.count c := strip isBlank name

/-- An ampersand is spelled out. -/
theorem not_ampersand_publish (name : Text) : '&' ∉ publish name := by
  intro member
  have spelled := Text.mem_of_mem_squeeze
    (Text.mem_of_mem_stripWhere (Text.mem_of_mem_toLower (by decide) (by decide) member))
    (by decide)
  exact Text.not_mem_replaceNonempty_singleton (by decide) _ spelled

end Name

namespace Text

variable {c : Char} {s path anchor separator lead : Text}

private theorem join_concat {separator : Text} {parts : List Text} (nonempty : parts ≠ [])
    (last : Text) :
    join separator (parts ++ [last]) = join separator parts ++ separator ++ last := by
  unfold join
  induction parts with
  | nil => exact absurd rfl nonempty
  | cons part parts ih =>
    rw [List.cons_append, List.intercalate_cons_of_ne_nil (by simp)]
    cases parts with
    | nil => rw [List.nil_append, List.intercalate_singleton, List.intercalate_singleton]
    | cons next parts =>
      rw [ih (List.cons_ne_nil next parts), List.intercalate_cons_cons]
      simp only [List.append_assoc]

/-- What holds no separator stays with the last part. -/
theorem splitOn_append {separator : Char} {tail : Text} (whole : separator ∉ tail) (s : Text) :
    ∃ front last, Text.splitOn separator s = front ++ [last] ∧
      Text.splitOn separator (s ++ tail) = front ++ [last ++ tail] := by
  obtain ⟨front, last, parts⟩ : ∃ front last, Text.splitOn separator s = front ++ [last] :=
    ⟨_, _, (List.dropLast_concat_getLast (splitOn_ne_nil separator s)).symm⟩
  have pieces (part : Text) (member : part ∈ front ++ [last]) : separator ∉ part :=
    not_mem_of_mem_splitOn (parts ▸ member)
  refine ⟨front, last, parts, ?_⟩
  rw [← join_splitOn separator s, parts, ← join_concat_append]
  refine splitOn_join (by simp) fun part member => ?_
  rcases List.mem_append.mp member with earlier | final
  · exact pieces part (List.mem_append_left _ earlier)
  · rw [List.mem_singleton.mp final]
    exact List.not_mem_append (pieces last (by simp)) whole

/-- A text is cut in one way at the first place of a character. -/
theorem append_inj_of_not_mem {front back front' back' : Text} (first : c ∉ front)
    (second : c ∉ front') (same : front ++ c :: back = front' ++ c :: back') :
    front = front' ∧ back = back' := by
  have cut := cut?_append_cons first back
  rw [same, cut?_append_cons second back'] at cut
  simpa [eq_comm] using cut

end Text

/-! ## Links -/

namespace Link

variable {c : Char} {s path stem anchor target : Text}

/-- A link without a number sign has no anchor. -/
theorem splitAnchor_of_not_mem (absent : '#' ∉ path) : splitAnchor path = (path, none) := by
  rw [splitAnchor, Text.cut?_of_not_mem absent]

/-- The anchor of a link begins at its first number sign. -/
theorem splitAnchor_append_cons (absent : '#' ∉ path) (anchor : Text) :
    splitAnchor (path ++ '#' :: anchor) = (path, some anchor) := by
  rw [splitAnchor, Text.cut?_append_cons absent]

/-- A link splits into a path without number signs and an anchor, in one way. -/
theorem splitAnchor_eq_some_iff {link : Text} :
    splitAnchor link = (path, some anchor) ↔ '#' ∉ path ∧ link = path ++ '#' :: anchor := by
  constructor
  · intro parts
    by_cases held : '#' ∈ link
    · obtain ⟨front, back, rfl, absent⟩ := List.eq_append_cons_of_mem held
      rw [splitAnchor_append_cons absent] at parts
      cases parts
      exact ⟨absent, rfl⟩
    · rw [splitAnchor_of_not_mem held] at parts
      cases parts
  · rintro ⟨absent, rfl⟩
    exact splitAnchor_append_cons absent anchor

/-- A link is a path, or a path with an anchor behind it. -/
theorem splitAnchor_cases (link : Text) :
    '#' ∉ link ∨ ∃ path anchor, '#' ∉ path ∧ link = path ++ '#' :: anchor := by
  by_cases held : '#' ∈ link
  · obtain ⟨path, anchor, whole, absent⟩ := List.eq_append_cons_of_mem held
    exact .inr ⟨path, anchor, absent, whole⟩
  · exact .inl held

/-- A document is a path without the extension, the extension, and perhaps an anchor. -/
theorem document_cases (ends : (splitAnchor target).1.endsWith ".md".toList = true) :
    ∃ stem, '#' ∉ stem ∧ (target = stem ++ ".md".toList ∨
      ∃ anchor, target = stem ++ ".md".toList ++ '#' :: anchor) := by
  rcases splitAnchor_cases target with absent | ⟨path, anchor, absent, rfl⟩
  · rw [splitAnchor_of_not_mem absent] at ends
    obtain ⟨stem, rfl⟩ := List.isSuffixOf_iff_suffix.mp ends
    exact ⟨stem, fun held => absent (List.mem_append_left _ held), .inl rfl⟩
  · rw [splitAnchor_append_cons absent] at ends
    obtain ⟨stem, rfl⟩ := List.isSuffixOf_iff_suffix.mp ends
    exact ⟨stem, fun held => absent (List.mem_append_left _ held), .inr ⟨anchor, rfl⟩⟩

/-- The path to the page of a document, whose own path is given without the extension. -/
def pagePath (stem : Text) : Text :=
  Text.join ['/'] (publishSegments (stem.splitOn '/'))

/-- A document is published as its page. -/
theorem publish_document (absent : '#' ∉ stem) :
    publish (stem ++ ".md".toList) = pagePath stem := by
  have path : '#' ∉ stem ++ ".md".toList := List.not_mem_append absent (by decide)
  rw [publish, splitAnchor_of_not_mem path]
  dsimp only
  rw [Text.dropEnd?_append]
  rfl

/-- A document with an anchor is published as its page with that anchor. -/
theorem publish_document_anchor (absent : '#' ∉ stem) (anchor : Text) :
    publish (stem ++ ".md".toList ++ '#' :: anchor) =
      pagePath stem ++ '#' :: Anchor.ofText anchor := by
  have path : '#' ∉ stem ++ ".md".toList := List.not_mem_append absent (by decide)
  rw [publish, splitAnchor_append_cons path]
  dsimp only
  rw [Text.dropEnd?_append]
  rfl

/-! ## Paths of pages -/

/-- What the path of a page ends with. -/
inductive PageEnd : Text → Prop
  | nothing : PageEnd []
  | slash (front : Text) : PageEnd (front ++ ['/'])
  | dot (front : Text) : PageEnd (front ++ ['.'])
  | extension (front : Text) : PageEnd (front ++ ".html".toList)

namespace PageEnd

/-- The path of a page ends in a slash, a full stop or an extension. -/
theorem getLast?_ne (ends : PageEnd s) (other : c ≠ '/' ∧ c ≠ '.' ∧ c ≠ 'l') :
    s.getLast? ≠ some c := by
  obtain ⟨slash, dot, letter⟩ := other
  cases ends with
  | nothing => simp
  | slash front => simpa using slash.symm
  | dot front => simpa using dot.symm
  | extension front => simpa using letter.symm

/-- The path of a page does not end like a document. -/
theorem not_suffix (ends : PageEnd s) : ¬ ".md".toList <:+ s := by
  rintro ⟨front, rfl⟩
  exact ends.getLast?_ne (c := 'd') (by decide) (by simp)

/-- A page's path read as a destination ends like a page's path. -/
theorem reading (ends : PageEnd s) : PageEnd (Link.reading s) := by
  cases ends with
  | nothing =>
    rw [reading_nil]
    exact .nothing
  | slash front =>
    rw [reading_concat (by decide)]
    exact .slash _
  | dot front =>
    rw [reading_concat (by decide)]
    exact .dot _
  | extension front =>
    have written : Link.reading "html".toList = "html".toList :=
      reading_eq_self (by decide) (by decide)
    rw [show front ++ ".html".toList = front ++ '.' :: "html".toList from rfl,
      reading_append_cons (by decide), written]
    exact .extension _

end PageEnd

/-- What a path is published as ends like the path of a page. -/
theorem pageEnd_pagePath (stem : Text) : PageEnd (pagePath stem) := by
  obtain ⟨front, last, parts, -⟩ := Text.splitOn_append (List.not_mem_nil (a := '/')) stem
  rw [pagePath, parts, publishSegments_append]
  generalize front.map _ = names
  by_cases nameless : isNameless last = true
  · rw [if_pos nameless]
    rcases eq_of_isNameless nameless with rfl | rfl | rfl
    · cases names with
      | nil => exact .nothing
      | cons name names =>
        rw [Text.join_concat (List.cons_ne_nil name names), List.append_nil]
        exact .slash _
    · exact Text.join_concat_append ['/'] names [] ['.'] ▸ .dot _
    · exact Text.join_concat_append ['/'] names ['.'] ['.'] ▸ .dot _
  · rw [if_neg nameless, Text.join_concat_append]
    exact .extension _

/-- Publishing a path brings no low character about, but hyphens and full stops. -/
theorem count_publishSegments_le (low : c.toNat < 0x61) (nonzero : c.toNat ≠ 0)
    (other : c ∉ "-.".toList) (segments : List Text) :
    ((publishSegments segments).map (List.count c)).sum ≤ (segments.map (List.count c)).sum := by
  have hyphen : c ≠ '-' := fun same => other (same ▸ List.mem_cons_self)
  have named (segment : Text) := Name.count_publish_le low nonzero hyphen segment
  have extension : ".html".toList.count c = 0 := by
    refine List.count_eq_zero.mpr ?_
    have small : ("html".toList.all fun d => decide (0x61 ≤ d.toNat)) = true := by decide
    rintro (_ | ⟨_, held⟩)
    · exact other (by decide)
    · exact absurd low (Nat.not_lt.mpr (of_decide_eq_true (List.all_eq_true.mp small c held)))
  fun_induction publishSegments segments with
  | case1 => exact Nat.le_refl 0
  | case2 last =>
    simp only [List.map_cons, List.map_nil, List.sum_cons, List.sum_nil, Nat.add_zero]
    split
    · exact Nat.le_refl _
    · rw [List.count_append, extension]
      exact named last
  | case3 segment rest more ih =>
    simp only [List.map_cons, List.sum_cons]
    refine Nat.add_le_add ?_ ih
    split
    · exact Nat.le_refl _
    · exact named segment

/-- The path of a page holds no more of a character than the document's, hyphens, letters,
slashes and dots apart. -/
theorem count_pagePath_le (low : c.toNat < 0x61) (nonzero : c.toNat ≠ 0)
    (other : c ∉ "-.".toList) (slash : c ≠ '/') (stem : Text) :
    (pagePath stem).count c ≤ stem.count c := by
  have separator : c ∉ ['/'] := fun held => slash (List.mem_singleton.mp held)
  calc (pagePath stem).count c
    _ = (publishSegments (stem.splitOn '/')).flatten.count c := Text.count_join separator _
    _ = ((publishSegments (stem.splitOn '/')).map (List.count c)).sum := List.count_flatten
    _ ≤ ((stem.splitOn '/').map (List.count c)).sum := count_publishSegments_le low nonzero other _
    _ = (stem.splitOn '/').flatten.count c := List.count_flatten.symm
    _ = (Text.join ['/'] (stem.splitOn '/')).count c := (Text.count_join separator _).symm
    _ = stem.count c := by rw [Text.join_splitOn]

/-- Publishing a path brings no number sign about. -/
theorem not_sign_pagePath (absent : '#' ∉ stem) : '#' ∉ pagePath stem := by
  have counts := count_pagePath_le (c := '#') (by decide) (by decide) (by decide) (by decide) stem
  rw [List.count_eq_zero.mpr absent] at counts
  exact List.count_eq_zero.mp (Nat.le_zero.mp counts)

/-- The path of a page holds no ampersand. -/
theorem not_ampersand_pagePath (stem : Text) : '&' ∉ pagePath stem :=
  Text.not_mem_join (by decide) (forall_mem_publishSegments (by decide) Name.not_ampersand_publish
    (fun name => List.not_mem_append (Name.not_ampersand_publish name) (by decide)) _)

end Link

end Scriptorium
