import Scriptorium.Proofs.Link.Document
import Scriptorium.Proofs.Text.Lines
import Scriptorium.Proofs.Text.SmallLetter
/-! # Published names are published already

A published name is tidy (`Name.tidy_publish`): it has no blank characters and dots, no
hyphen at an end or beside another one, and no ordinal number in front. Publishing leaves
such a name alone when it holds no ampersand and is in lower case, also with dots around it
(`Name.publish_eq`). So a published name is its own published form
(`Name.publish_publish`), and that of the file which shows it with a dot in front
(`Name.publish_dot_publish`). The tidy names of that kind are all the published names
(`Name.exists_publish_eq_iff`).
-/

namespace Scriptorium

namespace Text

variable {p : Char → Bool} {mark c : Char} {s : Text}

/-- What is left of a run is its mark. -/
theorem eq_of_mem_squeeze (member : c ∈ s.squeeze p mark) : p c = false ∨ c = mark := by
  fun_induction squeeze p mark s with
  | case1 => exact absurd member List.not_mem_nil
  | case2 d s found again ih => exact ih member
  | case3 d s found single ih =>
    rcases List.mem_cons.mp member with same | later
    · exact .inr same
    · exact ih later
  | case4 d s absent ih =>
    rcases List.mem_cons.mp member with rfl | later
    · exact .inl (Bool.eq_false_iff.mpr absent)
    · exact ih later

end Text

namespace Name

/-! ## Ordinal numbers -/

/-- A name with an ordinal number in front. -/
inductive HasOrdinal : Text → Prop
  | last {d : Char} {s : Text} : isDecimalDigit d = true → HasOrdinal (d :: '-' :: s)
  | digit {d : Char} {s : Text} : isDecimalDigit d = true → HasOrdinal s → HasOrdinal (d :: s)

variable {name s t : Text}

/-- An ordinal can be dropped. -/
theorem HasOrdinal.dropOrdinal?_ne_none (ordinal : HasOrdinal name) : dropOrdinal? name ≠ none := by
  have digits : ∀ {s}, HasOrdinal s → ∃ rest, s.dropWhile isDecimalDigit = '-' :: rest := by
    intro s ordinal
    induction ordinal with
    | @last d s digit =>
      refine ⟨s, ?_⟩
      rw [List.dropWhile_cons_of_pos digit]
      exact List.dropWhile_cons_of_neg (by decide)
    | digit digit _ ih =>
      rw [List.dropWhile_cons_of_pos digit]
      exact ih
  have first : name.head?.any isDecimalDigit = true := by cases ordinal <;> assumption
  obtain ⟨rest, behind⟩ := digits ordinal
  rw [dropOrdinal?, behind]
  dsimp only
  rw [first]
  exact Option.some_ne_none _

/-- Only an ordinal can be dropped. -/
theorem hasOrdinal_of_dropOrdinal? {rest : Text} (found : dropOrdinal? name = some rest) :
    HasOrdinal name := by
  unfold dropOrdinal? at found
  split at found
  · cases found
  · rename_i c behind digits
    split at found
    · rename_i sign
      simp only [Bool.and_eq_true, isHyphen, beq_iff_eq] at sign
      obtain ⟨first, rfl⟩ := sign
      clear found
      induction name with
      | nil => cases first
      | cons d name ih =>
        have digit : isDecimalDigit d = true := first
        rw [List.dropWhile_cons_of_pos digit] at digits
        by_cases more : name.head?.any isDecimalDigit = true
        · exact .digit digit (ih more digits)
        · have same : name = '-' :: behind := by
            cases name with
            | nil => cases digits
            | cons e name =>
              rwa [List.dropWhile_cons_of_neg (by simpa using more)] at digits
          rw [same]
          exact .last digit
    · cases found

private theorem not_hasOrdinal_dropOrdinals (name : Text) : ¬ HasOrdinal (dropOrdinals name) := by
  fun_induction dropOrdinals name with
  | case1 name none => exact fun ordinal => ordinal.dropOrdinal?_ne_none none
  | case2 name rest found shorter ih => exact ih

private theorem dropOrdinals_eq_self (plain : ¬ HasOrdinal name) : dropOrdinals name = name := by
  fun_cases dropOrdinals name with
  | case1 none => rfl
  | case2 rest found => exact absurd (hasOrdinal_of_dropOrdinal? found) plain

/-- Behind an ordinal number no hyphen is left. -/
theorem head?_dropOrdinals (other : ∀ c ∈ name.head?, isHyphen c = false) :
    ∀ c ∈ (dropOrdinals name).head?, isHyphen c = false := by
  fun_induction dropOrdinals name with
  | case1 name none => exact other
  | case2 name rest found shorter ih =>
    apply ih
    unfold dropOrdinal? at found
    split at found
    · cases found
    · split at found
      · cases found
        exact fun c first => eq_false_of_mem_head?_dropWhile first
      · cases found

/-! ## Tidy names -/

/-- A name as publishing leaves it, its letters apart. -/
structure Tidy (name : Text) : Prop where
  no_lead : name.head? ≠ some '-'
  no_trail : name.getLast? ≠ some '-'
  no_run : ¬ ['-', '-'] <:+: name
  no_ordinal : ¬ HasOrdinal name
  solid : ∀ c ∈ name, isBlank c = false

private theorem forall_isHyphen_iff {tip : Option Char} :
    (∀ c ∈ tip, isHyphen c = false) ↔ tip ≠ some '-' := by
  cases tip <;> simp [isHyphen]

private theorem not_isSmall_hyphen : ¬ IsSmall '-' :=
  fun small => small.no_sign ⟨by decide, by decide⟩

/-- A spelling that starts with an ordinal is that of a text that does. -/
theorem hasOrdinal_of_spelled (ordinal : HasOrdinal t) (spelled : Text.Spelled s t) :
    HasOrdinal s := by
  have number {d : Char} (digit : isDecimalDigit d = true) : ¬ IsSmall d := by
    intro small
    rw [small.no_digit] at digit
    cases digit
  induction ordinal generalizing s with
  | last digit =>
    obtain ⟨back, rfl, behind⟩ := spelled.of_cons (number digit)
    obtain ⟨back, rfl, -⟩ := behind.of_cons not_isSmall_hyphen
    exact .last digit
  | digit digit _ ih =>
    obtain ⟨back, rfl, behind⟩ := spelled.of_cons (number digit)
    exact .digit digit (ih behind)

/-- A name stays tidy where characters of it are spelled in small letters. -/
theorem Tidy.spelled (tidy : Tidy s) (spelled : Text.Spelled s t) : Tidy t where
  no_lead lead := by
    obtain ⟨rest, rfl⟩ := List.head?_eq_some_iff.mp lead
    obtain ⟨back, rfl, -⟩ := spelled.of_cons not_isSmall_hyphen
    exact tidy.no_lead rfl
  no_trail trail := by
    obtain ⟨front, rfl⟩ := List.getLast?_eq_some_iff.mp trail
    obtain ⟨front', back, rfl, -, behind⟩ := spelled.of_append_cons _ not_isSmall_hyphen
    rw [behind.eq_nil] at tidy
    exact tidy.no_trail List.getLast?_concat
  no_run := by
    rintro ⟨front, back, rfl⟩
    rw [List.append_assoc] at spelled
    obtain ⟨front', back', rfl, -, behind⟩ := spelled.of_append_cons _ not_isSmall_hyphen
    obtain ⟨back', rfl, -⟩ := behind.of_cons not_isSmall_hyphen
    refine tidy.no_run ⟨front', back', ?_⟩
    rw [List.append_assoc]
    rfl
  no_ordinal := fun ordinal => tidy.no_ordinal (hasOrdinal_of_spelled ordinal spelled)
  solid := by
    intro c member
    by_cases small : IsSmall c
    · exact small.solid
    · exact tidy.solid c (spelled.mem member small)

/-- A tidy name has no hyphen at its ends. -/
theorem Tidy.stripWhere (tidy : Tidy name) : name.stripWhere isHyphen = name :=
  Text.stripWhere_eq_self (forall_isHyphen_iff.mpr tidy.no_lead)
    (forall_isHyphen_iff.mpr tidy.no_trail)

/-- A tidy name has no two hyphens in a row. -/
theorem Tidy.squeeze (tidy : Tidy name) : name.squeeze isHyphen '-' = name :=
  Anchor.squeeze_eq_self_iff.mpr tidy.no_run

/-- Without its ordinal numbers a squeezed name is tidy. -/
theorem tidy_dropOrdinals (name : Text) : Tidy (dropOrdinals
    (((name.squeeze isBlank '-').squeeze isHyphen '-').stripWhere isHyphen)) := by
  generalize squeezed : ((name.squeeze isBlank '-').squeeze isHyphen '-') = s
  have inside : s.stripWhere isHyphen <:+: s := Text.infix_stripWhere isHyphen s
  have behind : dropOrdinals (s.stripWhere isHyphen) <:+ s.stripWhere isHyphen :=
    dropOrdinals_suffix _
  refine ⟨?_, fun trail => ?_, fun run => ?_, not_hasOrdinal_dropOrdinals _, ?_⟩
  · exact forall_isHyphen_iff.mp (head?_dropOrdinals (s.head?_stripWhere isHyphen))
  · refine forall_isHyphen_iff.mp (s.getLast?_stripWhere isHyphen) ?_
    obtain ⟨front, whole⟩ := behind
    rw [← whole, List.getLast?_append, trail]
    rfl
  · have single : s.squeeze isHyphen '-' = s := by
      rw [← squeezed]
      exact Text.squeeze_squeeze rfl _
    exact Anchor.squeeze_eq_self_iff.mp single (run.trans (behind.isInfix.trans inside))
  · intro c member
    have held : c ∈ s := inside.subset (behind.subset member)
    by_cases hyphen : c = '-'
    · rw [hyphen]
      rfl
    · rw [← squeezed] at held
      have before := Text.mem_of_mem_squeeze held hyphen
      exact (Text.eq_of_mem_squeeze before).resolve_right hyphen

private theorem isSmall_and : ∀ c ∈ "and".toList, IsSmall c := by
  have letters : IsSmall 'a' ∧ IsSmall 'n' ∧ IsSmall 'd' := by decide
  obtain ⟨first, second, third⟩ := letters
  have spelled : "and".toList = ['a', 'n', 'd'] := rfl
  rw [spelled]
  exact List.forall_mem_cons.mpr
    ⟨first, List.forall_mem_cons.mpr ⟨second, List.forall_mem_singleton.mpr third⟩⟩

/-- **The form of published names.** A published name is the lower case of a tidy name. -/
theorem exists_publish_eq (name : Text) : ∃ s, Tidy s ∧ publish name = s.toLower := by
  unfold publish
  dsimp only
  have tidy := tidy_dropOrdinals (name.trim.filter (· != '.'))
  generalize dropOrdinals _ = unnumbered at tidy ⊢
  have spelled : Tidy (unnumbered.replace ['&'] "and".toList) :=
    tidy.spelled (Text.spelled_replace (List.cons_ne_nil _ _) isSmall_and unnumbered)
  refine ⟨_, spelled, ?_⟩
  rw [spelled.squeeze, spelled.stripWhere]

/-- A published name is tidy. -/
theorem tidy_publish (name : Text) : Tidy (publish name) := by
  obtain ⟨s, tidy, same⟩ := exists_publish_eq name
  rw [same]
  exact tidy.spelled (Text.spelled_toLower s)

private theorem toLower_publish (name : Text) : (publish name).toLower = publish name := by
  obtain ⟨s, -, same⟩ := exists_publish_eq name
  rw [same, Text.toLower_toLower]

/-- A tidy name is published as it is, whatever dots are around it. -/
theorem publish_eq (undotted : name.trim.filter (· != '.') = s) (tidy : Tidy s)
    (plain : '&' ∉ s) (small : s.toLower = s) : publish name = s := by
  unfold publish
  dsimp only
  rw [undotted, Text.squeeze_of_none tidy.solid, tidy.squeeze, tidy.stripWhere,
    dropOrdinals_eq_self tidy.no_ordinal, Text.replace_of_not_mem plain, tidy.squeeze,
    tidy.stripWhere, small]

private theorem trim_eq_self (solid : ∀ c ∈ s, isBlank c = false) : s.trim = s :=
  Text.stripWhere_eq_self (fun c first => solid c (List.mem_of_mem_head? first))
    fun c last => solid c (List.mem_of_getLast? last)

/-! ## Which texts are published names -/

/-- A tidy name without dots and ampersands, in lower case. -/
structure IsPublished (name : Text) : Prop extends Tidy name where
  no_dot : '.' ∉ name
  no_ampersand : '&' ∉ name
  small : name.toLower = name

private theorem isPublished_publish (name : Text) : IsPublished (publish name) where
  toTidy := tidy_publish name
  no_dot := not_dot_publish name
  no_ampersand := not_ampersand_publish name
  small := toLower_publish name

namespace IsPublished

variable (published : IsPublished name)
include published

private theorem filter_dot : name.filter (· != '.') = name := by
  refine List.filter_eq_self.mpr fun c member => bne_iff_ne.mpr ?_
  rintro rfl
  exact published.no_dot member

/-- Publishing leaves alone what has the form of a published name. -/
theorem publish_eq_self : publish name = name := by
  refine publish_eq ?_ published.toTidy published.no_ampersand published.small
  rw [trim_eq_self published.solid, published.filter_dot]

/-- A dot in front of it falls away. -/
theorem publish_dot : publish ('.' :: name) = name := by
  have solid : ∀ c ∈ '.' :: name, isBlank c = false :=
    List.forall_mem_cons.mpr ⟨rfl, published.solid⟩
  refine publish_eq ?_ published.toTidy published.no_ampersand published.small
  rw [trim_eq_self solid]
  exact published.filter_dot

end IsPublished

/-- **A published name is published already.** -/
theorem publish_publish (name : Text) : publish (publish name) = publish name :=
  (isPublished_publish name).publish_eq_self

/-- A dot in front of a published name falls away. -/
theorem publish_dot_publish (name : Text) : publish ('.' :: publish name) = publish name :=
  (isPublished_publish name).publish_dot

/-- **Publishing settles names.** A second time it changes nothing, and the published names
are the texts without dots, blank characters and ampersands, without a hyphen at an end or
two in a row, without an ordinal number in front, and in lower case. -/
theorem exists_publish_eq_iff (name : Text) :
    publish (publish name) = publish name ∧
      ((∃ source, publish source = name) ↔ IsPublished name) := by
  refine ⟨publish_publish name, ?_, fun published => ?_⟩
  · rintro ⟨source, rfl⟩
    exact isPublished_publish source
  · exact ⟨name, published.publish_eq_self⟩

end Name

end Scriptorium
