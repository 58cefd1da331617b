import Scriptorium.Proofs.Text.Lines
/-! # Words, trimmed texts and parts

What is found in a text by its blank characters and by a separator, told without the search. A
text has the words that stand in it with blank characters between them (`Text.Worded`), it is
trimmed to a text that has none at its ends (`Text.IsTrimmed`), and it has the parts around a
separator, the first of which ends where the separator occurs first (`Text.PartsAround`). Each
of these leaves one answer, and it is the one that is computed (`Text.worded_iff`,
`Text.isTrimmed_iff`, `Text.partsAround_iff`).
-/

namespace Scriptorium.Text

variable {s rest gap word trimmed part separator : Text} {words parts : List Text} {c : Char}

/-! ## Words -/

/-- A text is some words, with blank characters around them and between each two. -/
inductive Worded : Text → List Text → Prop
  | blank {gap : Text} : (∀ c ∈ gap, isBlank c = true) → Worded gap []
  | word {gap word rest : Text} {words : List Text} :
      (∀ c ∈ gap, isBlank c = true) → word ≠ [] → (∀ c ∈ word, isBlank c = false) →
      (∀ c ∈ rest.head?, isBlank c = true) → Worded rest words →
      Worded (gap ++ (word ++ rest)) (word :: words)

/-- Blank characters in front of a text add no word. -/
theorem words_append_of_blank (blank : ∀ c ∈ gap, isBlank c = true) (s : Text) :
    (gap ++ s).words = s.words := by
  induction gap with
  | nil => rfl
  | cons c gap ih =>
    obtain ⟨here, later⟩ := List.forall_mem_cons.mp blank
    rw [← ih later, List.cons_append, Text.words, splitWhere, if_pos here]
    rfl

/-- A word is read up to the blank character behind it. -/
theorem words_append_of_solid (nonempty : word ≠ []) (solid : ∀ c ∈ word, isBlank c = false)
    (apart : ∀ c ∈ rest.head?, isBlank c = true) : (word ++ rest).words = word :: rest.words := by
  have filled : (!word.isEmpty) = true := by simpa using nonempty
  rw [Text.words, Text.words, splitWhere_eq, splitWhere_eq, splitOnP_append_of_none solid]
  cases rest with
  | nil => simp [filled]
  | cons c rest =>
    rw [List.splitOnP_cons_eq_if_modifyHead, if_pos (apart c rfl), List.modifyHead_cons,
      List.append_nil]
    simp [nonempty]

/-- A text has the words that are read off it. -/
theorem worded_words (s : Text) : Worded s s.words := by
  induction size : s.length using Nat.strongRecOn generalizing s with
  | _ size ih =>
    subst size
    have blank : ∀ c ∈ s.takeWhile isBlank, isBlank c = true :=
      List.all_eq_true.mp List.all_takeWhile
    have whole : s.takeWhile isBlank ++ s.trimStart = s := List.takeWhile_append_dropWhile
    cases front : s.trimStart with
    | nil =>
      rw [front, List.append_nil] at whole
      rw [whole] at blank
      have none := words_append_of_blank blank []
      rw [List.append_nil] at none
      rw [none]
      exact .blank blank
    | cons d tail =>
      have start : d ∈ (s.dropWhile isBlank).head? := by
        rw [← trimStart, front]
        rfl
      have first : isBlank d = false := eq_false_of_mem_head?_dropWhile start
      have parts : d :: tail.takeWhile (!isBlank ·) ++ tail.dropWhile (!isBlank ·) = d :: tail :=
        congrArg (d :: ·) List.takeWhile_append_dropWhile
      have solid : ∀ c ∈ d :: tail.takeWhile (!isBlank ·), isBlank c = false :=
        List.forall_mem_cons.mpr ⟨first, fun c member => by
          simpa using List.all_eq_true.mp List.all_takeWhile c member⟩
      have apart : ∀ c ∈ (tail.dropWhile (!isBlank ·)).head?, isBlank c = true :=
        fun c start => by simpa using eq_false_of_mem_head?_dropWhile start
      have shorter : (tail.dropWhile (!isBlank ·)).length < s.length := by
        have less := List.length_dropWhile_le (!isBlank ·) tail
        rw [← whole, front, List.length_append, List.length_cons]
        omega
      rw [front, ← parts] at whole
      rw [← whole, words_append_of_blank blank,
        words_append_of_solid (List.cons_ne_nil d _) solid apart]
      exact .word blank (List.cons_ne_nil d _) solid apart (ih _ shorter _ rfl)

/-- **The words of a text** are those that are read off it, and no others. -/
theorem worded_iff : Worded s words ↔ words = s.words := by
  constructor
  · intro worded
    induction worded with
    | blank blank =>
      have none := words_append_of_blank blank []
      rw [List.append_nil] at none
      exact none.symm
    | word blank nonempty solid apart _ ih =>
      rw [words_append_of_blank blank, words_append_of_solid nonempty solid apart, ih]
  · rintro rfl
    exact worded_words s

/-! ## Trimmed texts -/

/-- A text without the blank characters at its ends. -/
structure IsTrimmed (s trimmed : Text) : Prop where
  around : ∃ front behind, s = front ++ (trimmed ++ behind) ∧
    (∀ c ∈ front, isBlank c = true) ∧ ∀ c ∈ behind, isBlank c = true
  first : ∀ c ∈ trimmed.head?, isBlank c = false
  last : ∀ c ∈ trimmed.getLast?, isBlank c = false

/-- **A text is trimmed to one text**, that without the blank characters at its ends. -/
theorem isTrimmed_iff : IsTrimmed s trimmed ↔ trimmed = s.trim := by
  constructor
  · rintro ⟨⟨front, behind, rfl, leading, trailing⟩, first, last⟩
    have opened : (front ++ (trimmed ++ behind)).trim = (trimmed ++ behind).trim := by
      rw [trim, trim, stripWhere, stripWhere, List.dropWhile_append_of_pos leading]
    rw [opened, trim_append_of_isAllBlank (isAllBlank_iff.mpr trailing), trim,
      stripWhere_eq_self first last]
  · rintro rfl
    obtain ⟨behind, whole, trailing⟩ := s.trimStart.exists_trimEnd_append
    refine ⟨⟨s.takeWhile isBlank, behind, ?_, List.all_eq_true.mp List.all_takeWhile, trailing⟩,
      s.head?_stripWhere isBlank, s.trimStart.getLast?_trimEnd⟩
    exact List.takeWhile_append_dropWhile.symm.trans (congrArg _ whole)

/-! ## Parts around a separator -/

/-- The parts of a text around a separator, of which the first occurrence counts each time: it
occurs in no text that ends before the first one does. -/
inductive PartsAround (separator : Text) : Text → List Text → Prop
  | last {s : Text} : ¬ separator <:+: s → PartsAround separator s [s]
  | cut {part rest : Text} {parts : List Text} :
      ¬ separator <:+: part ++ separator.dropLast → PartsAround separator rest parts →
      PartsAround separator (part ++ (separator ++ rest)) (part :: parts)

private theorem append_dropLast_prefix_append (part separator rest : Text) :
    part ++ separator.dropLast <+: part ++ (separator ++ rest) :=
  (List.prefix_append_right_inj part).mpr
    ((List.dropLast_prefix separator).trans (List.prefix_append separator rest))

/-- A text is split at the first occurrence of a separator. -/
theorem splitAround_append (nonempty : separator ≠ [])
    (first : ¬ separator <:+: part ++ separator.dropLast) (rest : Text) :
    splitAround separator (part ++ (separator ++ rest)) = part :: splitAround separator rest := by
  induction part with
  | nil =>
    obtain ⟨l, lead, rfl⟩ := List.exists_cons_of_ne_nil nonempty
    have start : dropStart? (l :: lead) (l :: (lead ++ rest)) = some rest :=
      dropStart?_eq_some_iff.mpr rfl
    rw [List.nil_append, List.cons_append, splitAround, start]
    dsimp only
    rw [if_pos (by rw [List.length_append]; omega)]
  | cons c part ih =>
    have later : ¬ separator <:+: part ++ separator.dropLast := fun within =>
      first (within.trans (List.suffix_cons c _).isInfix)
    have absent : ¬ separator <+: c :: (part ++ (separator ++ rest)) := by
      intro start
      have front := append_dropLast_prefix_append (c :: part) separator rest
      refine first (List.prefix_of_prefix_length_le start front ?_).isInfix
      rw [List.length_append, List.length_dropLast, List.length_cons]
      omega
    rw [List.cons_append, splitAround, dropStart?_eq_none_iff.mpr absent, ih later]

/-- A text without the separator is not split. -/
theorem splitAround_of_absent (absent : ¬ separator <:+: s) :
    splitAround separator s = [s] := by
  induction s with
  | nil => rw [splitAround]
  | cons c s ih =>
    rw [List.infix_cons_iff, not_or] at absent
    rw [splitAround, dropStart?_eq_none_iff.mpr absent.1, ih absent.2]

/-- A character that the separator does not begin with goes with the first part. -/
theorem PartsAround.cons (around : PartsAround separator s (part :: parts))
    (absent : ¬ separator <+: c :: s) : PartsAround separator (c :: s) ((c :: part) :: parts) := by
  cases around with
  | last none => exact .last fun within => (List.infix_cons_iff.mp within).elim absent none
  | @cut _ rest _ first later =>
    refine @PartsAround.cut separator (c :: part) rest _ (fun within => ?_) later
    rcases List.infix_cons_iff.mp within with start | inside
    · exact absent (start.trans (append_dropLast_prefix_append (c :: part) separator rest))
    · exact first inside

/-- A text has the parts that it is split into. -/
theorem partsAround_splitAround (nonempty : separator ≠ []) (s : Text) :
    PartsAround separator s (splitAround separator s) := by
  have short : ¬ separator <:+: [] ++ separator.dropLast := by
    intro within
    have bound := within.length_le
    have filled := List.length_pos_iff.mpr nonempty
    rw [List.nil_append, List.length_dropLast] at bound
    omega
  induction size : s.length using Nat.strongRecOn generalizing s with
  | _ size ih =>
    subst size
    cases s with
    | nil =>
      rw [splitAround]
      exact .last fun within => nonempty (List.infix_nil.mp within)
    | cons c s =>
      cases read : dropStart? separator (c :: s) with
      | some rest =>
        have whole := dropStart?_eq_some_iff.mp read
        have shorter : rest.length < (c :: s).length := by
          rw [whole, List.length_append]
          have filled := List.length_pos_iff.mpr nonempty
          omega
        have split := splitAround_append nonempty short rest
        rw [List.nil_append] at split
        rw [whole, split]
        exact @PartsAround.cut separator [] rest _ short (ih _ shorter _ rfl)
      | none =>
        have absent : ¬ separator <+: c :: s := dropStart?_eq_none_iff.mp read
        have later := ih s.length (Nat.lt_succ_self _) s rfl
        rw [splitAround, read]
        cases parts : splitAround separator s with
        | nil =>
          rw [parts] at later
          cases later
        | cons part parts' =>
          rw [parts] at later
          exact later.cons absent

/-- **The parts around a separator** are those that a text is split into, and no others. -/
theorem partsAround_iff (nonempty : separator ≠ []) :
    PartsAround separator s parts ↔ parts = splitAround separator s := by
  constructor
  · intro around
    induction around with
    | last absent => exact (splitAround_of_absent absent).symm
    | cut first _ ih => rw [splitAround_append nonempty first, ih]
  · rintro rfl
    exact partsAround_splitAround nonempty s

end Scriptorium.Text
