import Scriptorium.Proofs.Text.Parts
import Scriptorium.Text.Basic
/-! # Cutting and joining

Splitting at a character and joining with it undo each other (`Text.splitOn_join`). An
end that a text was given comes off again (`Text.dropEnd?_append`), and it may be given
to the last of several parts before or after they are joined (`Text.join_concat_append`).
-/

namespace Scriptorium.Text

/-- Splitting a text is splitting a list at the characters of a class. -/
theorem splitWhere_eq (p : Char → Bool) (s : Text) : splitWhere p s = s.splitOnP p := by
  induction s with
  | nil => rfl
  | cons c cs ih =>
    rw [splitWhere, List.splitOnP_cons_eq_if_modifyHead, ih]
    cases parts : cs.splitOnP p with
    | nil => exact absurd parts (List.splitOnP_ne_nil p cs)
    | cons part parts => rfl

/-- Splitting a text at a character is splitting a list there. -/
theorem splitOn_eq (separator : Char) (s : Text) :
    Text.splitOn separator s = List.splitOn separator s := by
  rw [Text.splitOn, splitWhere_eq, List.splitOn_eq_splitOnP]

/-- A text is split into one part at least. -/
theorem splitOn_ne_nil (separator : Char) (s : Text) : Text.splitOn separator s ≠ [] := by
  rw [splitOn_eq]
  exact List.splitOn_ne_nil separator s

/-- Joined parts come apart again where none of them holds the separator. -/
theorem splitOn_join {separator : Char} {parts : List Text} (nonempty : parts ≠ [])
    (whole : ∀ part ∈ parts, separator ∉ part) :
    Text.splitOn separator (join [separator] parts) = parts := by
  rw [splitOn_eq]
  exact List.splitOn_intercalate separator whole nonempty

/-- A text that was split is joined again. -/
theorem join_splitOn (separator : Char) (s : Text) :
    join [separator] (Text.splitOn separator s) = s := by
  rw [splitOn_eq]
  exact List.intercalate_splitOn separator

/-- A text without the separator is its own part. -/
theorem splitOn_of_not_mem {separator : Char} {s : Text} (whole : separator ∉ s) :
    Text.splitOn separator s = [s] := by
  rw [splitOn_eq, List.splitOn_eq_singleton whole]

/-- A text is split at a separator into the parts on its two sides. -/
theorem splitOn_append_cons (separator : Char) (front back : Text) :
    Text.splitOn separator (front ++ separator :: back) =
      Text.splitOn separator front ++ Text.splitOn separator back := by
  simp only [splitOn_eq, List.splitOn_append_cons_self]

/-- A text without the separator goes with the first part behind it. -/
theorem splitOn_append_of_not_mem {separator : Char} {front : Text} (whole : separator ∉ front)
    (behind : Text) : Text.splitOn separator (front ++ behind) =
      (Text.splitOn separator behind).modifyHead (front ++ ·) := by
  simp only [Text.splitOn, splitWhere_eq]
  apply splitOnP_append_of_none
  exact fun c member => beq_eq_false_iff_ne.mpr fun same => whole (same ▸ member)

/-- Parts that each end with the separator come apart again, with an empty one at the end. -/
theorem splitOn_flatMap {separator : Char} {parts : List Text}
    (whole : ∀ part ∈ parts, separator ∉ part) :
    Text.splitOn separator (parts.flatMap (· ++ [separator])) = parts ++ [[]] := by
  induction parts with
  | nil => rfl
  | cons part parts ih =>
    obtain ⟨here, later⟩ := List.forall_mem_cons.mp whole
    rw [List.flatMap_cons, List.append_assoc, List.singleton_append, splitOn_append_cons,
      splitOn_of_not_mem here, ih later]
    rfl

/-- No part of a text that was split holds the separator. -/
theorem not_mem_of_mem_splitOn {separator : Char} {s part : Text}
    (member : part ∈ Text.splitOn separator s) : separator ∉ part := by
  unfold Text.splitOn at member
  induction s generalizing part with
  | nil =>
    simp only [splitWhere, List.mem_singleton] at member
    subst member
    exact List.not_mem_nil
  | cons c cs ih =>
    simp only [splitWhere] at member
    by_cases cut : c = separator
    · simp only [cut, BEq.rfl, ↓reduceIte, List.mem_cons] at member
      rcases member with rfl | later
      · exact List.not_mem_nil
      · exact ih later
    · simp only [beq_iff_eq, cut, ↓reduceIte] at member
      cases parts : splitWhere (· == separator) cs with
      | nil => exact absurd parts (splitOn_ne_nil separator cs)
      | cons first parts' =>
        simp only [parts, List.mem_cons] at member
        rcases member with rfl | later
        · exact List.not_mem_cons_of_ne_of_not_mem (Ne.symm cut) (ih (parts ▸ List.mem_cons_self))
        · exact ih (parts ▸ List.mem_cons_of_mem first later)

/-- Parts are put together one group behind the other. -/
theorem join_append {separator : Text} {front behind : List Text} (first : front ≠ [])
    (second : behind ≠ []) :
    join separator (front ++ behind) =
      join separator front ++ (separator ++ join separator behind) := by
  unfold join
  induction front with
  | nil => exact absurd rfl first
  | cons part front ih =>
    cases front with
    | nil =>
      rw [List.singleton_append, List.intercalate_cons_of_ne_nil second,
        List.intercalate_singleton, List.append_assoc]
    | cons next front =>
      rw [List.cons_append, List.cons_append, List.intercalate_cons_cons, ← List.cons_append,
        ih (List.cons_ne_nil next front), List.intercalate_cons_cons]
      simp only [List.append_assoc]

/-- Each part with the separator behind it makes up the text with one behind it. -/
theorem flatMap_splitOn (separator : Char) (s : Text) :
    (Text.splitOn separator s).flatMap (· ++ [separator]) = s ++ [separator] := by
  rw [← join_splitOn separator ((Text.splitOn separator s).flatMap (· ++ [separator])),
    splitOn_flatMap fun _ => not_mem_of_mem_splitOn, ← join_splitOn separator (s ++ [separator]),
    splitOn_append_cons]
  rfl

/-- An end given to the last part is the end of the whole. -/
theorem join_concat_append (separator : Text) (parts : List Text) (last tail : Text) :
    join separator (parts ++ [last ++ tail]) = join separator (parts ++ [last]) ++ tail := by
  unfold join
  induction parts with
  | nil => simp only [List.nil_append, List.intercalate_singleton]
  | cons part parts ih =>
    rw [List.cons_append, List.cons_append, List.intercalate_cons_of_ne_nil (by simp),
      List.intercalate_cons_of_ne_nil (by simp), ih]
    simp only [List.append_assoc]

/-- What stands neither in the separator nor in a part does not stand in what they make up. -/
theorem not_mem_join {separator : Text} {parts : List Text} {c : Char}
    (between : c ∉ separator) (within : ∀ part ∈ parts, c ∉ part) :
    c ∉ join separator parts := by
  unfold join
  induction parts with
  | nil => exact List.not_mem_nil
  | cons part parts ih =>
    have first := within part List.mem_cons_self
    have later := ih fun part member => within part (List.mem_cons_of_mem _ member)
    cases parts with
    | nil => rwa [List.intercalate_singleton]
    | cons next parts =>
      rw [List.intercalate_cons_cons]
      simp only [List.mem_append, not_or]
      exact ⟨⟨first, between⟩, later⟩

/-- What does not stand in the separator stands in parts put together as often as in these. -/
theorem count_join {separator : Text} {c : Char} (other : c ∉ separator) (parts : List Text) :
    (join separator parts).count c = parts.flatten.count c := by
  unfold join
  induction parts with
  | nil => rfl
  | cons part parts ih =>
    rw [List.flatten_cons, List.count_append, ← ih]
    cases parts with
    | nil => rw [List.intercalate_singleton]; rfl
    | cons next parts =>
      rw [List.intercalate_cons_cons, List.count_append, List.count_append,
        List.count_eq_zero.mpr other, Nat.add_zero]

/-- A part stands in what the parts are put together to. -/
theorem infix_join (separator : Text) {parts : List Text} {part : Text} (member : part ∈ parts) :
    part <:+: join separator parts := by
  unfold join
  induction parts with
  | nil => cases member
  | cons first parts ih =>
    cases parts with
    | nil =>
      rw [List.intercalate_singleton]
      exact List.mem_singleton.mp member ▸ List.infix_rfl
    | cons next parts =>
      rw [List.intercalate_cons_cons]
      rcases List.mem_cons.mp member with rfl | later
      · rw [List.append_assoc]
        exact (List.prefix_append _ _).isInfix
      · exact (ih later).trans (List.suffix_append _ _).isInfix

/-- A part of a text that was split stands in it. -/
theorem infix_of_mem_splitOn {separator : Char} {s part : Text}
    (member : part ∈ Text.splitOn separator s) : part <:+: s := by
  have within := infix_join [separator] member
  rwa [join_splitOn] at within

/-- Nothing is dropped where a text does not start with it. -/
theorem dropStart?_eq_none_iff {lead s : Text} : dropStart? lead s = none ↔ ¬ lead <+: s := by
  simp only [Option.eq_none_iff_forall_ne_some, ne_eq, dropStart?_eq_some_iff]
  exact ⟨fun other ⟨rest, whole⟩ => other rest whole.symm,
    fun other rest whole => other ⟨rest, whole.symm⟩⟩

/-- What stands at the end of a text can be dropped there. -/
theorem dropEnd?_append (s tail : Text) : dropEnd? tail (s ++ tail) = some s := by
  unfold dropEnd?
  rw [List.reverse_append, dropStart?_eq_some_iff.mpr rfl, Option.map_some, List.reverse_reverse]

/-- What is dropped at the end of a text stood there. -/
theorem eq_of_dropEnd?_eq_some {s tail rest : Text} (cut : dropEnd? tail s = some rest) :
    s = rest ++ tail := by
  obtain ⟨reversed, read, rfl⟩ := Option.map_eq_some_iff.mp cut
  rw [← List.reverse_reverse s, dropStart?_eq_some_iff.mp read, List.reverse_append,
    List.reverse_reverse]

/-- A character that a text does not hold cuts nothing off. -/
theorem cut?_of_not_mem {c : Char} {s : Text} (absent : c ∉ s) : cut? [c] s = none := by
  cases cut : cut? [c] s with
  | none => rfl
  | some parts =>
    have whole := eq_of_cut?_eq_some cut
    refine absurd ?_ absent
    rw [whole]
    simp

/-- Nothing occurs before the place that is cut at. -/
theorem not_prefix_of_cut? {needle s before after : Text} (split : s = before ++ after)
    (later : ∀ found ∈ cut? needle s, before.length ≤ found.1.length) :
    ∀ part, part ≠ [] → part <:+ before → ¬ needle <+: part ++ after := by
  induction before generalizing s with
  | nil => exact fun part nonempty suffix => absurd (List.suffix_nil.mp suffix) nonempty
  | cons c before ih =>
    subst split
    rw [List.cons_append] at later
    cases here : dropStart? needle (c :: (before ++ after)) with
    | some rest =>
      rw [cut?, here] at later
      exact absurd (later _ rfl) (Nat.not_succ_le_zero _)
    | none =>
      rw [cut?, here] at later
      intro part nonempty suffix
      rcases List.suffix_cons_iff.mp suffix with rfl | suffix
      · exact dropStart?_eq_none_iff.mp here
      · refine ih rfl (fun found member => ?_) part nonempty suffix
        exact Nat.le_of_succ_le_succ (later _ (Option.mem_map_of_mem _ member))

/-- A text is cut at the first place of a character. -/
theorem cut?_append_cons {c : Char} {path : Text} (absent : c ∉ path) (behind : Text) :
    cut? [c] (path ++ c :: behind) = some (path, behind) := by
  induction path with
  | nil => rw [List.nil_append, cut?, dropStart?, if_pos rfl, dropStart?]
  | cons d path ih =>
    have other : c ≠ d := fun same => absent (same ▸ List.mem_cons_self)
    rw [List.cons_append, cut?, dropStart?, if_neg other, ih (List.not_mem_of_not_mem_cons absent),
      Option.map_some]

/-- Dropping stops at a character that is not to be dropped. -/
theorem dropWhile_append_cons {α : Type} {p : α → Bool} {a : α} (other : p a = false)
    (front back : List α) :
    (front ++ a :: back).dropWhile p = front.dropWhile p ++ a :: back := by
  rw [List.dropWhile_append, List.dropWhile_cons_of_neg (by simp [other])]
  split
  · rename_i none
    rw [List.isEmpty_iff.mp none, List.nil_append]
  · rfl

/-- Taking stops at a character that is not to be taken. -/
theorem takeWhile_append_cons {α : Type} {p : α → Bool} {a : α} (other : p a = false)
    (front back : List α) : (front ++ a :: back).takeWhile p = front.takeWhile p := by
  rw [List.takeWhile_append, List.takeWhile_cons_of_neg (by simp [other]), List.append_nil]
  split
  · rename_i whole
    exact ((List.takeWhile_prefix p).eq_of_length whole).symm
  · rfl

/-- A start that does not hold a character ends in front of it. -/
theorem startsWith_append_cons {lead : Text} {c : Char} (absent : c ∉ lead) (front back : Text) :
    (front ++ c :: back).startsWith lead = front.startsWith lead := by
  unfold startsWith
  induction front generalizing lead with
  | nil =>
    cases lead with
    | nil => rfl
    | cons l lead =>
      have other : l ≠ c := fun same => absent (same ▸ List.mem_cons_self)
      simp [List.isPrefixOf, other]
  | cons d front ih =>
    cases lead with
    | nil => rfl
    | cons l lead =>
      rw [List.cons_append, List.isPrefixOf, List.isPrefixOf,
        ih (List.not_mem_of_not_mem_cons absent)]

/-- What does not hold a character does not reach across it. -/
theorem prefix_append_cons_iff {lead : Text} {c : Char} (absent : c ∉ lead) (front back : Text) :
    lead <+: front ++ c :: back ↔ lead <+: front := by
  rw [← List.isPrefixOf_iff_prefix, ← List.isPrefixOf_iff_prefix]
  exact Bool.eq_iff_iff.mp (startsWith_append_cons absent front back)

/-- A character of two texts put together stands in the one or in the other. -/
theorem cases_of_append_eq_append_cons {s behind front rest : Text} {c : Char}
    (same : s ++ behind = front ++ c :: rest) :
    (∃ rest', s = front ++ c :: rest' ∧ rest = rest' ++ behind) ∨
      ∃ front', front = s ++ front' ∧ behind = front' ++ c :: rest := by
  rcases List.append_eq_append_iff.mp same with later | ⟨later, rfl, across⟩
  · exact .inr later
  · cases later with
    | nil => exact .inr ⟨[], by rw [List.append_nil, List.append_nil], across.symm⟩
    | cons d later =>
      obtain ⟨rfl, tail⟩ := List.cons_eq_cons.mp across
      exact .inl ⟨later, rfl, tail⟩

/-- A text in front of a character that another one does not hold goes on behind it. -/
theorem exists_append_of_not_mem {part rest front behind : Text} {c : Char} (absent : c ∉ part)
    (same : part ++ rest = front ++ c :: behind) :
    ∃ front', front = part ++ front' ∧ rest = front' ++ c :: behind := by
  refine (cases_of_append_eq_append_cons same).resolve_left ?_
  rintro ⟨_, rfl, -⟩
  exact absent (List.mem_append_right front List.mem_cons_self)

/-- A part without a character stands on one side of it. -/
theorem infix_append_cons_iff {part : Text} {c : Char} (absent : c ∉ part) (front behind : Text) :
    part <:+: front ++ c :: behind ↔ part <:+: front ∨ part <:+: behind := by
  constructor
  · rintro ⟨before, after, whole⟩
    rw [List.append_assoc] at whole
    rcases List.append_eq_append_iff.mp whole with ⟨between, rfl, same⟩ | ⟨between, rfl, same⟩
    · obtain ⟨rest, rfl, -⟩ := exists_append_of_not_mem absent same
      exact .inl ⟨before, rest, by rw [List.append_assoc]⟩
    · cases between with
      | nil =>
        cases part with
        | nil => exact .inl List.nil_infix
        | cons d part => exact absurd ((List.cons.inj same).1 ▸ List.mem_cons_self) absent
      | cons d between =>
        rw [List.cons_append] at same
        obtain ⟨-, rfl⟩ := List.cons.inj same
        exact .inr ⟨between, after, by rw [List.append_assoc]⟩
  · rintro (inside | inside)
    · exact inside.trans (List.prefix_append front _).isInfix
    · exact inside.trans ((List.suffix_cons c behind).trans (List.suffix_append front _)).isInfix

/-- What stands behind a character that the end of a text does not hold stands in front of the
end. -/
theorem exists_of_append_eq_append_cons {s behind front rest : Text} {c : Char}
    (absent : c ∉ behind) (same : s ++ behind = front ++ c :: rest) :
    ∃ rest', s = front ++ c :: rest' ∧ rest = rest' ++ behind := by
  refine (cases_of_append_eq_append_cons same).resolve_right ?_
  rintro ⟨front', -, rfl⟩
  exact absent (List.mem_append_right front' List.mem_cons_self)

/-- What occurs in a text is part of it. -/
theorem occursIn_iff {needle s : Text} : occursIn needle s = true ↔ needle <:+: s := by
  unfold occursIn
  induction s with
  | nil => cases needle <;> simp [cut?]
  | cons c s ih =>
    rw [List.infix_cons_iff, ← ih, cut?]
    cases start : dropStart? needle (c :: s) with
    | some rest =>
      exact iff_of_true rfl (.inl ⟨rest, (dropStart?_eq_some_iff.mp start).symm⟩)
    | none => simp [dropStart?_eq_none_iff.mp start]

/-- Two separators in a row leave an empty part between them. -/
theorem nil_mem_splitOn {separator : Char} {s : Text} (run : [separator, separator] <:+: s) :
    [] ∈ Text.splitOn separator s := by
  obtain ⟨front, behind, rfl⟩ := run
  rw [List.append_assoc, List.cons_append, splitOn_append_cons]
  refine List.mem_append_right _ ?_
  change [] ∈ Text.splitOn separator ([] ++ separator :: behind)
  rw [splitOn_append_cons]
  exact List.mem_append_left _ List.mem_cons_self

end Scriptorium.Text
