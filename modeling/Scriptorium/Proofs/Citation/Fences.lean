import Scriptorium.Proofs.Citation.ExtractingAgain
import Scriptorium.Proofs.Fence
/-! # Fenced code in front of extraction

Every fence of a text opens one or closes the one that is open, so the fences and the lines
inside of them are to stay (`Extraction.fencedLines`), and the definitions are to be those of
the text with blank lines in their place (`Extraction.withoutCode`). A fence ends no definition,
however: one that directly follows a definition is taken into its content, and from there on
extraction takes code for prose. That is the only way in which code is lost or read
(`Extraction.keepsCode_iff`).
-/

namespace Scriptorium

namespace Extraction

open Citation (tokenize)
open Line (isFence endsFenced fenceCount)

variable {inFence : Bool} {line fence : Text} {lines front content rest : List Text}

/-- The fences among lines and the lines inside of them, the first of which lies in one or
not. -/
def fencedLines (inFence : Bool) : List Text → List Text
  | [] => []
  | line :: lines =>
    if isFence line.trimStart then line :: fencedLines (!inFence) lines
    else if inFence then line :: fencedLines inFence lines
    else fencedLines inFence lines

/-- Lines with blank ones in place of the fences and the lines inside of them. -/
def withoutCode (inFence : Bool) : List Text → List Text
  | [] => []
  | line :: lines =>
    if isFence line.trimStart then [] :: withoutCode (!inFence) lines
    else if inFence then [] :: withoutCode inFence lines
    else line :: withoutCode inFence lines

/-- A definition outside of fences reaches up to a fence. -/
def TakesFence (inFence : Bool) (lines : List Text) : Prop :=
  ∃ front line content fence rest, lines = front ++ line :: (content ++ fence :: rest) ∧
    endsFenced inFence front = false ∧ (Line.definition? line).isSome = true ∧
    (∀ line ∈ content, continuesDefinition line = true ∧ isFence line.trimStart = false) ∧
    isFence fence.trimStart = true

/-- All fences are among the fenced lines. -/
theorem fenceCount_fencedLines (inFence : Bool) (lines : List Text) :
    fenceCount (fencedLines inFence lines) = fenceCount lines := by
  fun_induction fencedLines inFence lines with
  | case1 => rfl
  | case2 inFence line lines fence ih =>
    rw [Line.fenceCount_cons_of_fence fence, Line.fenceCount_cons_of_fence fence, ih]
  | case3 line lines plain ih =>
    rw [Line.fenceCount_cons_of_plain plain, Line.fenceCount_cons_of_plain plain, ih]
  | case4 inFence line lines plain outside ih => rw [Line.fenceCount_cons_of_plain plain, ih]

/-! ## Definitions and fences -/

private theorem isFence_of_definition? (defined : (Line.definition? line).isSome = true) :
    isFence line.trimStart = false := by
  obtain ⟨id, rest, -, rfl⟩ := Citation.definition?_isSome_iff.mp defined
  rfl

private theorem definition?_of_isFence (fence : isFence line.trimStart = true) :
    Line.definition? line = none := by
  by_contra defined
  rw [isFence_of_definition? (Option.isSome_iff_ne_none.mpr defined)] at fence
  cases fence

private theorem continuesDefinition_of_definition?
    (defined : (Line.definition? line).isSome = true) :
    continuesDefinition line = false := by
  rw [continuesDefinition, endsDefinition, defined, Bool.or_true, Bool.true_or, Bool.true_or,
    Bool.not_true]

/-- **A fence ends no definition.** -/
theorem continuesDefinition_of_isFence (fence : isFence line.trimStart = true) :
    continuesDefinition line = true := by
  have noHeading : (Line.heading? line.trim).isSome = false := by
    have none := Line.headingText?_of_isFence fence
    rw [Line.headingText?, Option.map_eq_none_iff] at none
    rw [none]
    rfl
  have noDefinition : (Line.definition? line).isSome = false := by
    rw [definition?_of_isFence fence]
    rfl
  rw [Line.isFence_trimStart] at fence
  have first := Line.head?_of_isFence fence
  have filled : line.trim.isEmpty = false := by
    rw [List.isEmpty_eq_false_iff]
    intro empty
    rw [empty] at first
    rcases first with first | first <;> cases first
  have noDivider : Line.isDivider line.trim = false := by
    by_contra divider
    rw [Bool.not_eq_false, Line.isDivider, beq_iff_eq] at divider
    obtain ⟨behind, whole⟩ := Text.trimEnd_prefix line.trim
    rw [← whole, divider] at first
    rcases first with first | first <;> cases first
  rw [continuesDefinition, endsDefinition, noHeading, noDefinition, filled, noDivider]
  rfl

/-- A fence is taken below a line exactly when it is taken behind it. -/
theorem takesFence_cons_iff (line : Text) (lines : List Text)
    (other : inFence = true ∨ Line.definition? line = none) :
    TakesFence inFence (line :: lines) ↔ TakesFence (inFence != isFence line.trimStart) lines := by
  constructor
  · rintro ⟨front, definition, content, fence, rest, whole, outside, defined, found⟩
    cases front with
    | nil =>
      cases whole
      rcases other with rfl | undefined
      · cases outside
      · rw [undefined] at defined
        cases defined
    | cons line front =>
      cases whole
      exact ⟨front, definition, content, fence, rest, rfl, outside, defined, found⟩
  · rintro ⟨front, definition, content, fence, rest, rfl, outside, found⟩
    exact ⟨line :: front, definition, content, fence, rest, rfl, outside, found⟩

/-- A definition that takes no fence in continues over lines that are none. -/
theorem plain_of_not_takesFence (free : ¬ TakesFence false (line :: lines))
    (defined : (Line.definition? line).isSome = true) :
    ∀ other ∈ lines.takeWhile continuesDefinition, isFence other.trimStart = false := by
  cases first : (lines.takeWhile continuesDefinition).find? (isFence ·.trimStart) with
  | none =>
    intro other member
    exact Bool.eq_false_iff.mpr (List.find?_eq_none.mp first other member)
  | some fence =>
    obtain ⟨fenced, content, rest, split, plain⟩ := List.find?_eq_some_iff_append.mp first
    refine absurd ⟨[], line, content, fence, rest ++ lines.dropWhile continuesDefinition, ?_, rfl,
      defined, fun other member => ⟨?_, ?_⟩, fenced⟩ free
    · have whole := List.takeWhile_append_dropWhile (p := continuesDefinition) (l := lines)
      rw [split, List.append_assoc, List.cons_append] at whole
      rw [List.nil_append, whole]
    · have inside : other ∈ lines.takeWhile continuesDefinition := by
        rw [split]
        exact List.mem_append_left _ member
      exact List.mem_takeWhile_imp inside
    · simpa using plain other member

/-- Behind the content of a definition without fences, the definitions that take fences in are
those of the text. -/
theorem takesFence_dropWhile_iff (defined : (Line.definition? line).isSome = true)
    (plain : ∀ other ∈ lines.takeWhile continuesDefinition, isFence other.trimStart = false) :
    TakesFence false (lines.dropWhile continuesDefinition) ↔ TakesFence false (line :: lines) := by
  constructor
  · rintro ⟨front, definition, content, fence, rest, split, outside, found⟩
    refine ⟨line :: (lines.takeWhile continuesDefinition ++ front), definition, content, fence,
      rest, ?_, ?_, found⟩
    · rw [List.cons_append, List.append_assoc, ← split, List.takeWhile_append_dropWhile]
    · rw [Line.endsFenced_cons, isFence_of_definition? defined, Line.endsFenced_append,
        Line.endsFenced_of_none plain]
      exact outside
  · rintro ⟨front, definition, content, fence, rest, whole, outside, later, inside, fenced⟩
    cases front with
    | nil =>
      -- The fence is in the content of the definition itself.
      cases whole
      have member : fence ∈ (content ++ fence :: rest).takeWhile continuesDefinition := by
        rw [List.takeWhile_append_of_pos fun other member => (inside other member).1,
          List.takeWhile_cons_of_pos (continuesDefinition_of_isFence fenced)]
        exact List.mem_append_right _ List.mem_cons_self
      rw [plain fence member] at fenced
      cases fenced
    | cons line front =>
      rw [List.cons_append] at whole
      cases whole
      have stop := continuesDefinition_of_definition? later
      rw [Text.takeWhile_append_cons stop] at plain
      refine ⟨front.dropWhile continuesDefinition, definition, content, fence, rest,
        Text.dropWhile_append_cons stop _ _, ?_, later, inside, fenced⟩
      rw [← List.takeWhile_append_dropWhile (p := continuesDefinition) (l := front),
        Line.endsFenced_cons, isFence_of_definition? defined, Line.endsFenced_append,
        Line.endsFenced_of_none plain] at outside
      exact outside

/-- Lines in which no definition takes a fence in. The content of a definition goes up to a line
that ends it. -/
inductive LeavesFences : Bool → List Text → Prop where
  | nil (inFence : Bool) : LeavesFences inFence []
  | fence {inFence : Bool} {line : Text} {lines : List Text}
    (fence : isFence line.trimStart = true) (later : LeavesFences (!inFence) lines) :
    LeavesFences inFence (line :: lines)
  | inside {line : Text} {lines : List Text} (plain : isFence line.trimStart = false)
    (later : LeavesFences true lines) : LeavesFences true (line :: lines)
  | prose {line : Text} {lines : List Text} (plain : isFence line.trimStart = false)
    (undefined : Line.definition? line = none) (later : LeavesFences false lines) :
    LeavesFences false (line :: lines)
  | definition {line : Text} {content rest : List Text}
    (defined : (Line.definition? line).isSome = true)
    (continues : ∀ other ∈ content, continuesDefinition other = true)
    (plain : ∀ other ∈ content, isFence other.trimStart = false)
    (stops : ∀ first ∈ rest.head?, continuesDefinition first = false)
    (later : LeavesFences false rest) : LeavesFences false (line :: (content ++ rest))

/-- Where no definition takes a fence, fences are left as they are. -/
theorem leavesFences (free : ¬ TakesFence inFence lines) : LeavesFences inFence lines := by
  fun_induction items inFence lines with
  | case1 inFence => exact .nil inFence
  | case2 inFence line lines fence ih =>
    rw [takesFence_cons_iff line lines (.inr (definition?_of_isFence fence)), fence,
      Bool.bne_true] at free
    exact .fence fence (ih free)
  | case3 line lines plain ih =>
    rw [Bool.not_eq_true] at plain
    rw [takesFence_cons_iff line lines (.inl rfl), plain, Bool.bne_false] at free
    exact .inside plain (ih free)
  | case4 inFence line lines plain outside undefined ih =>
    rw [Bool.not_eq_true] at plain outside
    subst outside
    rw [takesFence_cons_iff line lines (.inr undefined), plain, Bool.bne_false] at free
    exact .prose plain undefined (ih free)
  | case5 inFence line lines plain outside id first rest found shorter ih =>
    rw [Bool.not_eq_true] at outside
    subst outside
    have defined : (Line.definition? line).isSome = true := Option.isSome_of_mem found
    have content := plain_of_not_takesFence free defined
    rw [← takesFence_dropWhile_iff defined content] at free
    rw [← List.takeWhile_append_dropWhile (p := continuesDefinition) (l := lines)]
    exact .definition defined (fun other member => List.mem_takeWhile_imp member) content
      (fun first start => eq_false_of_mem_head?_dropWhile start) (ih free)

/-! ## Items -/

private theorem items_of_undefined (plain : isFence line.trimStart = false)
    (undefined : Line.definition? line = none) (lines : List Text) :
    items false (line :: lines) = .kept (tokenize line) :: items false lines := by
  rw [items, if_neg (Bool.eq_false_iff.mp plain), if_neg Bool.false_ne_true, undefined]

/-- A definition with its content makes one item, which does not depend on what is behind. -/
theorem exists_items_of_definition (defined : (Line.definition? line).isSome = true)
    (continues : ∀ other ∈ content, continuesDefinition other = true) :
    ∃ id text, ∀ {rest : List Text}, (∀ first ∈ rest.head?, continuesDefinition first = false) →
      items false (line :: (content ++ rest)) = .defined id text :: items false rest := by
  obtain ⟨⟨⟨id, first⟩, _⟩, found⟩ := Option.isSome_iff_exists.mp defined
  refine ⟨id, definitionContent first content, @fun rest stops => ?_⟩
  have ends : rest.takeWhile continuesDefinition = [] ∧
      rest.dropWhile continuesDefinition = rest := by
    cases rest with
    | nil => exact ⟨rfl, rfl⟩
    | cons other others =>
      have here := Bool.eq_false_iff.mp (stops other rfl)
      exact ⟨List.takeWhile_cons_of_neg here, List.dropWhile_cons_of_neg here⟩
  rw [items, if_neg (Bool.eq_false_iff.mp (isFence_of_definition? defined)),
    if_neg Bool.false_ne_true, found]
  dsimp only
  rw [List.takeWhile_append_of_pos continues, List.dropWhile_append_of_pos continues, ends.1,
    ends.2, List.append_nil]

/-- A blank line defines nothing. -/
theorem definitions_items_nil_cons (lines : List Text) :
    definitions (items false ([] :: lines)) = definitions (items false lines) := by
  rw [items_of_undefined rfl rfl]
  rfl

private theorem withoutCode_append (plain : ∀ line ∈ front, isFence line.trimStart = false)
    (rest : List Text) : withoutCode false (front ++ rest) = front ++ withoutCode false rest := by
  induction front with
  | nil => rfl
  | cons line front ih =>
    obtain ⟨here, later⟩ := List.forall_mem_cons.mp plain
    rw [List.cons_append, withoutCode, if_neg (Bool.eq_false_iff.mp here),
      if_neg Bool.false_ne_true, ih later, List.cons_append]

private theorem fencedLines_append (plain : ∀ line ∈ front, isFence line.trimStart = false)
    (rest : List Text) : fencedLines false (front ++ rest) = fencedLines false rest := by
  induction front with
  | nil => rfl
  | cons line front ih =>
    obtain ⟨here, later⟩ := List.forall_mem_cons.mp plain
    rw [List.cons_append, fencedLines, if_neg (Bool.eq_false_iff.mp here),
      if_neg Bool.false_ne_true, ih later]

/-- What ends a definition still does so with blank lines in place of code. -/
theorem continuesDefinition_head?_withoutCode
    (stops : ∀ first ∈ lines.head?, continuesDefinition first = false) :
    ∀ first ∈ (withoutCode false lines).head?, continuesDefinition first = false := by
  cases lines with
  | nil => exact fun _ first => nomatch first
  | cons line lines =>
    have here := stops line rfl
    have plain : ¬ isFence line.trimStart = true := fun fence =>
      Bool.false_ne_true (here.symm.trans (continuesDefinition_of_isFence fence))
    rw [withoutCode, if_neg plain, if_neg Bool.false_ne_true]
    exact stops

/-- **Code is kept** where no definition takes a fence in. -/
theorem LeavesFences.sublist_keptLines (free : LeavesFences inFence lines) :
    (fencedLines inFence lines).Sublist (keptLines (items inFence lines)) := by
  induction free with
  | nil => exact List.nil_sublist _
  | fence fence later ih =>
    rw [fencedLines, if_pos fence, items, if_pos fence]
    exact ih.cons_cons _
  | inside plain later ih =>
    rw [Bool.eq_false_iff] at plain
    rw [fencedLines, if_neg plain, if_pos rfl, items, if_neg plain, if_pos rfl]
    exact ih.cons_cons _
  | prose plain undefined later ih =>
    rw [fencedLines, if_neg (Bool.eq_false_iff.mp plain), if_neg Bool.false_ne_true,
      items_of_undefined plain undefined]
    exact ih.cons _
  | definition defined continues plain stops later ih =>
    obtain ⟨id, text, split⟩ := exists_items_of_definition defined continues
    rw [fencedLines, if_neg (Bool.eq_false_iff.mp (isFence_of_definition? defined)),
      if_neg Bool.false_ne_true, fencedLines_append plain, split stops]
    exact ih

/-- **Code defines nothing** where no definition takes a fence in: the definitions are those
with blank lines in its place. -/
theorem LeavesFences.definitions_items (free : LeavesFences inFence lines) :
    definitions (items false (withoutCode inFence lines)) = definitions (items inFence lines) := by
  induction free with
  | nil => rw [withoutCode, items, items]
  | fence fence later ih =>
    rw [withoutCode, if_pos fence, definitions_items_nil_cons, ih, items, if_pos fence]
    rfl
  | inside plain later ih =>
    rw [Bool.eq_false_iff] at plain
    rw [withoutCode, if_neg plain, if_pos rfl, definitions_items_nil_cons, ih, items,
      if_neg plain, if_pos rfl]
    rfl
  | prose plain undefined later ih =>
    rw [withoutCode, if_neg (Bool.eq_false_iff.mp plain), if_neg Bool.false_ne_true,
      items_of_undefined plain undefined, items_of_undefined plain undefined]
    exact ih
  | definition defined continues plain stops later ih =>
    obtain ⟨id, text, split⟩ := exists_items_of_definition defined continues
    rw [withoutCode, if_neg (Bool.eq_false_iff.mp (isFence_of_definition? defined)),
      if_neg Bool.false_ne_true, withoutCode_append plain, split stops,
      split (continuesDefinition_head?_withoutCode stops)]
    exact congrArg (_ :: ·) ih

/-! ## Fences that are kept -/

private theorem fenceCount_takeWhile_add_dropWhile (lines : List Text) :
    fenceCount lines = fenceCount (lines.takeWhile continuesDefinition) +
      fenceCount (lines.dropWhile continuesDefinition) := by
  rw [← Line.fenceCount_append, List.takeWhile_append_dropWhile]

/-- No fence is added. -/
theorem fenceCount_keptLines_le (inFence : Bool) (lines : List Text) :
    fenceCount (keptLines (items inFence lines)) ≤ fenceCount lines := by
  fun_induction items inFence lines with
  | case1 => exact le_refl 0
  | case2 inFence line lines fence ih =>
    rw [keptLines_kept, Line.fenceCount_cons_of_fence fence, Line.fenceCount_cons_of_fence fence]
    exact Nat.succ_le_succ ih
  | case3 line lines plain ih =>
    rwa [keptLines_kept, Line.fenceCount_cons_of_plain plain, Line.fenceCount_cons_of_plain plain]
  | case4 inFence line lines plain outside undefined ih =>
    rw [keptLines_kept, Line.fenceCount_cons_of_plain plain, Line.fenceCount_cons_of_plain]
    · exact ih
    · rwa [Citation.isFence_tokenize]
  | case5 inFence line lines plain outside id first rest found shorter ih =>
    rw [Line.fenceCount_cons_of_plain plain, fenceCount_takeWhile_add_dropWhile lines]
    exact ih.trans (Nat.le_add_left _ _)

/-- **A fence is lost** where a definition takes one in. -/
theorem fenceCount_keptLines_lt (taken : TakesFence inFence lines) :
    fenceCount (keptLines (items inFence lines)) < fenceCount lines := by
  fun_induction items inFence lines with
  | case1 =>
    obtain ⟨front, definition, content, fence, rest, whole, -⟩ := taken
    exact absurd whole.symm (List.append_ne_nil_of_right_ne_nil _ (List.cons_ne_nil _ _))
  | case2 inFence line lines fence ih =>
    rw [takesFence_cons_iff line lines (.inr (definition?_of_isFence fence)), fence,
      Bool.bne_true] at taken
    rw [keptLines_kept, Line.fenceCount_cons_of_fence fence, Line.fenceCount_cons_of_fence fence]
    exact Nat.succ_lt_succ (ih taken)
  | case3 line lines plain ih =>
    rw [takesFence_cons_iff line lines (.inl rfl), Bool.eq_false_iff.mpr plain,
      Bool.bne_false] at taken
    rw [keptLines_kept, Line.fenceCount_cons_of_plain plain, Line.fenceCount_cons_of_plain plain]
    exact ih taken
  | case4 inFence line lines plain outside undefined ih =>
    rw [takesFence_cons_iff line lines (.inr undefined), Bool.eq_false_iff.mpr plain,
      Bool.bne_false] at taken
    rw [keptLines_kept, Line.fenceCount_cons_of_plain plain, Line.fenceCount_cons_of_plain]
    · exact ih taken
    · rwa [Citation.isFence_tokenize]
  | case5 inFence line lines plain outside id first rest found shorter ih =>
    obtain rfl := Bool.eq_false_iff.mpr outside
    have defined : (Line.definition? line).isSome = true := Option.isSome_of_mem found
    rw [Line.fenceCount_cons_of_plain plain, fenceCount_takeWhile_add_dropWhile lines]
    by_cases inside : fenceCount (lines.takeWhile continuesDefinition) = 0
    · have free : ∀ other ∈ lines.takeWhile continuesDefinition,
          isFence other.trimStart = false := fun other member =>
        Bool.eq_false_iff.mpr (List.countP_eq_zero.mp inside other member)
      have later := ih ((takesFence_dropWhile_iff defined free).mpr taken)
      exact later.trans_le (Nat.le_add_left _ _)
    · have kept := fenceCount_keptLines_le false (lines.dropWhile continuesDefinition)
      have lost := Nat.pos_of_ne_zero inside
      exact kept.trans_lt (Nat.lt_add_of_pos_left lost)

/-! ## Texts -/

private theorem isFence_append_of_isBlank {c : Char} (blank : isBlank c = true) (line : Text) :
    isFence (line ++ [c]).trimStart = isFence line.trimStart := by
  have all : Text.isAllBlank [c] = true := by
    rw [Text.isAllBlank, List.all_cons, blank]
    rfl
  rw [Line.isFence_trimStart, Line.isFence_trimStart, Text.trim_append_of_isAllBlank all]

/-- Blank characters behind a text make no fence and take none away. -/
theorem fenceCount_splitOn_append {blanks : Text} (blank : ∀ c ∈ blanks, isBlank c = true)
    (s : Text) : fenceCount (Text.splitOn '\n' (s ++ blanks)) =
      fenceCount (Text.splitOn '\n' s) := by
  induction blanks generalizing s with
  | nil => rw [List.append_nil]
  | cons c blanks ih =>
    obtain ⟨here, later⟩ := List.forall_mem_cons.mp blank
    rw [List.append_cons, ih later]
    by_cases newline : c = '\n'
    · rw [newline, Text.splitOn_append_cons, Line.fenceCount_append]
      rfl
    · induction s using Text.line_induction with
      | last s whole =>
        have whole' : '\n' ∉ s ++ [c] := by
          simp only [List.mem_append, List.mem_singleton, not_or]
          exact ⟨whole, Ne.symm newline⟩
        rw [Text.splitOn_of_not_mem whole, Text.splitOn_of_not_mem whole']
        unfold Line.fenceCount
        rw [List.countP_singleton, List.countP_singleton, isFence_append_of_isBlank here]
      | line front rest whole ih =>
        rw [List.append_assoc, List.cons_append, Text.splitOn_append_cons, Text.splitOn_append_cons,
          Line.fenceCount_append, Line.fenceCount_append, ih]

/-- The kept lines are those of their text. -/
theorem splitOn_joinLines_keptLines (markdown : Text)
    (filled : keptLines (items false markdown.lines) ≠ []) :
    Text.splitOn '\n' (Text.joinLines (keptLines (items false markdown.lines))) =
      keptLines (items false markdown.lines) :=
  Text.splitOn_join filled fun _ => not_mem_of_mem_keptLines (by decide)
    fun _ member => Text.not_mem_of_mem_lines member

private theorem trimEnd_closeText (s : Text) : (closeText s).trimEnd = s.trimEnd := by
  rw [closeText_eq]
  split
  · rename_i empty
    rw [empty]
    rfl
  · rw [Text.trimEnd_append, if_pos (by rfl), Text.trimEnd_trimEnd]

/-- The fences of the extracted text are those that are kept. -/
theorem fenceCount_splitOn_markdown (markdown : Text) {blanks : Text}
    (blank : ∀ c ∈ blanks, isBlank c = true) :
    fenceCount (Text.splitOn '\n' ((ofBody markdown).markdown.trimEnd ++ blanks)) =
      fenceCount (keptLines (items false markdown.lines)) := by
  obtain ⟨behind, whole, blank'⟩ :=
    (Text.joinLines (keptLines (items false markdown.lines))).exists_trimEnd_append
  have same := fenceCount_splitOn_append blank' (ofBody markdown).markdown.trimEnd
  rw [fenceCount_splitOn_append blank, ← same, ofBody, trimEnd_closeText, ← whole]
  rcases eq_or_ne (keptLines (items false markdown.lines)) [] with none | filled
  · rw [none]
    rfl
  · rw [splitOn_joinLines_keptLines markdown filled]

/-- The fences of a text and the lines inside of them are lines of the extracted one, in order,
up to blank characters at its end. -/
def KeepsCode (markdown : Text) : Prop :=
  ∃ blanks, (∀ c ∈ blanks, isBlank c = true) ∧ (fencedLines false markdown.lines).Sublist
    (Text.splitOn '\n' ((ofBody markdown).markdown.trimEnd ++ blanks))

/-- The citations of a text are those with blank lines in place of the fences and the lines
inside of them. -/
def IgnoresCode (markdown : Text) : Prop :=
  (ofBody markdown).citations = CitationTable.empty.insertAll
    (definitions (items false (withoutCode false markdown.lines)))

/-- **Fenced code in front of extraction.** It is kept and defines no citation exactly when no
definition outside of fences reaches up to a fence. -/
theorem keepsCode_iff (markdown : Text) :
    KeepsCode markdown ∧ IgnoresCode markdown ↔ ¬ TakesFence false markdown.lines := by
  constructor
  · rintro ⟨⟨blanks, blank, kept⟩, -⟩ taken
    have count : fenceCount (fencedLines false markdown.lines) ≤
        fenceCount (keptLines (items false markdown.lines)) := by
      rw [← fenceCount_splitOn_markdown markdown blank]
      exact kept.countP_le
    rw [fenceCount_fencedLines] at count
    exact absurd (fenceCount_keptLines_lt taken) (Nat.not_lt.mpr count)
  · intro free
    have kept := (leavesFences free).sublist_keptLines
    obtain ⟨blanks, whole, blank⟩ :=
      (Text.joinLines (keptLines (items false markdown.lines))).exists_trimEnd_append
    refine ⟨⟨blanks, blank, ?_⟩, ?_⟩
    · rw [ofBody, trimEnd_closeText, ← whole]
      rcases eq_or_ne (keptLines (items false markdown.lines)) [] with none | filled
      · rw [none] at kept
        rw [List.sublist_nil.mp kept]
        exact List.nil_sublist _
      · rwa [splitOn_joinLines_keptLines markdown filled]
    · rw [IgnoresCode, (leavesFences free).definitions_items]
      rfl

/-- A definition that a fence directly follows. -/
def definitionAboveFence : Text :=
  "[^a]: A.\n\x60\x60\x60\n\n[^a]\n\x60\x60\x60".toList

/-- The fence is taken into the definition, and the marker in the code becomes a token. -/
theorem not_keepsCode_definitionAboveFence :
    "[^a]".toList ∈ fencedLines false definitionAboveFence.lines ∧
      "[^a]".toList ∉ Text.splitOn '\n' (ofBody definitionAboveFence).markdown ∧
      ((ofBody definitionAboveFence).citations.get? "a".toList).map (·.rawContent) =
        some "A.\n\x60\x60\x60".toList := by
  decide +kernel

end Extraction

end Scriptorium
