import Scriptorium.Proofs.Entry
import Scriptorium.Section
/-! # Fences among lines

Every line that is a fence opens one or closes the one that is open (`Line.endsFenced`). A fence
stands among lines with the lines inside, which are no fences (`Line.FenceAt`). Chunks and
paragraphs are cut at lines outside of fences (`cutOutside`), so each fence is in one of them as
a whole (`exists_part_of_fenceAt`).
-/

namespace Scriptorium

namespace Line

variable {inFence : Bool} {line opening : Text} {lines front inside rest : List Text}

/-- Whether the line behind some lines lies in a fence. The first of them does so or not. -/
def endsFenced (inFence : Bool) (lines : List Text) : Bool :=
  lines.foldl (fun inFence line => inFence != isFence line.trimStart) inFence

@[simp] theorem endsFenced_nil (inFence : Bool) : endsFenced inFence [] = inFence :=
  rfl

@[simp] theorem endsFenced_cons (inFence : Bool) (line : Text) (lines : List Text) :
    endsFenced inFence (line :: lines) = endsFenced (inFence != isFence line.trimStart) lines :=
  rfl

@[simp] theorem endsFenced_append (inFence : Bool) (front behind : List Text) :
    endsFenced inFence (front ++ behind) = endsFenced (endsFenced inFence front) behind :=
  List.foldl_append

/-- Lines without fences leave a fence open or closed. -/
theorem endsFenced_of_none (none : ∀ line ∈ lines, isFence line.trimStart = false) :
    endsFenced inFence lines = inFence := by
  induction lines with
  | nil => rfl
  | cons line lines ih =>
    obtain ⟨here, later⟩ := List.forall_mem_cons.mp none
    rw [endsFenced_cons, here, Bool.bne_false, ih later]

/-- How many of some lines are fences. -/
def fenceCount (lines : List Text) : Nat :=
  lines.countP (isFence ·.trimStart)

@[simp] theorem fenceCount_append (front behind : List Text) :
    fenceCount (front ++ behind) = fenceCount front + fenceCount behind :=
  List.countP_append

/-- A fence counts as one. -/
theorem fenceCount_cons_of_fence (fence : isFence line.trimStart = true) (lines : List Text) :
    fenceCount (line :: lines) = fenceCount lines + 1 :=
  List.countP_cons_of_pos fence

/-- A line that is no fence does not count. -/
theorem fenceCount_cons_of_plain (plain : ¬ isFence line.trimStart = true) (lines : List Text) :
    fenceCount (line :: lines) = fenceCount lines :=
  List.countP_cons_of_neg plain

/-- A fence among lines: behind those in front of it the line that opens it, the lines inside,
and the rest, which starts with the line that closes it. Without a rest it is not closed. -/
structure FenceAt (lines front : List Text) (opening : Text) (inside rest : List Text) :
    Prop where
  whole : lines = front ++ opening :: (inside ++ rest)
  outside : endsFenced false front = false
  opens : isFence opening.trimStart = true
  plain : ∀ line ∈ inside, isFence line.trimStart = false
  closes : ∀ line ∈ rest.head?, isFence line.trimStart = true

/-- A fence starts with a backquote or a tilde. -/
theorem head?_of_isFence (fence : isFence line = true) :
    line.head? = some '\x60' ∨ line.head? = some '~' := by
  rcases isFence_iff.mp fence with ⟨rest, rfl⟩ | ⟨rest, rfl⟩
  · exact .inl rfl
  · exact .inr rfl

/-- A fence is no comment. -/
theorem not_isComment_of_isFence (fence : isFence line.trimStart = true) :
    isComment line = false := by
  rw [isComment]
  rcases head?_of_isFence fence with first | first <;> rw [first] <;> rfl

/-- A fence is no heading. -/
theorem headingText?_of_isFence (fence : isFence line.trimStart = true) :
    headingText? line = none := by
  rw [isFence_trimStart] at fence
  have noSign : Scanner.run (· == '#') line.trim = none := by
    unfold Scanner.run
    rcases head?_of_isFence fence with first | first <;>
      · cases start : line.trim with
        | nil => rfl
        | cons c rest =>
          rw [start] at first
          cases first
          rfl
  rw [headingText?, heading?, noSign]
  rfl

end Line

open Line (endsFenced FenceAt isFence)

/-- Lines cut at those outside of fences that satisfy `p`. There is one part more than there
are such lines. -/
def cutOutside (p : Text → Bool) (inFence : Bool) : List Text → List (List Text)
  | [] => [[]]
  | line :: lines =>
    if !inFence && !isFence line.trimStart && p line then [] :: cutOutside p inFence lines
    else (cutOutside p (inFence != isFence line.trimStart) lines).modifyHead (line :: ·)

variable {p : Text → Bool} {inFence : Bool} {lines front inside rest part : List Text}
  {opening : Text}

/-- Lines are always cut into at least one part. -/
theorem cutOutside_ne_nil (p : Text → Bool) (inFence : Bool) (lines : List Text) :
    cutOutside p inFence lines ≠ [] := by
  fun_induction cutOutside p inFence lines with
  | case1 => exact List.cons_ne_nil _ _
  | case2 => exact List.cons_ne_nil _ _
  | case3 inFence line lines other ih => exact mt List.modifyHead_eq_nil_iff.mp ih

/-- Chunks are cut at dividers. -/
theorem chunks_eq_cutOutside (inFence : Bool) (lines : List Text) :
    Document.chunks inFence lines = cutOutside Line.isDivider inFence lines := by
  fun_induction Document.chunks inFence lines with
  | case1 => rfl
  | case2 inFence line lines divider ih => rw [cutOutside, if_pos divider, ih]
  | case3 inFence line lines other none ih =>
    exact absurd (ih.symm.trans none) (cutOutside_ne_nil _ _ _)
  | case4 inFence line lines other chunk chunks cut ih =>
    rw [cutOutside, if_neg other, ← ih, cut]
    rfl

/-- Blocks are cut at blank lines. -/
theorem blocks_eq_cutOutside (inFence : Bool) (lines : List Text) :
    Paragraph.blocks inFence lines = cutOutside Text.isAllBlank inFence lines := by
  fun_induction Paragraph.blocks inFence lines with
  | case1 => rfl
  | case2 inFence line lines blank ih => rw [cutOutside, if_pos blank, ih]
  | case3 inFence line lines other none ih =>
    exact absurd (ih.symm.trans none) (cutOutside_ne_nil _ _ _)
  | case4 inFence line lines other block blocks cut ih =>
    rw [cutOutside, if_neg other, ← ih, cut]
    rfl

/-- The last part of some lines goes on with the first one of those behind. -/
theorem exists_cutOutside_append (inFence : Bool) (front behind : List Text) :
    ∃ before lead, cutOutside p inFence (front ++ behind) =
      before ++ (cutOutside p (endsFenced inFence front) behind).modifyHead (lead ++ ·) := by
  induction front generalizing inFence with
  | nil =>
    obtain ⟨first, after, cut⟩ := List.exists_cons_of_ne_nil (cutOutside_ne_nil p inFence behind)
    exact ⟨[], [], by rw [List.nil_append, Line.endsFenced_nil, cut]; rfl⟩
  | cons line front ih =>
    rw [List.cons_append, cutOutside, Line.endsFenced_cons]
    split
    · rename_i divides
      simp only [Bool.and_eq_true, Bool.not_eq_eq_eq_not, Bool.not_true] at divides
      obtain ⟨⟨rfl, noFence⟩, -⟩ := divides
      obtain ⟨before, lead, cut⟩ := ih false
      exact ⟨[] :: before, lead, by rw [noFence, cut]; rfl⟩
    · obtain ⟨before, lead, cut⟩ := ih (inFence != isFence line.trimStart)
      rw [cut]
      cases before with
      | nil => exact ⟨[], line :: lead, by simp [Function.comp_def]⟩
      | cons first before => exact ⟨(line :: first) :: before, lead, rfl⟩

private theorem cutOutside_inside (plain : ∀ line ∈ inside, isFence line.trimStart = false)
    (rest : List Text) : cutOutside p true (inside ++ rest) =
      (cutOutside p true rest).modifyHead (inside ++ ·) := by
  induction inside with
  | nil =>
    obtain ⟨first, after, cut⟩ := List.exists_cons_of_ne_nil (cutOutside_ne_nil p true rest)
    rw [List.nil_append, cut]
    rfl
  | cons line inside ih =>
    obtain ⟨here, later⟩ := List.forall_mem_cons.mp plain
    rw [List.cons_append, cutOutside, here, Bool.not_true, Bool.false_and, Bool.false_and,
      if_neg Bool.false_ne_true, Bool.bne_false, ih later]
    simp [Function.comp_def]

private theorem cutOutside_of_isFence (fence : isFence opening.trimStart = true)
    (lines : List Text) :
    cutOutside p inFence (opening :: lines) =
      (cutOutside p (!inFence) lines).modifyHead (opening :: ·) := by
  rw [cutOutside, fence, Bool.not_true, Bool.and_false, Bool.false_and,
    if_neg Bool.false_ne_true, Bool.bne_true]

/-- **A fence is in one part** as a whole, with the line that closes it. -/
theorem exists_part_of_fenceAt (p : Text → Bool) (fence : FenceAt lines front opening inside rest) :
    ∃ part ∈ cutOutside p false lines, ∃ lead tail,
      part = lead ++ opening :: (inside ++ tail) ∧ tail.head? = rest.head? := by
  obtain ⟨tail, after, cut, same⟩ : ∃ tail after,
      cutOutside p true rest = tail :: after ∧ tail.head? = rest.head? := by
    cases rest with
    | nil => exact ⟨[], [], rfl, rfl⟩
    | cons closing rest =>
      obtain ⟨tail, after, cut⟩ := List.exists_cons_of_ne_nil (cutOutside_ne_nil p false rest)
      refine ⟨closing :: tail, after, ?_, rfl⟩
      rw [cutOutside_of_isFence (fence.closes closing rfl), Bool.not_true, cut]
      rfl
  obtain ⟨before, lead, split⟩ :=
    exists_cutOutside_append (p := p) false front (opening :: (inside ++ rest))
  rw [← fence.whole, fence.outside, cutOutside_of_isFence fence.opens, Bool.not_false,
    cutOutside_inside fence.plain, cut] at split
  refine ⟨lead ++ opening :: (inside ++ tail), ?_, lead, tail, rfl, same⟩
  rw [split]
  exact List.mem_append_right _ List.mem_cons_self

/-- The first part of some lines is what they start with, and the others stand among them with no
fence open in front. -/
theorem of_cutOutside_eq_cons {first : List Text} {others : List (List Text)}
    (cut : cutOutside p inFence lines = first :: others) :
    first <+: lines ∧ ∀ part ∈ others, ∃ before after, lines = before ++ (part ++ after) ∧
      endsFenced inFence before = false := by
  induction lines generalizing inFence first others with
  | nil =>
    cases cut
    exact ⟨List.nil_prefix, List.forall_mem_nil _⟩
  | cons line lines ih =>
    rw [cutOutside] at cut
    split at cut
    · rename_i divides
      simp only [Bool.and_eq_true, Bool.not_eq_eq_eq_not, Bool.not_true] at divides
      obtain ⟨⟨rfl, noFence⟩, -⟩ := divides
      cases cut
      refine ⟨List.nil_prefix, fun part member => ?_⟩
      obtain ⟨next, later, cut⟩ := List.exists_cons_of_ne_nil (cutOutside_ne_nil p false lines)
      obtain ⟨⟨after, start⟩, places⟩ := ih cut
      rcases List.mem_cons.mp (cut ▸ member) with rfl | member
      · refine ⟨[line], after, by rw [start]; rfl, ?_⟩
        rw [Line.endsFenced_cons, noFence]
        rfl
      · obtain ⟨before, after, whole, closed⟩ := places part member
        refine ⟨line :: before, after, by rw [whole]; rfl, ?_⟩
        rw [Line.endsFenced_cons, noFence]
        exact closed
    · obtain ⟨next, later, cut'⟩ := List.exists_cons_of_ne_nil
        (cutOutside_ne_nil p (inFence != isFence line.trimStart) lines)
      obtain ⟨start, places⟩ := ih cut'
      rw [cut'] at cut
      cases cut
      refine ⟨List.cons_prefix_cons.mpr ⟨rfl, start⟩, fun part member => ?_⟩
      obtain ⟨before, after, whole, closed⟩ := places part member
      exact ⟨line :: before, after, by rw [whole]; rfl, closed⟩

/-- **A part of lines** stands among them, and no fence is open in front of it. -/
theorem exists_of_mem_cutOutside (member : part ∈ cutOutside p false lines) :
    ∃ before after, lines = before ++ (part ++ after) ∧ endsFenced false before = false := by
  obtain ⟨first, others, cut⟩ := List.exists_cons_of_ne_nil (cutOutside_ne_nil p false lines)
  obtain ⟨⟨after, start⟩, places⟩ := of_cutOutside_eq_cons cut
  rcases List.mem_cons.mp (cut ▸ member) with rfl | member
  · exact ⟨[], after, start.symm, rfl⟩
  · exact places part member

end Scriptorium
