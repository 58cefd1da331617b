import Scriptorium.Proofs.Citation.Nesting
import Scriptorium.Proofs.Citation.Table
/-! # Extracting again

Extraction is to leave nothing that a second extraction would take out. What it keeps puts a
second run in the same place at every line: tokens make no fences and take none away, and the
end of the text is closed already (`Extraction.lines_markdown`). So a second run changes
nothing exactly when no line has markers nested in it, which tokens make markers of
(`Extraction.ofBody_markdown_ofBody_iff`).
-/

namespace Scriptorium

namespace Extraction

open Citation (IsSettled Nests tokenize)
open CitationTable (empty)

variable {inFence : Bool} {line body s : Text} {lines : List Text}

/-! ## Closed lines -/

/-- Lines without the blank ones at their end, the last of them without blank characters at
its end. -/
def closeLines : List Text → List Text
  | [] => []
  | line :: lines =>
    match closeLines lines with
    | [] => if line.trimEnd = [] then [] else [line.trimEnd]
    | next :: rest => line :: next :: rest

private theorem closeLines_cons_of_nil (closed : closeLines lines = []) (line : Text) :
    closeLines (line :: lines) = if line.trimEnd = [] then [] else [line.trimEnd] := by
  rw [closeLines, closed]

private theorem closeLines_cons_of_ne_nil (closed : closeLines lines ≠ []) (line : Text) :
    closeLines (line :: lines) = line :: closeLines lines := by
  rw [closeLines]
  cases rest : closeLines lines with
  | nil => exact absurd rest closed
  | cons next rest => rfl

/-- Closing a text behind a line keeps that line, unless nothing stands below it. -/
theorem closeText_append_cons (line rest : Text) : closeText (line ++ '\n' :: rest) =
    if closeText rest = [] then closeText line else line ++ '\n' :: closeText rest := by
  have between : Text.trimEnd (['\n'] ++ rest) =
      if rest.trimEnd = [] then [] else '\n' :: rest.trimEnd := by
    rw [Text.trimEnd_append]
    rfl
  rw [List.singleton_append] at between
  by_cases blank : rest.trimEnd = []
  · rw [if_pos blank] at between
    rw [closeText_eq, closeText_eq rest, if_pos blank, if_pos rfl, Text.trimEnd_append, between,
      if_pos rfl, closeText_eq]
  · rw [if_neg blank] at between
    have filled : rest.trimEnd ++ ['\n'] ≠ [] := List.append_ne_nil_of_left_ne_nil blank _
    rw [closeText_eq, closeText_eq rest, if_neg blank, if_neg filled, Text.trimEnd_append, between,
      if_neg (List.cons_ne_nil _ _), if_neg (List.append_ne_nil_of_right_ne_nil _ (by simp)),
      List.append_assoc, List.cons_append]

/-- Closing the text of lines is closing the lines. -/
theorem closeText_joinLines (lines : List Text) :
    closeText (Text.joinLines lines) = (closeLines lines).flatMap (· ++ ['\n']) := by
  unfold Text.joinLines Text.join
  induction lines with
  | nil => rfl
  | cons line lines ih =>
    cases lines with
    | nil =>
      rw [List.intercalate_singleton, closeText_eq, closeLines_cons_of_nil rfl]
      split
      · rfl
      · exact (List.flatMap_singleton ..).symm
    | cons next lines =>
      rw [List.intercalate_cons_cons, List.append_assoc, List.singleton_append,
        closeText_append_cons, ih]
      by_cases closed : closeLines (next :: lines) = []
      · rw [closed, List.flatMap_nil, if_pos rfl, closeLines_cons_of_nil closed, closeText_eq]
        split
        · rfl
        · exact (List.flatMap_singleton ..).symm
      · rw [if_neg, closeLines_cons_of_ne_nil closed, List.flatMap_cons, List.append_assoc]
        · rfl
        · obtain ⟨first, rest, split⟩ := List.exists_cons_of_ne_nil closed
          rw [split, List.flatMap_cons]
          simp

private theorem closeLines_closeLines (lines : List Text) :
    closeLines (closeLines lines) = closeLines lines := by
  induction lines with
  | nil => rfl
  | cons line lines ih =>
    by_cases closed : closeLines lines = []
    · rw [closeLines_cons_of_nil closed]
      split
      · rfl
      · rename_i solid
        rw [closeLines_cons_of_nil rfl, Text.trimEnd_trimEnd, if_neg solid]
    · rw [closeLines_cons_of_ne_nil closed, closeLines_cons_of_ne_nil (ih.symm ▸ closed), ih]

/-- Closing lines takes characters off their ends at most. -/
theorem exists_prefix_of_mem_closeLines (member : line ∈ closeLines lines) :
    ∃ other ∈ lines, line <+: other := by
  induction lines with
  | nil => cases member
  | cons first lines ih =>
    by_cases closed : closeLines lines = []
    · rw [closeLines_cons_of_nil closed] at member
      split at member
      · cases member
      · rw [List.mem_singleton.mp member]
        exact ⟨first, List.mem_cons_self, first.trimEnd_prefix⟩
    · rw [closeLines_cons_of_ne_nil closed] at member
      rcases List.mem_cons.mp member with rfl | later
      · exact ⟨line, List.mem_cons_self, List.prefix_rfl⟩
      · obtain ⟨other, listed, start⟩ := ih later
        exact ⟨other, List.mem_cons_of_mem _ listed, start⟩

/-! ## Lines outside of fences -/

/-- The lines outside of fences, the first of which lies in one or not. -/
def unfencedLines (inFence : Bool) : List Text → List Text
  | [] => []
  | line :: lines =>
    if Line.isFence line.trimStart then unfencedLines (!inFence) lines
    else if inFence then unfencedLines inFence lines
    else line :: unfencedLines inFence lines

/-- The lines outside of fences and definitions, the first of which lies in a fence or not. -/
def proseLines (inFence : Bool) : List Text → List Text
  | [] => []
  | line :: lines =>
    if Line.isFence line.trimStart then proseLines (!inFence) lines
    else if inFence then proseLines inFence lines
    else
      match Line.definition? line with
      | none => line :: proseLines inFence lines
      | some _ =>
        have := (List.dropWhile_suffix (l := lines) continuesDefinition).length_le
        proseLines inFence (lines.dropWhile continuesDefinition)
termination_by lines => lines.length

private theorem undefined_of_mem_proseLines (member : line ∈ proseLines inFence lines) :
    Line.definition? line = none := by
  fun_induction proseLines inFence lines with
  | case1 inFence => cases member
  | case2 inFence first lines fence ih => exact ih member
  | case3 first lines fence ih => exact ih member
  | case4 inFence first lines fence notFence absent ih =>
    rcases List.mem_cons.mp member with rfl | later
    · exact absent
    · exact ih later
  | case5 inFence first lines fence notFence found read shorter ih => exact ih member

/-- The lines outside of fences that are kept are those outside of fences and definitions,
with tokens in them. -/
theorem unfencedLines_keptLines (inFence : Bool) (lines : List Text) :
    unfencedLines inFence (keptLines (items inFence lines)) =
      (proseLines inFence lines).map tokenize := by
  fun_induction items inFence lines with
  | case1 inFence => rw [proseLines]; rfl
  | case2 inFence line lines fence ih =>
    rw [proseLines, if_pos fence, ← ih]
    exact if_pos fence
  | case3 line lines fence ih =>
    rw [proseLines, if_neg fence, if_pos rfl, ← ih]
    exact if_neg fence
  | case4 inFence line lines fence notFence absent ih =>
    rw [proseLines, if_neg fence, if_neg notFence, absent, List.map_cons, ← ih]
    rw [← Citation.isFence_tokenize] at fence
    exact (if_neg fence).trans (if_neg notFence)
  | case5 inFence line lines fence notFence id first rest found shorter ih =>
    rw [proseLines, if_neg fence, if_neg notFence, found, ← ih]
    rfl

/-- Something holds of all lines outside of fences when it holds of the first, if that one is
outside, and of those behind it. -/
theorem forall_mem_unfencedLines_cons {P : Text → Prop} :
    (∀ other ∈ unfencedLines inFence (line :: lines), P other) ↔
      (Line.isFence line.trimStart = false → inFence = false → P line) ∧
        ∀ other ∈ unfencedLines (if Line.isFence line.trimStart then !inFence else inFence) lines,
          P other := by
  rw [unfencedLines]
  cases Line.isFence line.trimStart with
  | true =>
    exact ⟨fun all => ⟨fun unfenced => Bool.noConfusion unfenced, all⟩, fun parts => parts.2⟩
  | false =>
    cases inFence with
    | true => exact ⟨fun all => ⟨fun _ out => Bool.noConfusion out, all⟩, fun parts => parts.2⟩
    | false =>
      rw [if_neg Bool.false_ne_true, if_neg Bool.false_ne_true, List.forall_mem_cons]
      exact ⟨fun all => ⟨fun _ _ => all.1, all.2⟩, fun parts => ⟨parts.1 rfl rfl, parts.2⟩⟩

/-- Closing lines settles none of them and unsettles none. -/
theorem forall_isSettled_closeLines_iff (inFence : Bool) (lines : List Text) :
    (∀ line ∈ unfencedLines inFence (closeLines lines), IsSettled line) ↔
      ∀ line ∈ unfencedLines inFence lines, IsSettled line := by
  induction lines generalizing inFence with
  | nil => rfl
  | cons line lines ih =>
    by_cases closed : closeLines lines = []
    · have later : ∀ inFence, ∀ line ∈ unfencedLines inFence lines, IsSettled line := by
        intro inFence
        rw [← ih, closed]
        exact List.forall_mem_nil _
      rw [closeLines_cons_of_nil closed, forall_mem_unfencedLines_cons, and_iff_left (later _)]
      by_cases empty : line.trimEnd = []
      · have settled := Citation.isSettled_of_trimEnd_eq_nil empty
        rw [if_pos empty]
        exact iff_of_true (List.forall_mem_nil _) fun _ _ => settled
      · have alone : ∀ inFence, ∀ other ∈ unfencedLines inFence [], IsSettled other :=
          fun _ => List.forall_mem_nil _
        rw [if_neg empty, forall_mem_unfencedLines_cons, and_iff_left (alone _),
          Citation.isSettled_trimEnd, Line.isFence_trimStart, Text.trim_trimEnd,
          ← Line.isFence_trimStart]
    · rw [closeLines_cons_of_ne_nil closed, forall_mem_unfencedLines_cons,
        forall_mem_unfencedLines_cons, ih]

/-! ## Extracting from settled lines -/

/-- Where all lines are settled they are kept as they are. -/
theorem items_of_isSettled (settled : ∀ line ∈ unfencedLines inFence lines, IsSettled line) :
    items inFence lines = lines.map .kept := by
  induction lines generalizing inFence with
  | nil => rw [items, List.map_nil]
  | cons line lines ih =>
    rw [unfencedLines] at settled
    rw [items, List.map_cons]
    by_cases fence : Line.isFence line.trimStart
    · rw [if_pos fence] at settled ⊢
      rw [ih settled]
    · rw [if_neg fence] at settled ⊢
      by_cases fenced : inFence
      · rw [if_pos fenced] at settled ⊢
        rw [ih settled]
      · rw [if_neg fenced] at settled ⊢
        obtain ⟨here, later⟩ := List.forall_mem_cons.mp settled
        rw [here.undefined, ih later,
          Citation.tokenize_of_lineReferences_eq_nil here.unreferring]

/-- A kept line is among the lines that are kept. -/
theorem keptLines_kept (line : Text) (rest : List Item) :
    keptLines (.kept line :: rest) = line :: keptLines rest :=
  rfl

/-- Where nothing is taken out, the brackets that go are those of the references. -/
theorem count_keptLines (undefined : definitions (items inFence lines) = []) :
    (keptLines (items inFence lines)).flatten.count '[' +
        ((unfencedLines inFence lines).flatMap lineReferences).length =
      lines.flatten.count '[' ∧
      ∀ line ∈ unfencedLines inFence lines, Line.definition? line = none := by
  fun_induction items inFence lines with
  | case1 inFence => exact ⟨rfl, List.forall_mem_nil _⟩
  | case2 inFence line lines fence ih =>
    obtain ⟨counts, rest⟩ := ih undefined
    rw [unfencedLines, if_pos fence]
    refine ⟨?_, rest⟩
    rw [keptLines_kept, List.flatten_cons, List.flatten_cons, List.count_append, List.count_append,
      ← counts, Nat.add_assoc]
  | case3 line lines fence ih =>
    obtain ⟨counts, rest⟩ := ih undefined
    rw [unfencedLines, if_neg fence, if_pos rfl]
    refine ⟨?_, rest⟩
    rw [keptLines_kept, List.flatten_cons, List.flatten_cons, List.count_append, List.count_append,
      ← counts, Nat.add_assoc]
  | case4 inFence line lines fence notFence absent ih =>
    obtain ⟨counts, rest⟩ := ih undefined
    rw [unfencedLines, if_neg fence, if_neg notFence, List.flatMap_cons, List.length_append,
      List.flatten_cons, List.count_append, ← counts, ← Citation.count_tokenize line]
    refine ⟨?_, List.forall_mem_cons.mpr ⟨absent, rest⟩⟩
    rw [keptLines_kept, List.flatten_cons, List.count_append]
    omega
  | case5 inFence line lines fence notFence id first rest found shorter ih => cases undefined

private theorem count_closeText (s : Text) : (closeText s).count '[' = s.count '[' := by
  obtain ⟨behind, whole, blank⟩ := s.exists_trimEnd_append
  have none : behind.count '[' = 0 :=
    List.count_eq_zero.mpr fun member => absurd (blank _ member) (by decide)
  have trimmed : s.count '[' = s.trimEnd.count '[' := by
    conv_lhs => rw [whole, List.count_append, none, Nat.add_zero]
  rw [closeText_eq, trimmed]
  split
  · rename_i empty
    rw [empty]
  · rw [List.count_append]
    rfl

private theorem eq_nil_of_insertAll_eq_empty {definitions : List (Text × Text)}
    (none : empty.insertAll definitions = empty) : definitions = [] := by
  have defines := CitationTable.defines_afterEdits
    (definitions.map fun definition => .insert definition.1 definition.2)
  rw [← CitationTable.insertAll_eq_afterEdits, none] at defines
  cases definitions with
  | nil => rfl
  | cons definition definitions => cases defines

/-! ## Extracting again -/

/-- A kept line holds the characters of lines and those of tokens. -/
theorem not_mem_of_mem_keptLines {c : Char} (other : isMarkChar c = false)
    (absent : ∀ line ∈ lines, c ∉ line) (member : line ∈ keptLines (items inFence lines)) :
    c ∉ line := by
  fun_induction items inFence lines with
  | case1 inFence => cases member
  | case2 inFence first lines fence ih =>
    obtain ⟨here, later⟩ := List.forall_mem_cons.mp absent
    rcases List.mem_cons.mp member with rfl | kept
    · exact here
    · exact ih later kept
  | case3 first lines fence ih =>
    obtain ⟨here, later⟩ := List.forall_mem_cons.mp absent
    rcases List.mem_cons.mp member with rfl | kept
    · exact here
    · exact ih later kept
  | case4 inFence first lines fence notFence undefined ih =>
    obtain ⟨here, later⟩ := List.forall_mem_cons.mp absent
    rcases List.mem_cons.mp member with rfl | kept
    · exact Citation.not_mem_tokenize other here
    · exact ih later kept
  | case5 inFence first lines fence notFence id content rest found shorter ih =>
    obtain ⟨-, later⟩ := List.forall_mem_cons.mp absent
    exact ih (fun line listed => later line ((List.dropWhile_suffix _).subset listed)) member

/-- The lines of an extracted body are those that were kept, closed. -/
theorem lines_markdown (plain : '\r' ∉ body) :
    (ofBody body).markdown.lines = closeLines (keptLines (items false body.lines)) := by
  rw [ofBody, closeText_joinLines]
  apply Text.lines_flatMap
  intro line member
  obtain ⟨other, kept, start⟩ := exists_prefix_of_mem_closeLines member
  have newline : '\n' ∉ other := not_mem_of_mem_keptLines (by decide)
    (fun line member => Text.not_mem_of_mem_lines member) kept
  have noReturn : '\r' ∉ other := not_mem_of_mem_keptLines (by decide)
    (fun line member inside => plain ((Text.infix_of_mem_lines member).subset inside)) kept
  exact ⟨fun inside => newline (start.subset inside), fun inside => noReturn (start.subset inside)⟩

private theorem closeText_joinLines_lines_markdown (plain : '\r' ∉ body) :
    closeText (Text.joinLines (ofBody body).markdown.lines) = (ofBody body).markdown := by
  rw [closeText_joinLines, lines_markdown plain, closeLines_closeLines, ← closeText_joinLines]
  rfl

/-- Extraction leaves a closed text alone exactly when its lines outside of fences are
settled. -/
theorem ofBody_eq_iff (closed : closeText (Text.joinLines body.lines) = body) :
    ofBody body = ⟨body, empty⟩ ↔ ∀ line ∈ unfencedLines false body.lines, IsSettled line := by
  constructor
  · intro same
    obtain ⟨counts, undefined⟩ :=
      count_keptLines (eq_nil_of_insertAll_eq_empty (congrArg Extraction.citations same))
    have again : closeText (Text.joinLines (keptLines (items false body.lines))) =
        closeText (Text.joinLines body.lines) :=
      (congrArg Extraction.markdown same).trans closed.symm
    have brackets := congrArg (List.count '[') again
    rw [count_closeText, count_closeText, Text.joinLines, Text.joinLines,
      Text.count_join (by decide), Text.count_join (by decide)] at brackets
    have none : (unfencedLines false body.lines).flatMap lineReferences = [] :=
      List.eq_nil_of_length_eq_zero (by omega)
    exact fun line member => ⟨undefined line member, List.flatMap_eq_nil_iff.mp none line member⟩
  · intro settled
    have kept : keptLines (body.lines.map .kept) = body.lines := by
      rw [keptLines, List.filterMap_map]
      exact List.filterMap_some
    have none : definitions (body.lines.map .kept) = [] := by
      rw [definitions, List.filterMap_map]
      exact List.filterMap_eq_nil_iff.mpr fun _ _ => rfl
    rw [ofBody, items_of_isSettled settled, kept, closed, none]
    rfl

/-- **Extracting again changes nothing** exactly when no line outside of fences and definitions
has markers nested in it, and exactly then no definition and no reference is left outside of
fences. -/
theorem ofBody_markdown_ofBody_iff (plain : '\r' ∉ body) :
    (ofBody (ofBody body).markdown = ⟨(ofBody body).markdown, empty⟩ ↔
      ∀ line ∈ proseLines false body.lines, ¬ Nests line) ∧
    ((∀ line ∈ unfencedLines false (ofBody body).markdown.lines, IsSettled line) ↔
      ∀ line ∈ proseLines false body.lines, ¬ Nests line) := by
  have settled : (∀ line ∈ unfencedLines false (ofBody body).markdown.lines, IsSettled line) ↔
      ∀ line ∈ proseLines false body.lines, ¬ Nests line := by
    rw [lines_markdown plain, forall_isSettled_closeLines_iff, unfencedLines_keptLines,
      List.forall_mem_map]
    exact forall₂_congr fun line member =>
      Citation.isSettled_tokenize_iff (undefined_of_mem_proseLines member)
  exact ⟨(ofBody_eq_iff (closeText_joinLines_lines_markdown plain)).trans settled, settled⟩

/-- References and markers in markers outside of a fence, in one, and in a definition. -/
def fencedBody : Text :=
  "x[^a] [[^b]]\n\x60\x60\x60\n[^[^c]]\n\x60\x60\x60\n\n[^b]: [^[^d]]\n[^e]\n\n[^f]\n \n".toList

/-- Whether extracting again changes this body is told by its prose alone. -/
theorem ofBody_markdown_ofBody_iff_fencedBody : '\r' ∉ fencedBody ∧
    (ofBody (ofBody fencedBody).markdown = ⟨(ofBody fencedBody).markdown, empty⟩ ↔
      ∀ line ∈ proseLines false fencedBody.lines, ¬ Nests line) ∧
    ((∀ line ∈ unfencedLines false (ofBody fencedBody).markdown.lines, IsSettled line) ↔
      ∀ line ∈ proseLines false fencedBody.lines, ¬ Nests line) := by
  have plain : '\r' ∉ fencedBody := by decide
  exact ⟨plain, ofBody_markdown_ofBody_iff plain⟩

/-- A line that becomes a definition when a token is put into it. -/
def nestedDefinition : Text := "[^[^a]]: x".toList

/-- Extracting again finds the definition that the first extraction made. -/
theorem ofBody_markdown_ofBody_nestedDefinition : '\r' ∉ nestedDefinition ∧
    ofBody (ofBody nestedDefinition).markdown ≠ ⟨(ofBody nestedDefinition).markdown, empty⟩ := by
  decide +kernel

end Extraction

end Scriptorium
