import Mathlib.Data.List.TakeWhile
import Scriptorium.Proofs.Text.Split
import Scriptorium.Text.Blank
import Scriptorium.Text.Lines
/-! # Lines one after the other

A text is either one line without an end, or a line, its line feed and more text
(`Text.line_cases`). Its lines are read off in the same way (`Text.lines_append_cons`).
Lines that are put together and read again lose at most carriage returns at their ends and
an empty last line (`Text.lines_joinLines_cons`).
-/

namespace Scriptorium.Text

variable {p : Char → Bool} {s behind : Text}

/-- A text is a line, or a line and a line feed before more text. -/
theorem line_cases (s : Text) :
    '\n' ∉ s ∨ ∃ front rest, '\n' ∉ front ∧ s = front ++ '\n' :: rest := by
  by_cases member : '\n' ∈ s
  · obtain ⟨front, rest, whole, absent⟩ := List.eq_append_cons_of_mem member
    exact .inr ⟨front, rest, absent, whole⟩
  · exact .inl member

/-- What holds of texts without line feeds, and of a line before a text that it holds of,
holds of every text. -/
theorem line_induction {motive : Text → Prop} (last : ∀ s, '\n' ∉ s → motive s)
    (line : ∀ front rest, '\n' ∉ front → motive rest → motive (front ++ '\n' :: rest))
    (s : Text) : motive s := by
  induction size : s.length using Nat.strongRecOn generalizing s with
  | _ size ih =>
    subst size
    rcases line_cases s with absent | ⟨front, rest, absent, rfl⟩
    · exact last s absent
    · refine line front rest absent (ih _ ?_ rest rfl)
      simp only [List.length_append, List.length_cons]
      omega

/-- A character that ends no line goes with the first line behind it. -/
theorem terminatedLines_cons_of_ne {c : Char} (other : c ≠ '\n') (s : Text) :
    terminatedLines (c :: s) =
      (c :: (terminatedLines s).headD []) :: (terminatedLines s).tail := by
  rw [terminatedLines, if_neg other]
  cases terminatedLines s with
  | nil => rfl
  | cons line lines => rfl

/-- A line ends at its line feed. -/
theorem terminatedLines_append_cons {front : Text} (whole : '\n' ∉ front) (rest : Text) :
    terminatedLines (front ++ '\n' :: rest) = (front ++ ['\n']) :: terminatedLines rest := by
  induction front with
  | nil => rfl
  | cons c front ih =>
    obtain ⟨other, later⟩ := List.ne_and_not_mem_of_not_mem_cons whole
    rw [List.cons_append, terminatedLines_cons_of_ne (Ne.symm other), ih later]
    rfl

/-- A text without line feeds is one line. -/
theorem terminatedLines_of_not_mem {s : Text} (whole : '\n' ∉ s) (nonempty : s ≠ []) :
    terminatedLines s = [s] := by
  induction s with
  | nil => exact absurd rfl nonempty
  | cons c s ih =>
    obtain ⟨other, later⟩ := List.ne_and_not_mem_of_not_mem_cons whole
    rw [terminatedLines_cons_of_ne (Ne.symm other)]
    cases s with
    | nil => rfl
    | cons d s =>
      rw [ih later (List.cons_ne_nil d s)]
      rfl

/-- The lines of a text behind another one that ends in a line: the first of them goes on with
that line. -/
theorem exists_terminatedLines_append {source : Text} (nonempty : source ≠ [])
    (unended : source.getLast? ≠ some '\n') (s : Text) : ∃ first group,
      first.head? = source.head? ∧
        terminatedLines (source ++ s) = first :: group ++ (terminatedLines s).tail := by
  induction source with
  | nil => exact absurd rfl nonempty
  | cons c source ih =>
    cases source with
    | nil =>
      have other : c ≠ '\n' := fun same => unended (same ▸ rfl)
      refine ⟨c :: (terminatedLines s).headD [], [], rfl, ?_⟩
      exact terminatedLines_cons_of_ne other s
    | cons d source =>
      obtain ⟨first, group, -, lines⟩ := ih (List.cons_ne_nil d source) unended
      by_cases newline : c = '\n'
      · subst newline
        exact ⟨['\n'], first :: group, rfl, congrArg (['\n'] :: ·) lines⟩
      · refine ⟨c :: first, group, rfl, ?_⟩
        rw [List.cons_append, terminatedLines_cons_of_ne newline, lines]
        rfl

/-- A text that is not empty has lines. -/
theorem terminatedLines_ne_nil (nonempty : s ≠ []) : terminatedLines s ≠ [] := by
  intro empty
  have whole := flatten_terminatedLines s
  rw [empty] at whole
  exact nonempty whole.symm

/-- What stands in a text and holds no line feed stands in one of its lines. -/
theorem exists_mem_terminatedLines {part : Text} (whole : '\n' ∉ part) (nonempty : part ≠ [])
    (inside : part <:+: s) : ∃ line ∈ terminatedLines s, part <:+: line := by
  induction s using line_induction with
  | last s single =>
    refine ⟨s, ?_, inside⟩
    have filled : s ≠ [] := by
      rintro rfl
      exact nonempty (List.infix_nil.mp inside)
    rw [terminatedLines_of_not_mem single filled]
    exact List.mem_cons_self
  | line first rest single ih =>
    obtain ⟨front, behind, split⟩ := inside
    have split' : front ++ (part ++ behind) = (first ++ ['\n']) ++ rest := by
      rw [← List.append_assoc, split, List.append_assoc, List.singleton_append]
    rw [terminatedLines_append_cons single]
    have later (start : Text) (found : rest = start ++ (part ++ behind)) :
        ∃ line ∈ (first ++ ['\n']) :: terminatedLines rest, part <:+: line := by
      obtain ⟨line, listed, within⟩ := ih ⟨start, behind, by rw [found, List.append_assoc]⟩
      exact ⟨line, List.mem_cons_of_mem _ listed, within⟩
    rcases List.append_eq_append_iff.mp split' with ⟨across, here, found⟩ | ⟨start, _, found⟩
    · -- The part begins in the first line, or right behind it.
      rcases List.eq_nil_or_concat across with rfl | ⟨inner, last, rfl⟩
      · exact later [] found.symm
      · rw [List.concat_eq_append, ← List.append_assoc] at here
        obtain ⟨rfl, last⟩ := List.append_inj' here rfl
        cases last
        rw [List.concat_eq_append, List.append_assoc, List.singleton_append] at found
        obtain ⟨inner', rfl, -⟩ := exists_append_of_not_mem whole found
        exact ⟨_, List.mem_cons_self, front, inner' ++ ['\n'], by simp only [List.append_assoc]⟩
    · exact later start found

/-- A text without line feeds in front of another one goes with its first line. -/
theorem terminatedLines_append_of_not_mem {front : Text} (whole : '\n' ∉ front)
    (nonempty : front ≠ []) (s : Text) : terminatedLines (front ++ s) =
      (front ++ (terminatedLines s).headD []) :: (terminatedLines s).tail := by
  induction front with
  | nil => exact absurd rfl nonempty
  | cons c front ih =>
    obtain ⟨other, later⟩ := List.ne_and_not_mem_of_not_mem_cons whole
    rw [List.cons_append, terminatedLines_cons_of_ne (Ne.symm other)]
    cases front with
    | nil => rfl
    | cons d front =>
      rw [ih later (List.cons_ne_nil d front)]
      rfl

/-- Behind a line feed new lines begin. -/
theorem terminatedLines_append {front : Text} (closed : front.getLast? = some '\n')
    (behind : Text) : terminatedLines (front ++ behind) =
      terminatedLines front ++ terminatedLines behind := by
  induction front with
  | nil => cases closed
  | cons c front ih =>
    cases front with
    | nil =>
      cases closed
      rfl
    | cons d front =>
      have later := ih closed
      by_cases newline : c = '\n'
      · subst newline
        exact congrArg (['\n'] :: ·) later
      · have filled := terminatedLines_ne_nil (List.cons_ne_nil d front)
        obtain ⟨line, lines, split⟩ := List.exists_cons_of_ne_nil filled
        rw [List.cons_append, terminatedLines_cons_of_ne newline, later,
          terminatedLines_cons_of_ne newline, split]
        rfl

/-- A line without one carriage return at its end. -/
def withoutReturn (line : Text) : Text :=
  (dropEnd? ['\r'] line).getD line

/-- A line is read without its line feed, and without the carriage return before that. -/
theorem lines_append_cons {front : Text} (whole : '\n' ∉ front) (rest : Text) :
    lines (front ++ '\n' :: rest) = withoutReturn front :: lines rest := by
  rw [lines, terminatedLines_append_cons whole, List.map_cons, withoutTerminator,
    dropEnd?_append]
  rfl

/-- A text without line feeds is read as one line. -/
theorem lines_of_not_mem {s : Text} (whole : '\n' ∉ s) (nonempty : s ≠ []) : lines s = [s] := by
  have unended : dropEnd? ['\n'] s = none := by
    cases cut : dropEnd? ['\n'] s with
    | none => rfl
    | some body =>
      refine absurd ?_ whole
      rw [eq_of_dropEnd?_eq_some cut]
      exact List.mem_append_right body List.mem_cons_self
  rw [lines, terminatedLines_of_not_mem whole nonempty, List.map_singleton, withoutTerminator,
    unended]

/-- Lines that were put together are read again, without their carriage returns. -/
theorem lines_joinLines_cons {line : Text} (whole : '\n' ∉ line) (next : Text)
    (rest : List Text) : lines (joinLines (line :: next :: rest)) =
      withoutReturn line :: lines (joinLines (next :: rest)) := by
  rw [joinLines, join, List.intercalate_cons_cons, List.append_assoc, List.singleton_append,
    lines_append_cons whole]
  rfl

/-- Lines with their line feeds are read again as they are. -/
theorem lines_flatMap {lines : List Text}
    (whole : ∀ line ∈ lines, '\n' ∉ line ∧ '\r' ∉ line) :
    Text.lines (lines.flatMap (· ++ ['\n'])) = lines := by
  induction lines with
  | nil => rfl
  | cons line lines ih =>
    obtain ⟨⟨newline, noReturn⟩, later⟩ := List.forall_mem_cons.mp whole
    have kept : withoutReturn line = line := by
      unfold withoutReturn
      cases cut : dropEnd? ['\r'] line with
      | none => rfl
      | some front =>
        rw [eq_of_dropEnd?_eq_some cut] at noReturn
        exact absurd (List.mem_append_right _ List.mem_cons_self) noReturn
    rw [List.flatMap_cons, List.append_assoc, List.singleton_append, lines_append_cons newline,
      kept, ih later]

/-! ## The ends of lines -/

/-- What is to be dropped may stand behind a text. -/
theorem dropEndWhile_append_of_all (all : ∀ c ∈ behind, p c = true) (s : Text) :
    dropEndWhile p (s ++ behind) = dropEndWhile p s := by
  rw [dropEndWhile, List.reverse_append, List.dropWhile_append_of_pos, ← dropEndWhile]
  exact fun c member => all c (List.mem_reverse.mp member)

/-- What is dropped at the end of a text. -/
theorem dropEndWhile_append_takeWhile (p : Char → Bool) (s : Text) :
    dropEndWhile p s ++ (s.reverse.takeWhile p).reverse = s := by
  rw [dropEndWhile, ← List.reverse_append, List.takeWhile_append_dropWhile, List.reverse_reverse]

/-- A text stays when its first character is none to be dropped. -/
theorem dropWhile_eq_self (first : ∀ c ∈ s.head?, p c = false) : s.dropWhile p = s := by
  cases s with
  | nil => rfl
  | cons c s => exact List.dropWhile_cons_of_neg (by rw [first c rfl]; exact Bool.false_ne_true)

/-- A text stays when its last character is none to be dropped. -/
theorem dropEndWhile_eq_self (last : ∀ c ∈ s.getLast?, p c = false) : dropEndWhile p s = s := by
  rw [← List.head?_reverse] at last
  rw [dropEndWhile, dropWhile_eq_self last, List.reverse_reverse]

/-- What is left of a text does not end with a character to be dropped. -/
theorem getLast?_dropEndWhile (p : Char → Bool) (s : Text) :
    ∀ c ∈ (dropEndWhile p s).getLast?, p c = false := by
  intro c last
  rw [dropEndWhile, List.getLast?_reverse] at last
  exact eq_false_of_mem_head?_dropWhile last

/-- A text stays when nothing is to be dropped at its two ends. -/
theorem stripWhere_eq_self (first : ∀ c ∈ s.head?, p c = false)
    (last : ∀ c ∈ s.getLast?, p c = false) : s.stripWhere p = s := by
  rw [stripWhere, dropWhile_eq_self first, dropEndWhile_eq_self last]

/-- What is left of a text does not begin with a character to be dropped. -/
theorem head?_stripWhere (p : Char → Bool) (s : Text) :
    ∀ c ∈ (s.stripWhere p).head?, p c = false := by
  intro c first
  have start : c ∈ (s.dropWhile p).head? := by
    rw [← dropEndWhile_append_takeWhile p (s.dropWhile p), List.head?_append,
      ← stripWhere, Option.mem_def.mp first]
    rfl
  exact eq_false_of_mem_head?_dropWhile start

/-- What is left of a text does not end with a character to be dropped at its two ends. -/
theorem getLast?_stripWhere (p : Char → Bool) (s : Text) :
    ∀ c ∈ (s.stripWhere p).getLast?, p c = false :=
  getLast?_dropEndWhile p (s.dropWhile p)

/-- A text is what is left of it without blank characters at its end, and those. -/
theorem exists_trimEnd_append (s : Text) :
    ∃ behind, s = s.trimEnd ++ behind ∧ ∀ c ∈ behind, isBlank c = true := by
  refine ⟨_, (dropEndWhile_append_takeWhile isBlank s).symm, fun c member => ?_⟩
  exact List.all_eq_true.mp List.all_takeWhile c (List.mem_reverse.mp member)

/-- A text that is trimmed at its end does not end with a blank character. -/
theorem getLast?_trimEnd (s : Text) : ∀ c ∈ s.trimEnd.getLast?, isBlank c = false :=
  getLast?_dropEndWhile isBlank s

/-- What is trimmed at the end of two texts is the end of the first only when the second is blank.
-/
theorem trimEnd_append (a b : Text) :
    (a ++ b).trimEnd = if b.trimEnd = [] then a.trimEnd else a ++ b.trimEnd := by
  unfold trimEnd dropEndWhile
  rw [List.reverse_append, List.dropWhile_append]
  by_cases blank : b.reverse.dropWhile isBlank = []
  · rw [if_pos (List.isEmpty_iff.mpr blank), blank, if_pos List.reverse_nil]
  · rw [if_neg (mt List.isEmpty_iff.mp blank), if_neg (mt List.reverse_eq_nil_iff.mp blank),
      List.reverse_append, List.reverse_reverse]

/-- A text is blank when each of its characters is. -/
theorem isAllBlank_iff : s.isAllBlank = true ↔ ∀ c ∈ s, isBlank c = true :=
  List.all_eq_true

/-- Trimming leaves nothing of a blank text, and of no other one. -/
theorem trimStart_eq_nil_iff : s.trimStart = [] ↔ s.isAllBlank = true :=
  List.dropWhile_eq_nil_iff.trans isAllBlank_iff.symm

/-- Trimming the start leaves something of a text that is not blank. -/
theorem trimStart_ne_nil (visible : s.isAllBlank = false) : s.trimStart ≠ [] :=
  fun none => Bool.false_ne_true (visible.symm.trans (trimStart_eq_nil_iff.mp none))

/-- Nothing is left of a blank text that is trimmed. -/
theorem trim_of_isAllBlank (blank : s.isAllBlank = true) : s.trim = [] := by
  rw [trim, stripWhere, show s.dropWhile isBlank = [] from trimStart_eq_nil_iff.mpr blank]
  rfl

/-- A blank text may stand before another that is trimmed at its start. -/
theorem trimStart_append_of_blank (blank : s.isAllBlank = true) (behind : Text) :
    (s ++ behind).trimStart = behind.trimStart :=
  List.dropWhile_append_of_pos (isAllBlank_iff.mp blank)

/-- Trimming the start of a text that is not blank does not reach behind it. -/
theorem trimStart_append_of_visible (visible : s.isAllBlank = false) (behind : Text) :
    (s ++ behind).trimStart = s.trimStart ++ behind := by
  rw [trimStart, List.dropWhile_append, if_neg]
  · rfl
  · rw [List.isEmpty_iff]
    exact trimStart_ne_nil visible

/-- Trimming the end leaves nothing of a blank text, and of no other one. -/
theorem trimEnd_eq_nil_iff : s.trimEnd = [] ↔ s.isAllBlank = true := by
  rw [trimEnd, dropEndWhile, List.reverse_eq_nil_iff, List.dropWhile_eq_nil_iff, isAllBlank_iff]
  simp only [List.mem_reverse]

/-- Trimming the end leaves something of a text that is not blank. -/
theorem trimEnd_ne_nil (visible : s.isAllBlank = false) : s.trimEnd ≠ [] :=
  fun none => Bool.false_ne_true (visible.symm.trans (trimEnd_eq_nil_iff.mp none))

/-- Trimming the end of a text that is not blank does not reach in front of it. -/
theorem trimEnd_append_of_visible (visible : behind.isAllBlank = false) (s : Text) :
    (s ++ behind).trimEnd = s ++ behind.trimEnd := by
  rw [trimEnd_append, if_neg (trimEnd_ne_nil visible)]

/-- Trimming stops at a character that is not blank. -/
theorem exists_trim_append_cons {c : Char} (solid : isBlank c = false) (front behind : Text) :
    ∃ rest, (front ++ c :: behind).trim = front.trimStart ++ c :: rest := by
  have last : trimEnd [c] = [c] := by
    apply dropEndWhile_eq_self
    intro d ending
    exact Option.some.inj ending ▸ solid
  have stop : ∃ rest, Text.trimEnd ([c] ++ behind) = c :: rest := by
    rw [trimEnd_append]
    split
    · exact ⟨[], last⟩
    · exact ⟨_, rfl⟩
  obtain ⟨rest, stop⟩ := stop
  refine ⟨rest, ?_⟩
  have opened : (front ++ c :: behind).dropWhile isBlank = front.trimStart ++ ([c] ++ behind) :=
    dropWhile_append_cons solid front behind
  rw [trim, stripWhere, opened]
  have closed := trimEnd_append front.trimStart ([c] ++ behind)
  rw [stop, if_neg (List.cons_ne_nil c rest)] at closed
  exact closed

/-- Trimming the end a second time changes nothing. -/
theorem trimEnd_trimEnd (s : Text) : s.trimEnd.trimEnd = s.trimEnd :=
  dropEndWhile_eq_self s.getLast?_trimEnd

/-- Trimming the end leaves a front. -/
theorem trimEnd_prefix (s : Text) : s.trimEnd <+: s := by
  obtain ⟨behind, whole, -⟩ := s.exists_trimEnd_append
  exact ⟨behind, whole.symm⟩

/-- A blank text may stand behind another that is trimmed. -/
theorem trim_append_of_isAllBlank (blank : behind.isAllBlank = true) (s : Text) :
    (s ++ behind).trim = s.trim := by
  have all : ∀ c ∈ behind, isBlank c = true := List.all_eq_true.mp blank
  rw [trim, trim, stripWhere, stripWhere, List.dropWhile_append]
  split
  · rename_i empty
    have none : List.dropWhile isBlank (behind ++ []) = List.dropWhile isBlank [] :=
      List.dropWhile_append_of_pos all
    rw [List.append_nil, List.dropWhile_nil] at none
    rw [List.isEmpty_iff.mp empty, none]
  · exact dropEndWhile_append_of_all all _

/-- Trimming the end first makes no difference to trimming. -/
theorem trim_trimEnd (s : Text) : s.trimEnd.trim = s.trim := by
  obtain ⟨behind, whole, blank⟩ := s.exists_trimEnd_append
  rw [← trim_append_of_isAllBlank (List.all_eq_true.mpr blank) s.trimEnd, ← whole]

/-- A line without the carriage returns at its end. -/
def withoutReturns (line : Text) : Text :=
  dropEndWhile (· == '\r') line

/-- A carriage return at the end may be dropped before all of them are. -/
theorem withoutReturns_withoutReturn (line : Text) :
    (withoutReturn line).withoutReturns = line.withoutReturns := by
  unfold withoutReturn
  cases cut : dropEnd? ['\r'] line with
  | none => rfl
  | some body =>
    rw [eq_of_dropEnd?_eq_some cut, Option.getD_some]
    exact (dropEndWhile_append_of_all (List.forall_mem_singleton.mpr rfl) body).symm

/-- A line is what it is without returns at its end, and blank characters behind. -/
theorem exists_withoutReturns_append (line : Text) :
    ∃ behind, line = line.withoutReturns ++ behind ∧ ∀ c ∈ behind, c = '\r' := by
  refine ⟨_, (dropEndWhile_append_takeWhile _ line).symm, fun c member => ?_⟩
  exact beq_iff_eq.mp (List.all_eq_true.mp List.all_takeWhile c (List.mem_reverse.mp member))

/-- Carriage returns at the end make no difference to trimming. -/
theorem trim_withoutReturns (line : Text) : line.withoutReturns.trim = line.trim := by
  obtain ⟨behind, whole, returns⟩ := exists_withoutReturns_append line
  rw [whole, trim_append_of_isAllBlank, ← whole]
  exact List.all_eq_true.mpr fun c member => by rw [returns c member]; decide

/-- Carriage returns at its end do not make a line blank, nor keep it from being so. -/
theorem isAllBlank_withoutReturns (line : Text) :
    line.withoutReturns.isAllBlank = line.isAllBlank := by
  obtain ⟨behind, whole, returns⟩ := exists_withoutReturns_append line
  have blank : behind.all isBlank = true :=
    List.all_eq_true.mpr fun c member => by rw [returns c member]; decide
  rw [whole, isAllBlank, isAllBlank, List.all_append, blank, Bool.and_true, ← whole]

/-- A line of a text stands in it. -/
theorem infix_of_mem_lines {line : Text} (member : line ∈ s.lines) : line <:+: s := by
  obtain ⟨terminated, listed, rfl⟩ := List.mem_map.mp member
  have within : terminated <:+: s := by
    have part := List.infix_of_mem_flatten listed
    rwa [flatten_terminatedLines] at part
  refine List.IsInfix.trans ?_ within
  unfold withoutTerminator
  split
  · exact List.infix_rfl
  · rename_i body cut
    rw [eq_of_dropEnd?_eq_some cut]
    refine List.IsInfix.trans ?_ (List.prefix_append body _).isInfix
    cases shorter : dropEnd? ['\r'] body with
    | none => exact List.infix_rfl
    | some front =>
      rw [eq_of_dropEnd?_eq_some shorter]
      exact (List.prefix_append front _).isInfix

/-- A character that ends no line stands in one. -/
theorem exists_mem_lines {c : Char} (member : c ∈ s) (solid : isBlank c = false) :
    ∃ line ∈ s.lines, c ∈ line := by
  have notNewline : c ≠ '\n' := fun same => absurd solid (by rw [same]; decide)
  have notReturn : c ≠ '\r' := fun same => absurd solid (by rw [same]; decide)
  induction s using line_induction with
  | last s whole =>
    refine ⟨s, ?_, member⟩
    rw [lines_of_not_mem whole (List.ne_nil_of_mem member)]
    exact List.mem_cons_self
  | line front rest whole ih =>
    rw [lines_append_cons whole]
    rcases List.mem_append.mp member with here | later
    · refine ⟨withoutReturn front, List.mem_cons_self, ?_⟩
      unfold withoutReturn
      cases cut : dropEnd? ['\r'] front with
      | none => exact here
      | some body =>
        rw [eq_of_dropEnd?_eq_some cut] at here
        exact (List.mem_append.mp here).resolve_right (by simpa using notReturn)
    · obtain ⟨line, listed, inside⟩ := ih ((List.mem_cons.mp later).resolve_left notNewline)
      exact ⟨line, List.mem_cons_of_mem _ listed, inside⟩

/-- No line holds a line feed. -/
theorem not_mem_of_mem_lines {line : Text} (member : line ∈ s.lines) : '\n' ∉ line := by
  induction s using line_induction with
  | last s whole =>
    by_cases empty : s = []
    · subst empty
      cases member
    · rw [lines_of_not_mem whole empty, List.mem_singleton] at member
      exact member ▸ whole
  | line front rest whole ih =>
    rw [lines_append_cons whole, List.mem_cons] at member
    rcases member with rfl | later
    · intro inside
      apply whole
      unfold withoutReturn at inside
      cases cut : dropEnd? ['\r'] front with
      | none => rwa [cut] at inside
      | some body =>
        rw [cut] at inside
        rw [eq_of_dropEnd?_eq_some cut]
        exact List.mem_append_left _ inside
    · exact ih later

end Scriptorium.Text
