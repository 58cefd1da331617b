import Scriptorium.Proofs.Latex.Repair
/-! # Quotes that become one

Two commands of one kind become one where nothing but blank characters stands between them.
Whether they do at a place of a text shows at its two sides (`Latex.Meets`): where no commands
meet the text may be cut (`Latex.mergeQuotes_append`). A line that cannot hold such a command is
the same before and after (`Latex.plainLines_mergeQuotes`), so verbatim blocks start and end
where they did (`Latex.verbatimBehind_mergeQuotes`).
-/

namespace Scriptorium.Latex

variable {s front behind part repeated other line : Text}

/-- The commands that a quote starts and ends with. -/
def quoteCommands : List Text :=
  [openEnvironment "quote", closeEnvironment "quote"]

/-- A text in which quotes that follow or enclose each other directly are one. -/
def mergeQuotes (s : Text) : Text :=
  mergeTwice (closeEnvironment "quote") (mergeTwice (openEnvironment "quote") s)

/-- A command stands at both sides of a place, blank characters aside. -/
def Meets (repeated front behind : Text) : Prop :=
  repeated <:+ front.trimEnd ∧ repeated <+: behind.trimStart

/-- One of the characters at the two sides of a place is blank, unless a text ends there. -/
def BlankBetween (front behind : Text) : Prop :=
  (∀ c ∈ front.getLast?, isBlank c = true) ∨ ∀ c ∈ behind.head?, isBlank c = true

/-- A text that holds characters, none of them blank. -/
structure Solid (s : Text) : Prop where
  nonempty : s ≠ []
  solid : ∀ c ∈ s, isBlank c = false

private theorem solid_of_any_isBlank (nonempty : s ≠ []) (none : s.any isBlank = false) : Solid s :=
  ⟨nonempty, fun c member => eq_false_of_ne_true (List.any_eq_false.mp none c member)⟩

private theorem solid_openEnvironment_quote : Solid (openEnvironment "quote") :=
  solid_of_any_isBlank (by decide) (by decide)

private theorem solid_closeEnvironment_quote : Solid (closeEnvironment "quote") :=
  solid_of_any_isBlank (by decide) (by decide)

/-- The commands of quotations hold no blank character. -/
theorem solid_of_mem_quoteCommands (member : repeated ∈ quoteCommands) : Solid repeated := by
  rcases List.mem_cons.mp member with rfl | member
  · exact solid_openEnvironment_quote
  · exact List.mem_singleton.mp member ▸ solid_closeEnvironment_quote

/-! ## Places in a text -/

namespace Solid

/-- Text that holds a solid one is not blank. -/
theorem isAllBlank (solid : Solid s) (behind : Text) : (s ++ behind).isAllBlank = false := by
  obtain ⟨c, rest, rfl⟩ := List.exists_cons_of_ne_nil solid.nonempty
  exact List.all_eq_false.mpr ⟨c, List.mem_cons_self, by simp [solid.solid c List.mem_cons_self]⟩

/-- In front of a solid text there is nothing to trim. -/
theorem trimStart_append (solid : Solid s) (behind : Text) :
    (s ++ behind).trimStart = s ++ behind := by
  obtain ⟨c, rest, rfl⟩ := List.exists_cons_of_ne_nil solid.nonempty
  exact List.dropWhile_cons_of_neg (by simp [solid.solid c List.mem_cons_self])

private theorem trimStart_append_append (solid : Solid s) (front behind : Text) :
    (front ++ (s ++ behind)).trimStart = front.trimStart ++ (s ++ behind) := by
  cases visible : front.isAllBlank with
  | true =>
    rw [Text.trimStart_append_of_blank visible, Text.trimStart_eq_nil_iff.mpr visible,
      solid.trimStart_append, List.nil_append]
  | false => exact Text.trimStart_append_of_visible visible _

/-- Behind a solid text as much is trimmed as there is behind it. -/
theorem trimEnd_append (solid : Solid s) (behind : Text) :
    (s ++ behind).trimEnd = s ++ behind.trimEnd := by
  rw [Text.trimEnd_append]
  split
  · rename_i none
    rw [none, List.append_nil]
    exact Text.dropEndWhile_eq_self fun c last => solid.solid c (List.mem_of_getLast? last)
  · rfl

private theorem trimEnd_append_append (solid : Solid s) (front behind : Text) :
    (front ++ (s ++ behind)).trimEnd = front ++ (s ++ behind.trimEnd) := by
  rw [Text.trimEnd_append_of_visible (solid.isAllBlank behind), solid.trimEnd_append]

/-- A solid text at the end of another stays there when that is trimmed. -/
theorem suffix_trimEnd_append (solid : Solid s) (front : Text) : s <:+ (front ++ s).trimEnd := by
  have trimmed := solid.trimEnd_append_append front []
  rw [List.append_nil] at trimmed
  rw [trimmed]
  exact ⟨front, congrArg (front ++ ·) (List.append_nil s).symm⟩

/-- A text without blank characters does not reach across a place beside one. -/
theorem prefix_of_prefix_append (solid : Solid s) (nonempty : part ≠ [])
    (between : BlankBetween part behind) (start : s <+: part ++ behind) : s <+: part := by
  rcases List.prefix_or_prefix_of_prefix start (List.prefix_append part behind) with
    inside | ⟨later, rfl⟩
  · exact inside
  · cases later with
    | nil => exact ⟨[], by simp only [List.append_nil]⟩
    | cons c later =>
      obtain ⟨rest, reached⟩ := (List.prefix_append_right_inj part).mp start
      rcases between with last | first
      · have held : part.getLast nonempty ∈ part := List.getLast_mem nonempty
        have blank := last _ (List.getLast?_eq_some_getLast nonempty)
        rw [solid.solid _ (List.mem_append_left _ held)] at blank
        cases blank
      · have blank := first c (by rw [← reached]; rfl)
        rw [solid.solid c (List.mem_append_right part List.mem_cons_self)] at blank
        cases blank

/-- A solid text does not reach across a place with a blank character beside it. -/
theorem suffix_of_suffix_append (solid : Solid s) (nonempty : part ≠ [])
    (between : BlankBetween front part) (ends : s <:+ front ++ part) : s <:+ part := by
  rcases List.suffix_or_suffix_of_suffix ends (List.suffix_append front part) with
    inside | ⟨earlier, rfl⟩
  · exact inside
  · rcases List.eq_nil_or_concat earlier with rfl | ⟨earlier, c, rfl⟩
    · exact List.suffix_rfl
    · exfalso
      rw [List.concat_eq_append] at ends solid
      obtain ⟨rest, reached⟩ := List.suffix_append_self_iff.mp ends
      rcases between with last | first
      · have blank := last c (by rw [← reached, ← List.append_assoc]; exact List.getLast?_concat)
        rw [solid.solid c (by simp)] at blank
        cases blank
      · obtain ⟨d, part, rfl⟩ := List.exists_cons_of_ne_nil nonempty
        have blank := first d rfl
        rw [solid.solid d (by simp)] at blank
        cases blank

end Solid

/-- A place has a blank character beside it when less stands before it, too. -/
theorem BlankBetween.of_suffix (between : BlankBetween front behind) (suffix : part <:+ front) :
    BlankBetween part behind := by
  obtain ⟨earlier, rfl⟩ := suffix
  refine between.imp_left fun last c member => last c ?_
  rw [List.getLast?_append, Option.mem_def.mp member, Option.some_or]
  rfl

/-- A command that meets another one behind a part of a text does so behind the whole. -/
theorem Meets.mono (nonempty : repeated ≠ []) (meets : Meets repeated part behind)
    (suffix : part <:+ front) : Meets repeated front behind := by
  refine ⟨meets.1.trans ?_, meets.2⟩
  obtain ⟨earlier, rfl⟩ := suffix
  rw [Text.trimEnd_append, if_neg]
  · exact List.suffix_append earlier part.trimEnd
  · exact fun none => nonempty (List.suffix_nil.mp (none ▸ meets.1))

/-! ## Repeated commands -/

private theorem twice?_append_append (solid : Solid repeated) {between : Text}
    (blank : between.isAllBlank = true) (rest : Text) :
    twice? repeated (repeated ++ (between ++ (repeated ++ rest))) = some ((), rest) := by
  rw [twice?, Option.bind_eq_bind, Scanner.literal_append, Option.bind_some]
  dsimp only
  rw [Text.trimStart_append_of_blank blank, solid.trimStart_append, Scanner.literal_append]

private theorem suffix_of_twice? (s : Text) (value : Unit) (rest : Text)
    (read : twice? repeated s = some (value, rest)) : rest <:+ s := by
  obtain ⟨between, -, rfl⟩ := eq_of_twice?_eq_some read
  exact ⟨repeated ++ (between ++ repeated), by simp only [List.append_assoc]⟩

private theorem length_lt_of_twice? (solid : Solid repeated) (s : Text) (value : Unit) (rest : Text)
    (read : twice? repeated s = some (value, rest)) : (repeated ++ rest).length < s.length := by
  obtain ⟨between, -, rfl⟩ := eq_of_twice?_eq_some read
  have positive := List.length_pos_iff.mpr solid.nonempty
  simp only [List.length_append]
  omega

/-- Where no commands meet a match does not reach across. -/
theorem twice?_append (solid : Solid repeated) (nonempty : part ≠ [])
    (between : BlankBetween part behind) (apart : ¬ Meets repeated part behind) :
    twice? repeated (part ++ behind) =
      (twice? repeated part).map fun found => (found.1, found.2 ++ behind) := by
  cases read : twice? repeated part with
  | some found =>
    obtain ⟨blanks, blank, whole⟩ := eq_of_twice?_eq_some read
    rw [whole, Option.map_some]
    simpa only [List.append_assoc] using twice?_append_append solid blank (found.2 ++ behind)
  | none =>
    cases across : twice? repeated (part ++ behind) with
    | none => rfl
    | some found =>
      exfalso
      obtain ⟨blanks, blank, whole⟩ := eq_of_twice?_eq_some across
      obtain ⟨later, rfl⟩ := solid.prefix_of_prefix_append nonempty between ⟨_, whole.symm⟩
      rw [List.append_assoc, List.append_cancel_left_eq] at whole
      have trimmed := congrArg Text.trimStart whole
      rw [Text.trimStart_append_of_blank blank, solid.trimStart_append] at trimmed
      cases visible : Text.isAllBlank later with
      | true =>
        rw [Text.trimStart_append_of_blank visible] at trimmed
        have ends : (repeated ++ later).trimEnd = repeated := by
          rw [solid.trimEnd_append, Text.trimEnd_eq_nil_iff.mpr visible, List.append_nil]
        exact apart ⟨⟨[], ends.symm⟩, found.2, trimmed.symm⟩
      | false =>
        rw [Text.trimStart_append_of_visible visible] at trimmed
        have suffix : Text.trimStart later <:+ repeated ++ later :=
          (List.dropWhile_suffix isBlank).trans (List.suffix_append repeated later)
        obtain ⟨rest, reached⟩ :=
          solid.prefix_of_prefix_append (Text.trimStart_ne_nil visible) (between.of_suffix suffix)
            ⟨_, trimmed.symm⟩
        have here : later = later.takeWhile isBlank ++ (repeated ++ rest) := by
          rw [reached]
          exact List.takeWhile_append_dropWhile.symm
        rw [here, twice?_append_append solid List.all_takeWhile] at read
        cases read

/-! ## Merging -/

/-- What is the same for a repeated command and a single one, whatever stands around, is the
same before and after. -/
theorem mergeTwice_invariant {β : Type} {f : Text → β}
    (same : ∀ front between behind, Text.isAllBlank between = true →
      f (front ++ (repeated ++ behind)) =
        f (front ++ (repeated ++ (between ++ (repeated ++ behind)))))
    (s : Text) : f (mergeTwice repeated s) = f s := by
  refine Scanner.replaceAll_invariant (fun s value rest read => ?_) s
  obtain ⟨between, blank, rfl⟩ := eq_of_twice?_eq_some read
  refine ⟨repeated ++ (between ++ repeated), by simp only [List.append_assoc], ?_⟩
  intro front behind
  simpa only [List.append_assoc] using same front between behind blank

private theorem getLast?_mergeTwice (nonempty : repeated ≠ []) (s : Text) :
    (mergeTwice repeated s).getLast? = s.getLast? := by
  apply mergeTwice_invariant
  intro front between behind blank
  simp only [List.getLast?_append, List.getLast?_eq_some_getLast nonempty, Option.some_or,
    Option.or_assoc]

private theorem head?_mergeTwice (nonempty : repeated ≠ []) (s : Text) :
    (mergeTwice repeated s).head? = s.head? := by
  obtain ⟨c, rest, rfl⟩ := List.exists_cons_of_ne_nil nonempty
  apply mergeTwice_invariant
  intro front between behind blank
  simp only [List.head?_append, List.cons_append, List.head?_cons]

/-- No other command that is not longer comes to stand at the end of a text. -/
theorem suffix_mergeTwice_iff (solid : Solid repeated) (fits : other.length ≤ repeated.length)
    (s : Text) : other <:+ (mergeTwice repeated s).trimEnd ↔ other <:+ s.trimEnd := by
  have near (front behind : Text) : other <:+ front ++ (repeated ++ behind) ↔
      other <:+ repeated ++ behind := by
    refine ⟨fun ends => ?_, List.suffix_append_of_suffix⟩
    refine List.suffix_of_suffix_length_le ends (List.suffix_append _ _) ?_
    rw [List.length_append]
    omega
  refine Eq.to_iff (@mergeTwice_invariant repeated Prop (fun s => other <:+ s.trimEnd) ?_ s)
  intro front between behind blank
  have regrouped : front ++ (repeated ++ (between ++ (repeated ++ behind))) =
      (front ++ (repeated ++ between)) ++ (repeated ++ behind) := by
    simp only [List.append_assoc]
  rw [regrouped, solid.trimEnd_append_append, solid.trimEnd_append_append, near, near]

/-- No other command that is not longer comes to stand at the start of a text. -/
theorem prefix_mergeTwice_iff (solid : Solid repeated) (fits : other.length ≤ repeated.length)
    (s : Text) : other <+: (mergeTwice repeated s).trimStart ↔ other <+: s.trimStart := by
  have near (front behind : Text) : other <+: front ++ (repeated ++ behind) ↔
      other <+: front ++ repeated := by
    rw [← List.append_assoc]
    refine ⟨fun starts => ?_, List.prefix_append_of_prefix⟩
    refine List.prefix_of_prefix_length_le starts (List.prefix_append _ _) ?_
    rw [List.length_append]
    omega
  refine Eq.to_iff (@mergeTwice_invariant repeated Prop (fun s => other <+: s.trimStart) ?_ s)
  intro front between behind blank
  rw [solid.trimStart_append_append, solid.trimStart_append_append, near, near]

private theorem mergeTwice_append (solid : Solid repeated) (between : BlankBetween front behind)
    (apart : ¬ Meets repeated front behind) :
    mergeTwice repeated (front ++ behind) =
      mergeTwice repeated front ++ mergeTwice repeated behind := by
  refine Scanner.replaceAll_append (fun s value rest read => ?_) suffix_of_twice? front ?_
  · have shorter := length_lt_of_twice? solid s value rest read
    rw [List.length_append] at shorter
    omega
  · intro part nonempty suffix
    exact twice?_append solid nonempty (between.of_suffix suffix)
      fun meets => apart (meets.mono solid.nonempty suffix)

/-- A text may be cut where no commands meet. -/
theorem mergeQuotes_append (between : BlankBetween front behind)
    (apart : ∀ repeated ∈ quoteCommands, ¬ Meets repeated front behind) :
    mergeQuotes (front ++ behind) = mergeQuotes front ++ mergeQuotes behind := by
  obtain ⟨opening, closing, -⟩ := List.forall_mem_cons.mp apart |>.imp_right List.forall_mem_cons.mp
  have fits : (closeEnvironment "quote").length ≤ (openEnvironment "quote").length := by decide
  have nonempty := solid_openEnvironment_quote.nonempty
  rw [mergeQuotes, mergeTwice_append solid_openEnvironment_quote between opening,
    mergeTwice_append solid_closeEnvironment_quote]
  · rfl
  · rwa [BlankBetween, getLast?_mergeTwice nonempty, head?_mergeTwice nonempty]
  · rwa [Meets, suffix_mergeTwice_iff solid_openEnvironment_quote fits,
      prefix_mergeTwice_iff solid_openEnvironment_quote fits]

/-- A text stays exactly when it does not hold a command twice with blank characters between. -/
theorem mergeTwice_eq_self_iff (solid : Solid repeated) :
    mergeTwice repeated s = s ↔ ∀ between, Text.isAllBlank between = true →
      ¬ repeated ++ (between ++ repeated) <:+: s := by
  refine (Scanner.replaceAll_eq_self_iff (length_lt_of_twice? solid)).trans ⟨?_, ?_⟩
  · rintro absent between blank ⟨front, behind, rfl⟩
    have here := absent (repeated ++ (between ++ (repeated ++ behind)))
      ⟨front, by simp only [List.append_assoc]⟩
    rw [twice?_append_append solid blank] at here
    cases here
  · intro apart part suffix
    cases read : twice? repeated part with
    | none => rfl
    | some found =>
      obtain ⟨between, blank, rfl⟩ := eq_of_twice?_eq_some read
      refine absurd (List.IsInfix.trans ⟨[], found.2, ?_⟩ suffix.isInfix) (apart between blank)
      simp only [List.append_assoc, List.nil_append]

private theorem shrinks_mergeTwice (solid : Solid repeated) : Shrinks (mergeTwice repeated) :=
  Scanner.shrinks_replaceAll (length_lt_of_twice? solid)

/-- Merging quotations shortens what it changes. -/
theorem shrinks_mergeQuotes : Shrinks mergeQuotes :=
  (shrinks_mergeTwice solid_closeEnvironment_quote).comp
    (shrinks_mergeTwice solid_openEnvironment_quote)

/-- Merging quotations keeps the last character. -/
theorem getLast?_mergeQuotes (s : Text) : (mergeQuotes s).getLast? = s.getLast? := by
  rw [mergeQuotes, getLast?_mergeTwice solid_closeEnvironment_quote.nonempty,
    getLast?_mergeTwice solid_openEnvironment_quote.nonempty]

/-- Merging quotations keeps the first character. -/
theorem head?_mergeQuotes (s : Text) : (mergeQuotes s).head? = s.head? := by
  rw [mergeQuotes, head?_mergeTwice solid_closeEnvironment_quote.nonempty,
    head?_mergeTwice solid_openEnvironment_quote.nonempty]

/-- Merging quotations changes nothing exactly when no command stands twice with blank characters
between. -/
theorem mergeQuotes_eq_self_iff : mergeQuotes s = s ↔ ∀ repeated ∈ quoteCommands,
    ∀ between, Text.isAllBlank between = true → ¬ repeated ++ (between ++ repeated) <:+: s := by
  have opening := shrinks_mergeTwice solid_openEnvironment_quote
  have closing := shrinks_mergeTwice solid_closeEnvironment_quote
  rw [mergeQuotes, closing.comp_eq_self_iff opening,
    mergeTwice_eq_self_iff solid_openEnvironment_quote,
    mergeTwice_eq_self_iff solid_closeEnvironment_quote, quoteCommands, List.forall_mem_cons,
    List.forall_mem_singleton]

/-! ## Lines without commands -/

/-- Whether a line shows something, and lacks a letter of the commands of quotes. -/
def isPlain (line : Text) : Bool :=
  !line.isAllBlank && !line.contains 'q'

/-- The lines of a text that show something and cannot hold a command of a quote. -/
def plainLines (s : Text) : List Text :=
  (s.splitOn '\n').filter isPlain

/-- Those behind the first line. -/
def laterPlainLines (s : Text) : List Text :=
  (s.splitOn '\n').tail.filter isPlain

private theorem lineWise_plainLines : LineWise plainLines where
  empty := rfl
  newline front behind := by
    rw [plainLines, Text.splitOn_append_cons, List.filter_append]
    rfl

private theorem isPlain_of_mem (member : 'q' ∈ line) : isPlain line = false := by
  rw [isPlain, List.contains_iff_mem.mpr member, Bool.not_true, Bool.and_false]

private theorem isPlain_of_isAllBlank (blank : line.isAllBlank = true) : isPlain line = false := by
  rw [isPlain, blank, Bool.not_true, Bool.false_and]

private theorem laterPlainLines_append (whole : '\n' ∉ front) (behind : Text) :
    laterPlainLines (front ++ behind) = laterPlainLines behind := by
  rw [laterPlainLines, Text.splitOn_append_of_not_mem whole, List.tail_modifyHead]
  rfl

private theorem laterPlainLines_append_cons (whole : '\n' ∉ front) (behind : Text) :
    laterPlainLines (front ++ '\n' :: behind) = plainLines behind := by
  rw [laterPlainLines, Text.splitOn_append_cons, Text.splitOn_of_not_mem whole]
  rfl

private theorem plainLines_append (whole : '\n' ∉ front) (member : 'q' ∈ front) (behind : Text) :
    plainLines (front ++ behind) = laterPlainLines behind := by
  rw [plainLines, Text.splitOn_append_of_not_mem whole, laterPlainLines]
  cases parts : behind.splitOn '\n' with
  | nil => exact absurd parts (Text.splitOn_ne_nil _ _)
  | cons part parts =>
    rw [List.modifyHead_cons, List.filter_cons_of_neg, List.tail_cons]
    rw [isPlain_of_mem (List.mem_append_left part member)]
    decide

private theorem plainLines_of_not_mem (whole : '\n' ∉ line) :
    plainLines line = [line].filter isPlain := by
  rw [plainLines, Text.splitOn_of_not_mem whole]

/-- Blank lines in front of a command do not count. -/
theorem plainLines_blank_append (whole : '\n' ∉ repeated) (member : 'q' ∈ repeated)
    (blank : front.isAllBlank = true) (behind : Text) :
    plainLines (front ++ (repeated ++ behind)) = laterPlainLines behind := by
  induction front using Text.line_induction with
  | last front whole' =>
    rw [← List.append_assoc]
    exact plainLines_append (by simp [whole, whole']) (List.mem_append_right front member) behind
  | line first rest whole' ih =>
    rw [Text.isAllBlank_iff, List.forall_mem_append, List.forall_mem_cons] at blank
    rw [List.append_assoc, List.cons_append, lineWise_plainLines.newline,
      ih (Text.isAllBlank_iff.mpr blank.2.2), plainLines_of_not_mem whole',
      List.filter_cons_of_neg, List.filter_nil, List.nil_append]
    rw [isPlain_of_isAllBlank (Text.isAllBlank_iff.mpr blank.1)]
    decide

/-- Merging one command keeps the plain lines. -/
theorem plainLines_mergeTwice (whole : '\n' ∉ repeated) (member : 'q' ∈ repeated) (s : Text) :
    plainLines (mergeTwice repeated s) = plainLines s := by
  apply mergeTwice_invariant
  intro front between behind blank
  induction front using Text.line_induction with
  | line first rest whole' ih =>
    simp only [List.append_assoc, List.cons_append, lineWise_plainLines.newline, ih]
  | last front whole' =>
    have apart : '\n' ∉ front ++ repeated := by simp [whole, whole']
    have held : 'q' ∈ front ++ repeated := List.mem_append_right front member
    rw [← List.append_assoc, ← List.append_assoc, plainLines_append apart held,
      plainLines_append apart held]
    rcases Text.line_cases between with single | ⟨first, rest, single, rfl⟩
    · rw [laterPlainLines_append single, laterPlainLines_append whole]
    · rw [Text.isAllBlank_iff, List.forall_mem_append, List.forall_mem_cons] at blank
      rw [← plainLines_blank_append whole member (Text.isAllBlank_iff.mpr blank.2.2) behind,
        List.append_assoc, List.cons_append, laterPlainLines_append_cons single]

/-- Merging quotations keeps the plain lines. -/
theorem plainLines_mergeQuotes (s : Text) : plainLines (mergeQuotes s) = plainLines s := by
  rw [mergeQuotes, plainLines_mergeTwice (by decide) (by decide),
    plainLines_mergeTwice (by decide) (by decide)]

/-! ## Verbatim blocks -/

/-- Whether the lines behind some lines are verbatim. -/
def verbatimAfter (inVerbatim : Bool) (lines : List Text) : Bool :=
  lines.foldl verbatimFrom inVerbatim

/-- Lines are repaired behind others from the state that those lead to. -/
theorem repairLines_append (inVerbatim : Bool) (above below : List Text) :
    repairLines inVerbatim (above ++ below) =
      repairLines inVerbatim above ++ repairLines (verbatimAfter inVerbatim above) below := by
  induction above generalizing inVerbatim with
  | nil => rfl
  | cons line above ih =>
    rw [List.cons_append, repairLines, repairLines, ih]
    rfl

/-- A line that holds a character of neither command does not start or end a verbatim block. -/
theorem verbatimFrom_of_mem {c : Char} (solid : isBlank c = false)
    (absent : c ∉ openEnvironment "verbatim" ++ closeEnvironment "verbatim") (member : c ∈ line)
    (inVerbatim : Bool) : verbatimFrom inVerbatim line = inVerbatim := by
  have kept : c ∈ line.trim := Text.mem_stripWhere member solid
  rw [verbatimFrom, if_neg, if_neg]
  · exact fun same => absent (List.mem_append_right _ (same ▸ kept))
  · exact fun same => absent (List.mem_append_left _ (same ▸ kept))

private theorem verbatimFrom_of_isAllBlank (blank : line.isAllBlank = true) (inVerbatim : Bool) :
    verbatimFrom inVerbatim line = inVerbatim := by
  rw [verbatimFrom, Text.trim_of_isAllBlank blank]
  rfl

private theorem verbatimFrom_of_not_isPlain (notPlain : isPlain line = false) (inVerbatim : Bool) :
    verbatimFrom inVerbatim line = inVerbatim := by
  rcases Bool.and_eq_false_iff.mp notPlain with blank | held
  · exact verbatimFrom_of_isAllBlank (by simpa using blank) inVerbatim
  · exact verbatimFrom_of_mem (by decide) (by decide) (by simpa using held : 'q' ∈ line) inVerbatim

private theorem verbatimAfter_filter (inVerbatim : Bool) (lines : List Text) :
    verbatimAfter inVerbatim (lines.filter isPlain) = verbatimAfter inVerbatim lines := by
  induction lines generalizing inVerbatim with
  | nil => rfl
  | cons line lines ih =>
    cases plain : isPlain line with
    | true =>
      rw [List.filter_cons_of_pos plain]
      exact ih _
    | false =>
      rw [List.filter_cons_of_neg (by rw [plain]; decide), ih]
      exact congrArg (verbatimAfter · lines) (verbatimFrom_of_not_isPlain plain inVerbatim).symm

/-- Whether the line behind a text is verbatim. -/
def verbatimBehind (inVerbatim : Bool) (s : Text) : Bool :=
  verbatimAfter inVerbatim (s.splitOn '\n')

/-- The state behind two texts with a line feed between them is told from the one behind the first.
-/
theorem verbatimBehind_append_cons (inVerbatim : Bool) (front behind : Text) :
    verbatimBehind inVerbatim (front ++ '\n' :: behind) =
      verbatimBehind (verbatimBehind inVerbatim front) behind := by
  rw [verbatimBehind, Text.splitOn_append_cons, verbatimAfter, List.foldl_append]
  rfl

/-- The state behind a text of one line is told by that line. -/
theorem verbatimBehind_of_not_mem (whole : '\n' ∉ line) (inVerbatim : Bool) :
    verbatimBehind inVerbatim line = verbatimFrom inVerbatim line := by
  rw [verbatimBehind, Text.splitOn_of_not_mem whole]
  rfl

/-- Behind the empty text the state is the one before it. -/
theorem verbatimBehind_nil (inVerbatim : Bool) : verbatimBehind inVerbatim [] = inVerbatim :=
  (verbatimBehind_of_not_mem List.not_mem_nil inVerbatim).trans
    (verbatimFrom_of_isAllBlank rfl inVerbatim)

/-- An empty line changes nothing of the state. -/
theorem verbatimBehind_cons (inVerbatim : Bool) (s : Text) :
    verbatimBehind inVerbatim ('\n' :: s) = verbatimBehind inVerbatim s := by
  have behind := verbatimBehind_append_cons inVerbatim [] s
  rwa [verbatimBehind_nil, List.nil_append] at behind

/-- Merging quotations keeps the state behind a text. -/
theorem verbatimBehind_mergeQuotes (inVerbatim : Bool) (s : Text) :
    verbatimBehind inVerbatim (mergeQuotes s) = verbatimBehind inVerbatim s := by
  rw [verbatimBehind, verbatimBehind, ← verbatimAfter_filter,
    ← verbatimAfter_filter inVerbatim (s.splitOn '\n')]
  exact congrArg (verbatimAfter inVerbatim) (plainLines_mergeQuotes s)

end Scriptorium.Latex
