import Mathlib.Data.Bool.AllAny
import Mathlib.Data.List.Forall2
import Mathlib.Data.List.Pairwise
import Scriptorium.Proofs.Latex.Escape
import Scriptorium.Proofs.Line
import Scriptorium.Proofs.Text.Scan
/-! # Reading escaped text back

The ten sequences that the reserved characters are written as (`Latex.escapeSequences`) form a
prefix code: none of them starts another one (`Latex.eq_of_prefix_sequence`), and each begins
with a backslash, which nothing else is written with. Escaping neither makes a line a comment nor
keeps it from being one (`Latex.isComment_escapeLine`), so it shows which lines are escaped, and
a text is read back from what is written for it (`Latex.escape_decodable`).
-/

namespace Scriptorium.Latex

variable {c : Char} {s line part rest : Text} {first second : Char × Text}

/-! ## The code -/

/-- The ten characters that LaTeX reserves, and the sequences that they are written as. -/
def escapeSequences : List (Char × Text) :=
  [('\\', "\\textbackslash\x7b\x7d".toList), ('\x7b', "\\\x7b".toList),
    ('\x7d', "\\\x7d".toList), ('$', "\\$".toList), ('&', "\\&".toList),
    ('#', "\\#".toList), ('_', "\\_".toList), ('%', "\\%".toList),
    ('~', "\\textasciitilde\x7b\x7d".toList), ('^', "\\textasciicircum\x7b\x7d".toList)]

/-- The ten characters that LaTeX reserves. -/
def reservedChars : Text :=
  escapeSequences.map Prod.fst

/-- What is written for a character: its sequence where it is reserved, and else itself. -/
inductive Spells : Char → Text → Prop
  | sequence {c : Char} {sequence : Text} : (c, sequence) ∈ escapeSequences → Spells c sequence
  | plain {c : Char} : c ∉ reservedChars → Spells c [c]

/-- Every reserved character is written as its sequence. -/
theorem escapeChar_eq_sequence : ∀ pair ∈ escapeSequences, escapeChar pair.1 = pair.2 := by
  decide

private theorem escapeChar_eq_self (plain : c ∉ reservedChars) : escapeChar c = [c] := by
  have other {d : Char} (reserved : d ∈ reservedChars) : c ≠ d := fun same =>
    plain (same ▸ reserved)
  have signs : "\x7b\x7d$&#_%".toList ⊆ reservedChars := by decide
  rw [escapeChar, if_neg (other (by decide)), if_neg (other (by decide)),
    if_neg (other (by decide)), if_neg fun sign => plain (signs (List.contains_iff_mem.mp sign))]

private theorem mem_or_escapeChar_eq (c : Char) :
    (c, escapeChar c) ∈ escapeSequences ∨ c ∉ reservedChars ∧ escapeChar c = [c] := by
  by_cases reserved : c ∈ reservedChars
  · obtain ⟨pair, listed, rfl⟩ := List.mem_map.mp reserved
    exact .inl (escapeChar_eq_sequence pair listed ▸ listed)
  · exact .inr ⟨reserved, escapeChar_eq_self reserved⟩

/-- **A character is written in one way**, the one that is computed. -/
theorem spells_iff : Spells c part ↔ part = escapeChar c := by
  constructor
  · rintro (listed | plain)
    · exact (escapeChar_eq_sequence _ listed).symm
    · exact (escapeChar_eq_self plain).symm
  · rintro rfl
    rcases mem_or_escapeChar_eq c with listed | ⟨plain, same⟩
    · exact .sequence listed
    · rw [same]
      exact .plain plain

private theorem exists_sequence_eq (listed : first ∈ escapeSequences) :
    ∃ behind, first.2 = '\\' :: behind := by
  have all : ∀ pair ∈ escapeSequences, pair.2.head? = some '\\' := by decide
  exact List.head?_eq_some_iff.mp (all first listed)

/-- **No sequence starts another one.** -/
theorem eq_of_prefix_sequence (listed : first ∈ escapeSequences)
    (other : second ∈ escapeSequences) (start : first.2 <+: second.2) : first = second := by
  have apart : escapeSequences.Pairwise fun one two => ¬ one.2 <+: two.2 ∧ ¬ two.2 <+: one.2 := by
    decide
  have : Std.Symm fun one two : Char × Text => ¬ one.2 <+: two.2 ∧ ¬ two.2 <+: one.2 :=
    ⟨fun _ _ both => both.symm⟩
  by_contra distinct
  exact (apart.forall listed other distinct).1 start

/-! ## Reading sequences -/

/-- The reserved character that the start of a text stands for. -/
def escapeSequence? : Scanner Char := fun s =>
  escapeSequences.findSome? fun pair =>
    (Text.dropStart? pair.2 s).map fun rest => (pair.1, rest)

/-- A line as it was before it was escaped. Comment lines were left alone. -/
def unescapeLine (line : Text) : Text :=
  if Line.isComment line then line else Scanner.replaceAll escapeSequence? (fun c => [c]) line

/-- A text as it was before it was escaped. -/
def unescape (s : Text) : Text :=
  Text.join ['\n'] ((s.splitOn '\n').map unescapeLine)

/-- A sequence is read, whatever follows. -/
theorem escapeSequence?_append (listed : first ∈ escapeSequences) (rest : Text) :
    escapeSequence? (first.2 ++ rest) = some (first.1, rest) := by
  have own : Text.dropStart? first.2 (first.2 ++ rest) = some rest :=
    Text.dropStart?_eq_some_iff.mpr rfl
  have others (pair : Char × Text) (member : pair ∈ escapeSequences) (other : pair ≠ first) :
      Text.dropStart? pair.2 (first.2 ++ rest) = none := by
    refine Text.dropStart?_eq_none_iff.mpr fun start => other ?_
    rcases List.prefix_or_prefix_of_prefix start (List.prefix_append _ rest) with short | long
    · exact eq_of_prefix_sequence member listed short
    · exact (eq_of_prefix_sequence listed member long).symm
  obtain ⟨before, after, parts, fresh⟩ := List.eq_append_cons_of_mem listed
  refine List.findSome?_eq_some_iff.mpr ⟨before, first, after, parts, by rw [own]; rfl, ?_⟩
  intro pair member
  rw [others pair (parts ▸ List.mem_append_left _ member) fun same => fresh (same ▸ member)]
  rfl

/-- Every sequence begins with a backslash. -/
theorem escapeSequence?_cons_of_ne (other : c ≠ '\\') (rest : Text) :
    escapeSequence? (c :: rest) = none := by
  refine List.findSome?_eq_none_iff.mpr fun pair listed => ?_
  obtain ⟨behind, written⟩ := exists_sequence_eq listed
  rw [written, Text.dropStart?, if_neg (Ne.symm other)]
  rfl

/-- What is written for characters is read as these characters. -/
theorem replaceAll_escapeSequence? (s : Text) :
    Scanner.replaceAll escapeSequence? (fun c => [c]) (s.flatMap escapeChar) = s := by
  induction s with
  | nil => exact Scanner.replaceAll_nil
  | cons c s ih =>
    rw [List.flatMap_cons]
    rcases mem_or_escapeChar_eq c with listed | ⟨plain, same⟩
    · have shorter : (s.flatMap escapeChar).length <
          (escapeChar c ++ s.flatMap escapeChar).length := by
        obtain ⟨behind, written⟩ := exists_sequence_eq listed
        rw [show escapeChar c = '\\' :: behind from written, List.length_append, List.length_cons]
        omega
      rw [Scanner.replaceAll_of_some (escapeSequence?_append listed _) shorter, ih,
        List.singleton_append]
    · have other : c ≠ '\\' := fun same => plain (same ▸ by decide)
      rw [same, List.singleton_append,
        Scanner.replaceAll_of_none (escapeSequence?_cons_of_ne other _), ih]

/-! ## Lines -/

/-- **What is written for a line is a comment** exactly when the line is one. -/
theorem isComment_escapeLine (line : Text) :
    Line.isComment (escapeLine line) = Line.isComment line := by
  unfold escapeLine
  split
  · rfl
  · rename_i plain
    rw [Bool.not_eq_true] at plain
    rw [plain]
    -- Only the first character that is not blank counts. Where it is one of the ten, a backslash
    -- is written in front of it, and a backslash starts no comment.
    induction line with
    | nil => rfl
    | cons c line ih =>
      rw [List.flatMap_cons]
      rcases mem_or_escapeChar_eq c with listed | ⟨_, same⟩
      · obtain ⟨behind, written⟩ := exists_sequence_eq listed
        rw [show escapeChar c = '\\' :: behind from written, List.cons_append,
          Line.isComment_cons_of_solid (by decide)]
        rfl
      · rw [same, List.singleton_append]
        cases blank : isBlank c with
        | true =>
          rw [Line.isComment_cons_of_blank blank] at plain ⊢
          exact ih plain
        | false => rwa [Line.isComment_cons_of_solid blank] at plain ⊢

private theorem unescapeLine_escapeLine (line : Text) : unescapeLine (escapeLine line) = line := by
  rw [unescapeLine, isComment_escapeLine, escapeLine]
  split
  · rfl
  · exact replaceAll_escapeSequence? line

private theorem newline_not_mem_escapeLine (whole : '\n' ∉ line) : '\n' ∉ escapeLine line := by
  unfold escapeLine
  split
  · exact whole
  · intro member
    obtain ⟨c, held, written⟩ := List.mem_flatMap.mp member
    rcases mem_or_escapeChar_eq c with listed | ⟨_, same⟩
    · have all : ∀ pair ∈ escapeSequences, '\n' ∉ pair.2 := by decide
      exact all _ listed written
    · rw [same] at written
      exact whole (List.mem_singleton.mp written ▸ held)

/-- The lines of what is written are those written for the lines. -/
theorem splitOn_escape (clean : hasSpanCommand s = false) :
    (escape s).splitOn '\n' = (s.splitOn '\n').map escapeLine := by
  rw [escape, clean, if_neg Bool.false_ne_true]
  refine Text.splitOn_join (mt List.map_eq_nil_iff.mp (Text.splitOn_ne_nil '\n' s)) ?_
  intro written member
  obtain ⟨line, part, rfl⟩ := List.mem_map.mp member
  exact newline_not_mem_escapeLine (Text.not_mem_of_mem_splitOn part)

/-- **Escaping is undone.** -/
theorem unescape_escape (clean : hasSpanCommand s = false) : unescape (escape s) = s := by
  have undone : unescapeLine ∘ escapeLine = id := funext unescapeLine_escapeLine
  rw [unescape, splitOn_escape clean, List.map_map, undone, List.map_id, Text.join_splitOn]

/-! ## What is written for a text -/

/-- A text without the commands that spans are converted to. -/
def IsUnconverted (s : Text) : Prop :=
  ∀ command ∈ ["\\emph\x7b".toList, "\\textbf\x7b".toList, "\\texttt\x7b".toList,
    "\\lib\x7b".toList, "\\href\x7b".toList, "\\cite\x7b".toList], ¬ command <:+: s

private theorem isUnconverted_iff : IsUnconverted s ↔ hasSpanCommand s = false := by
  rw [hasSpanCommand, List.any_eq_false]
  simp only [Text.occursIn_iff]
  exact Iff.rfl

/-- A comment line: a percent sign with blank characters at most before it. -/
def IsComment (line : Text) : Prop :=
  ∃ indent behind, line = indent ++ '%' :: behind ∧ ∀ c ∈ indent, isBlank c = true

/-- What stands in an escaped text for a line: the line itself when it is a comment, and
otherwise no comment, in which the characters are spelled one after the other. So the reserved
characters stand there in the ten sequences only. -/
structure StandsFor (line written : Text) : Prop where
  comment : IsComment line → written = line
  escaped : ¬ IsComment line → ¬ IsComment written ∧
    ∃ parts, List.Forall₂ Spells line parts ∧ written = parts.flatten

private theorem standsFor_escapeLine (line : Text) : StandsFor line (escapeLine line) where
  comment comment := by
    rw [escapeLine, if_pos (Line.isComment_iff.mpr comment)]
  escaped plain := by
    have other : ¬ Line.isComment line = true := mt Line.isComment_iff.mp plain
    refine ⟨?_, line.map escapeChar, ?_, ?_⟩
    · rw [IsComment, ← Line.isComment_iff, isComment_escapeLine]
      exact other
    · exact List.forall₂_map_right_iff.mpr
        (List.forall₂_same.mpr fun c _ => spells_iff.mpr rfl)
    · rw [escapeLine, if_neg other, List.flatMap_def]

/-- **Escaped text is uniquely decodable.** A text without commands of spans is read back from
what is written for it, so no other one is written the same; and line by line, outside of
comments the ten reserved characters stand in their sequences only. -/
theorem escape_decodable (clean : IsUnconverted s) :
    unescape (escape s) = s ∧ (∀ t, IsUnconverted t → escape s = escape t → s = t) ∧
      List.Forall₂ StandsFor (s.splitOn '\n') ((escape s).splitOn '\n') := by
  have undone {t : Text} (unconverted : IsUnconverted t) : unescape (escape t) = t :=
    unescape_escape (isUnconverted_iff.mp unconverted)
  refine ⟨undone clean, fun t clean' same => ?_, ?_⟩
  · rw [← undone clean, same, undone clean']
  · rw [splitOn_escape (isUnconverted_iff.mp clean), List.forall₂_map_right_iff]
    exact List.forall₂_same.mpr fun line _ => standsFor_escapeLine line

/-- A comment, text that is spelled like a sequence, and a percent sign behind a tabulator. -/
def commentedPrice : Text :=
  "% a_b\n\\textbackslash\x7b\x7d 50% ~^2\n\t% c#".toList

/-- The comments are left alone, and the line between them is escaped. -/
theorem escape_decodable_commentedPrice :
    IsUnconverted commentedPrice ∧
      escape commentedPrice = ("% a_b\n\\textbackslash\x7b\x7dtextbackslash\\\x7b\\\x7d 50\\% " ++
        "\\textasciitilde\x7b\x7d\\textasciicircum\x7b\x7d2\n\t% c#").toList ∧
      unescape (escape commentedPrice) = commentedPrice ∧
      List.Forall₂ StandsFor (commentedPrice.splitOn '\n')
        ((escape commentedPrice).splitOn '\n') := by
  have clean : IsUnconverted commentedPrice := isUnconverted_iff.mpr (by decide)
  obtain ⟨undone, -, spelled⟩ := escape_decodable clean
  exact ⟨clean, by decide, undone, spelled⟩

end Scriptorium.Latex
