import Mathlib.Data.List.DropRight
import Scriptorium.Latex.Comment
import Scriptorium.Proofs.Line
import Scriptorium.Proofs.Name
import Scriptorium.Proofs.Text.Lines
import Scriptorium.Proofs.Text.Parts
import Scriptorium.Proofs.Text.Scan
/-! # Comments and prose

A comment of the source is converted where it stands, whatever stands beside it. So each
character of the converted text is followed to where it comes from (`Latex.converted`): the
lines of a comment are all there, and they stand on comment lines of the paper with no prose
beside them exactly when each comment has its lines to itself, or shares them with comment
lines of the source only (`Latex.keepsApart_iff`).
-/

namespace Scriptorium.Latex

/-! ## Where characters come from -/

/-- The line around a place in a text, of which the text before and behind it is given. -/
def lineAt (front behind : Text) : Text :=
  front.rtakeWhile (· != '\n') ++ behind.takeWhile (· != '\n')

/-- A part of a text: a character outside of comments, with whether its line is a LaTeX
comment already, or a comment. -/
inductive SourcePart where
  | prose (c : Char) (onRemark : Bool)
  | comment (content : Text)
  deriving DecidableEq, Repr

/-- A piece as it stands in the source. -/
def sourceOf : Piece Text → Text
  | .plain c => [c]
  | .found content => "<!--".toList ++ (content ++ "-->".toList)

/-- The parts that pieces are behind a text. -/
def sourcePartsBehind (front : Text) : List (Piece Text) → List SourcePart
  | [] => []
  | .plain c :: rest =>
    .prose c (Line.isComment (lineAt front (c :: rest.flatMap sourceOf))) ::
      sourcePartsBehind (front ++ [c]) rest
  | .found content :: rest =>
    .comment content :: sourcePartsBehind (front ++ sourceOf (.found content)) rest

/-- The parts of a text. -/
def sourceParts (s : Text) : List SourcePart :=
  sourcePartsBehind [] (Scanner.pieces htmlComment? s)

/-- Where a character of a converted text comes from: a comment, or the prose outside. -/
inductive Origin where
  | comment
  | prose (onRemark : Bool)
  deriving DecidableEq, Repr

/-- The characters that a part is converted to. -/
def SourcePart.converted : SourcePart → List (Char × Origin)
  | .prose c onRemark => [(c, .prose onRemark)]
  | .comment content => (commentLines content).map (·, .comment)

/-- A converted text, each character with where it comes from. -/
def converted (s : Text) : List (Char × Origin) :=
  (sourceParts s).flatMap SourcePart.converted

/-- The lines of a converted text. -/
def convertedLines (s : Text) : List (List (Char × Origin)) :=
  (converted s).splitOnP (·.1 == '\n')

/-- Whether a line of a converted text is a comment line. -/
def isRemark (line : List (Char × Origin)) : Bool :=
  Line.isComment (line.map Prod.fst)

/-- Whether a character of prose has to keep off comments: any, or those that show. -/
def matters (withBlanks : Bool) (c : Char) : Bool :=
  withBlanks || !isBlank c

/-- On a line with characters of comments is nothing but comments, and on a comment line
no prose, unless it stood on one in the source. -/
structure Separates (withBlanks : Bool) (line : List (Char × Origin)) : Prop where
  comment : ∀ c, (c, .comment) ∈ line → isRemark line = true
  prose : isRemark line = true → ∀ c, (c, .prose false) ∈ line → matters withBlanks c = false

/-- Comments and prose stand on different lines of a converted text. -/
def KeepsApart (withBlanks : Bool) (s : Text) : Prop :=
  ∀ line ∈ convertedLines s, Separates withBlanks line

/-- A line of a comment as it stands in a converted text. -/
def remark (line : Text) : List (Char × Origin) :=
  ('%' :: ' ' :: line.trim).map (·, .comment)

/-- Whether a part is the end of a line outside of comments. -/
def SourcePart.isBreak : SourcePart → Bool
  | .prose c _ => c == '\n'
  | .comment _ => false

/-- The character that a part of prose is. -/
def SourcePart.char? : SourcePart → Option Char
  | .prose c _ => some c
  | .comment _ => none

/-- The stretches of a text between the line feeds outside of comments. -/
def rows (s : Text) : List (List SourcePart) :=
  (sourceParts s).splitOnP SourcePart.isBreak

/-- A stretch with a comment in it, or of which the prose starts like a comment line, has no
prose that was not on a comment line. -/
def StandsApart (withBlanks : Bool) (row : List SourcePart) : Prop :=
  (∃ content, .comment content ∈ row ∧ content.isAllBlank = false) ∨
      Line.isComment (row.filterMap SourcePart.char?) = true →
    ∀ c, .prose c false ∈ row → matters withBlanks c = false

variable {withBlanks : Bool} {s : Text}

/-! ## Parts and pieces -/

/-- A part as it stands in the source. -/
def SourcePart.source : SourcePart → Text
  | .prose c _ => [c]
  | .comment content => sourceOf (.found content)

private theorem flatMap_source_sourcePartsBehind (front : Text) (pieces : List (Piece Text)) :
    (sourcePartsBehind front pieces).flatMap SourcePart.source = pieces.flatMap sourceOf := by
  induction pieces generalizing front with
  | nil => rfl
  | cons piece rest ih =>
    cases piece <;> rw [sourcePartsBehind, List.flatMap_cons, List.flatMap_cons, ih] <;> rfl

/-- A character of prose is marked by the line around it. -/
theorem eq_isComment_of_sourcePartsBehind {front : Text} {pieces : List (Piece Text)}
    {before behind : List SourcePart} {c : Char} {onRemark : Bool}
    (cut : sourcePartsBehind front pieces = before ++ .prose c onRemark :: behind) :
    onRemark = Line.isComment (lineAt (front ++ before.flatMap SourcePart.source)
      (c :: behind.flatMap SourcePart.source)) := by
  induction pieces generalizing front before with
  | nil => simp [sourcePartsBehind] at cut
  | cons piece rest ih =>
    cases piece with
    | plain d =>
      rw [sourcePartsBehind] at cut
      cases before with
      | nil =>
        obtain ⟨same, later⟩ := List.cons.inj cut
        obtain ⟨rfl, rfl⟩ := SourcePart.prose.inj same
        rw [← later, flatMap_source_sourcePartsBehind, List.flatMap_nil, List.append_nil]
      | cons first before =>
        obtain ⟨rfl, later⟩ := List.cons.inj cut
        rw [ih later, List.flatMap_cons, ← List.append_assoc]
        rfl
    | found content =>
      rw [sourcePartsBehind] at cut
      cases before with
      | nil => cases (List.cons.inj cut).1
      | cons first before =>
        obtain ⟨rfl, later⟩ := List.cons.inj cut
        rw [ih later, List.flatMap_cons, ← List.append_assoc]
        rfl

private theorem length_lt_of_htmlComment? (s content rest : Text)
    (read : htmlComment? s = some (content, rest)) : rest.length < s.length := by
  obtain ⟨behind, opened, closed⟩ := Option.bind_eq_some_iff.mp read
  have whole := congrArg List.length (Text.dropStart?_eq_some_iff.mp opened)
  have inside := congrArg List.length (Text.eq_of_cut?_eq_some closed)
  simp only [List.length_append] at whole inside
  have lead : "<!--".toList.length = 4 := rfl
  omega

private theorem flatMap_sourceOf_pieces (s : Text) :
    (Scanner.pieces htmlComment? s).flatMap sourceOf = s := by
  induction s using Scanner.match_induction length_lt_of_htmlComment? with
  | nil => rw [Scanner.pieces, List.flatMap_nil]
  | plain c cs absent ih =>
    rw [Scanner.pieces_of_none absent, List.flatMap_cons, ih]
    rfl
  | found s content rest read less ih =>
    obtain ⟨behind, opened, closed⟩ := Option.bind_eq_some_iff.mp read
    rw [Scanner.pieces_of_some read less, List.flatMap_cons, ih, sourceOf,
      Text.dropStart?_eq_some_iff.mp opened, Text.eq_of_cut?_eq_some closed]
    simp only [List.append_assoc]

/-- The parts of a text put together are the text. -/
theorem flatMap_source_sourceParts (s : Text) : (sourceParts s).flatMap SourcePart.source = s := by
  rw [sourceParts, flatMap_source_sourcePartsBehind, flatMap_sourceOf_pieces]

/-- Without where they come from, the characters are those of the converted text. -/
theorem map_fst_converted (s : Text) : (converted s).map Prod.fst = convertComments s := by
  suffices general : ∀ front,
      ((sourcePartsBehind front (Scanner.pieces htmlComment? s)).flatMap
        SourcePart.converted).map Prod.fst = convertComments s from general []
  unfold convertComments
  induction s using Scanner.match_induction length_lt_of_htmlComment? with
  | nil =>
    intro front
    rw [Scanner.pieces, Scanner.replaceAll_nil]
    rfl
  | plain c cs absent ih =>
    intro front
    rw [Scanner.pieces_of_none absent, sourcePartsBehind, List.flatMap_cons, List.map_append, ih,
      Scanner.replaceAll_of_none absent]
    rfl
  | found s content rest read less ih =>
    intro front
    rw [Scanner.pieces_of_some read less, sourcePartsBehind, List.flatMap_cons, List.map_append, ih,
      Scanner.replaceAll_of_some read less, SourcePart.converted, List.map_map]
    exact congrArg (· ++ _) (List.map_id _)

/-! ## The lines of a row -/

/-- A line starts with a comment. -/
def Opens (line : List (Char × Origin)) : Prop :=
  ∃ rest, line = ('%', .comment) :: rest

/-- The lines of a comment as they stand in a converted text. -/
def remarks (content : Text) : List (List (Char × Origin)) :=
  content.trim.lines.map remark

private theorem converted_comment (content : Text) :
    (SourcePart.comment content).converted = [('\n', .comment)].intercalate (remarks content) := by
  rw [SourcePart.converted, commentLines, Text.joinLines, Text.join, map_intercalate, List.map_map]
  rfl

private theorem remarks_of_isAllBlank {content : Text} (blank : content.isAllBlank = true) :
    remarks content = [] := by
  have all : ∀ c ∈ content, isBlank c = true := List.all_eq_true.mp blank
  have empty : content.dropWhile isBlank = [] := List.dropWhile_eq_nil_iff.mpr all
  rw [remarks, Text.trim, Text.stripWhere, empty]
  rfl

private theorem remarks_ne_nil {content : Text} (visible : content.isAllBlank = false) :
    remarks content ≠ [] := by
  obtain ⟨c, member, solid⟩ := List.all_eq_false.mp visible
  rw [Bool.not_eq_true] at solid
  obtain ⟨line, listed, -⟩ := Text.exists_mem_lines (Text.mem_stripWhere member solid) solid
  exact List.ne_nil_of_mem (List.mem_map_of_mem listed)

private theorem newline_not_mem_remark {content : Text} {line : List (Char × Origin)}
    (member : line ∈ remarks content) : ∀ entry ∈ line, (entry.1 == '\n') = false := by
  obtain ⟨source, listed, rfl⟩ := List.mem_map.mp member
  intro entry inside
  obtain ⟨c, place, rfl⟩ := List.mem_map.mp inside
  have whole : '\n' ∉ '%' :: ' ' :: source.trim := by
    have absent := Text.not_mem_of_mem_lines listed
    simp only [List.mem_cons, not_or]
    exact ⟨by decide, by decide, fun held => absent ((Text.infix_stripWhere _ _).subset held)⟩
  exact beq_eq_false_iff_ne.mpr fun same => whole (same ▸ place)

private theorem opens_of_mem_remarks {content : Text} {line : List (Char × Origin)}
    (member : line ∈ remarks content) : Opens line := by
  obtain ⟨source, -, rfl⟩ := List.mem_map.mp member
  exact ⟨_, rfl⟩

/-- Lines that start with comments, put in front of a text, are lines of the whole, the last of
them with the first line of the text behind it. -/
theorem exists_split_intercalate {lines : List (List (Char × Origin))} (nonempty : lines ≠ [])
    (opens : ∀ line ∈ lines, Opens line)
    (whole : ∀ line ∈ lines, ∀ entry ∈ line, (entry.1 == '\n') = false)
    {behind first : List (Char × Origin)} {rest : List (List (Char × Origin))}
    (split : behind.splitOnP (·.1 == '\n') = first :: rest) :
    ∃ line written, ([('\n', .comment)].intercalate lines ++ behind).splitOnP (·.1 == '\n') =
        line :: (written ++ rest) ∧ Opens line ∧ (∀ line ∈ written, Opens line) ∧
      ∀ part ∈ lines, ∃ longer ∈ line :: written, part <+: longer := by
  induction lines with
  | nil => exact absurd rfl nonempty
  | cons line lines ih =>
    obtain ⟨opensHere, opensLater⟩ := List.forall_mem_cons.mp opens
    obtain ⟨wholeHere, wholeLater⟩ := List.forall_mem_cons.mp whole
    cases lines with
    | nil =>
      refine ⟨line ++ first, [], ?_, ?_, fun _ member => absurd member List.not_mem_nil, ?_⟩
      · rw [List.intercalate_singleton, splitOnP_append_of_none wholeHere, split]
        rfl
      · obtain ⟨tail, rfl⟩ := opensHere
        exact ⟨tail ++ first, rfl⟩
      · exact List.forall_mem_singleton.mpr
          ⟨line ++ first, List.mem_singleton_self _, List.prefix_append _ _⟩
    | cons next lines =>
      obtain ⟨last, written, splits, opensLast, opensAll, found⟩ :=
        ih (List.cons_ne_nil _ _) opensLater wholeLater
      refine ⟨line, last :: written, ?_, opensHere,
        List.forall_mem_cons.mpr ⟨opensLast, opensAll⟩, ?_⟩
      · rw [List.intercalate_cons_cons, List.append_assoc, List.append_assoc,
          List.singleton_append,
          List.splitOnP_append_cons_of_forall_mem wholeHere _ rfl, splits]
        rfl
      · refine List.forall_mem_cons.mpr ⟨⟨line, List.mem_cons_self, List.prefix_rfl⟩, ?_⟩
        intro other listed
        obtain ⟨longer, member, start⟩ := found other listed
        exact ⟨longer, List.mem_cons_of_mem _ member, start⟩

/-- The lines of a comment that says something start with comments, and are all there. -/
theorem exists_split_comment {content : Text} (nonempty : remarks content ≠ [])
    {behind first : List (Char × Origin)} {rest : List (List (Char × Origin))}
    (split : behind.splitOnP (·.1 == '\n') = first :: rest) :
    ∃ line written, ((SourcePart.comment content).converted ++ behind).splitOnP (·.1 == '\n') =
        line :: (written ++ rest) ∧ Opens line ∧ (∀ line ∈ written, Opens line) ∧
      ∀ part ∈ remarks content, ∃ longer ∈ line :: written, part <+: longer := by
  rw [converted_comment]
  exact exists_split_intercalate nonempty (fun _ => opens_of_mem_remarks)
    (fun _ => newline_not_mem_remark) split

/-- A part that does not show: a blank character, or a comment of such. -/
def SourcePart.isHidden : SourcePart → Bool
  | .prose c _ => isBlank c
  | .comment content => content.isAllBlank

/-- No comment among some parts says anything. -/
def NoComment (row : List SourcePart) : Prop :=
  ∀ content, .comment content ∈ row → content.isAllBlank = true

variable {row front : List SourcePart}

/-- The first comment of a row that says something. -/
theorem exists_first_comment (some : ¬ NoComment row) :
    ∃ front content behind, row = front ++ .comment content :: behind ∧ NoComment front ∧
      content.isAllBlank = false := by
  induction row with
  | nil => exact absurd (fun content member => absurd member List.not_mem_nil) some
  | cons part row ih =>
    by_cases visible : ∃ content, part = .comment content ∧ content.isAllBlank = false
    · obtain ⟨content, rfl, visible⟩ := visible
      exact ⟨[], content, row, rfl, fun _ member => absurd member List.not_mem_nil, visible⟩
    · have here : ∀ content, .comment content = part → content.isAllBlank = true :=
        fun content same => by
          by_contra shown
          exact visible ⟨content, same.symm, Bool.not_eq_true _ ▸ shown⟩
      have later : ¬ NoComment row := fun none => some fun content member => by
        rcases List.mem_cons.mp member with same | listed
        · exact here content same
        · exact none content listed
      obtain ⟨front, content, behind, rfl, none, shown⟩ := ih later
      refine ⟨part :: front, content, behind, rfl, fun other member => ?_, shown⟩
      rcases List.mem_cons.mp member with same | listed
      · exact here other same
      · exact none other listed

private theorem converted_of_isAllBlank {content : Text} (blank : content.isAllBlank = true) :
    (SourcePart.comment content).converted = [] := by
  rw [converted_comment, remarks_of_isAllBlank blank]
  rfl

private theorem map_fst_of_noComment (none : NoComment front) :
    (front.flatMap SourcePart.converted).map Prod.fst = front.filterMap SourcePart.char? := by
  induction front with
  | nil => rfl
  | cons part front ih =>
    have later := ih fun content member => none content (List.mem_cons_of_mem part member)
    rw [List.flatMap_cons, List.map_append, later]
    cases part with
    | prose c onRemark => rfl
    | comment content => rw [converted_of_isAllBlank (none content List.mem_cons_self)]; rfl

private theorem comment_not_mem_of_noComment (none : NoComment front) (c : Char) :
    (c, .comment) ∉ front.flatMap SourcePart.converted := by
  intro member
  obtain ⟨part, listed, inside⟩ := List.mem_flatMap.mp member
  cases part with
  | prose d onRemark => simp [SourcePart.converted] at inside
  | comment content =>
    rw [converted_of_isAllBlank (none content listed)] at inside
    cases inside

private theorem mem_flatMap_converted_iff {c : Char} {onRemark : Bool} :
    (c, .prose onRemark) ∈ row.flatMap SourcePart.converted ↔ .prose c onRemark ∈ row := by
  constructor
  · intro member
    obtain ⟨part, listed, inside⟩ := List.mem_flatMap.mp member
    cases part with
    | prose d other =>
      obtain ⟨rfl, same⟩ := Prod.mk.inj (List.mem_singleton.mp inside)
      exact Origin.prose.inj same ▸ listed
    | comment content => simp [SourcePart.converted] at inside
  · exact fun listed => List.mem_flatMap.mpr ⟨_, listed, List.mem_singleton_self _⟩

private theorem newline_not_mem_of_noComment (none : NoComment front)
    (unbroken : ∀ part ∈ front, part.isBreak = false) :
    ∀ entry ∈ front.flatMap SourcePart.converted, (entry.1 == '\n') = false := by
  intro entry member
  obtain ⟨part, listed, inside⟩ := List.mem_flatMap.mp member
  cases part with
  | prose c onRemark => exact List.mem_singleton.mp inside ▸ unbroken _ listed
  | comment content =>
    rw [converted_of_isAllBlank (none content listed)] at inside
    cases inside

/-- All lines of a row but the first start with comments. -/
theorem exists_split_row (unbroken : ∀ part ∈ row, part.isBreak = false) :
    ∃ first later, (row.flatMap SourcePart.converted).splitOnP (·.1 == '\n') = first :: later ∧
      ∀ line ∈ later, Opens line := by
  induction row with
  | nil => exact ⟨[], [], rfl, fun line member => absurd member List.not_mem_nil⟩
  | cons part row ih =>
    obtain ⟨here, unbroken⟩ := List.forall_mem_cons.mp unbroken
    obtain ⟨first, later, split, opens⟩ := ih unbroken
    rw [List.flatMap_cons]
    cases part with
    | prose c onRemark =>
      have whole : ∀ entry ∈ (SourcePart.prose c onRemark).converted, (entry.1 == '\n') = false :=
        List.forall_mem_singleton.mpr here
      refine ⟨(c, .prose onRemark) :: first, later, ?_, opens⟩
      rw [splitOnP_append_of_none whole, split]
      rfl
    | comment content =>
      by_cases empty : remarks content = []
      · rw [converted_comment, empty]
        exact ⟨first, later, split, opens⟩
      · obtain ⟨line, written, splits, -, opensAll, -⟩ := exists_split_comment empty split
        exact ⟨line, written ++ later, splits, List.forall_mem_append.mpr ⟨opensAll, opens⟩⟩

/-- The first line of a row runs up to the first comment that says something. -/
theorem exists_split_of_comment {content : Text} {behind : List SourcePart} (none : NoComment front)
    (visible : content.isAllBlank = false)
    (unbroken : ∀ part ∈ front ++ .comment content :: behind, part.isBreak = false) :
    ∃ rest later, ((front ++ .comment content :: behind).flatMap SourcePart.converted).splitOnP
        (·.1 == '\n') = (front.flatMap SourcePart.converted ++ ('%', .comment) :: rest) :: later ∧
      ∀ line ∈ later, Opens line := by
  obtain ⟨unbrokenFront, unbroken⟩ := List.forall_mem_append.mp unbroken
  obtain ⟨first, later, split, opens⟩ := exists_split_row (List.forall_mem_cons.mp unbroken).2
  obtain ⟨line, written, splits, ⟨rest, rfl⟩, opensAll, -⟩ :=
    exists_split_comment (remarks_ne_nil visible) split
  refine ⟨rest, written ++ later, ?_, List.forall_mem_append.mpr ⟨opensAll, opens⟩⟩
  rw [List.flatMap_append, List.flatMap_cons,
    splitOnP_append_of_none (newline_not_mem_of_noComment none unbrokenFront), splits]
  rfl

/-- Prose on comment lines of the source starts with the sign of comments, when blank
characters and comments that say nothing stand before it in its row. -/
def Faithful (row : List SourcePart) : Prop :=
  ∀ front c behind, row = front ++ .prose c true :: behind →
    (∀ part ∈ front, part.isHidden = true) → isBlank c = false → c = '%'

private theorem isComment_hidden (hidden : ∀ part ∈ front, part.isHidden = true) (behind : Text) :
    Line.isComment (front.filterMap SourcePart.char? ++ behind) = Line.isComment behind := by
  apply Line.isComment_append_of_blank
  intro c member
  obtain ⟨part, listed, same⟩ := List.mem_filterMap.mp member
  cases part with
  | prose d onRemark =>
    cases same
    exact hidden _ listed
  | comment content => cases same

/-- Where no prose but that of comment lines shows, a comment behind it stands on a comment
line. -/
theorem isComment_of_faithful {behind : List SourcePart} (faithful : Faithful (front ++ behind))
    (none : NoComment front) (quiet : ∀ c, .prose c false ∈ front → isBlank c = true)
    (rest : Text) : Line.isComment (front.filterMap SourcePart.char? ++ '%' :: rest) = true := by
  have percent : Line.isComment ('%' :: rest) = true :=
    Line.isComment_cons_of_solid (by decide) rest
  have split : front = front.takeWhile SourcePart.isHidden ++ front.dropWhile SourcePart.isHidden :=
    List.takeWhile_append_dropWhile.symm
  have hidden : ∀ part ∈ front.takeWhile SourcePart.isHidden, part.isHidden = true :=
    List.all_eq_true.mp List.all_takeWhile
  cases shown : front.dropWhile SourcePart.isHidden with
  | nil =>
    rw [shown, List.append_nil] at split
    rw [isComment_hidden (split ▸ hidden), percent]
  | cons part later =>
    have visible : part.isHidden = false :=
      eq_false_of_mem_head?_dropWhile (by rw [shown]; rfl)
    rw [shown] at split
    have member : part ∈ front := by
      rw [split]
      exact List.mem_append_right _ List.mem_cons_self
    cases part with
    | comment content =>
      rw [SourcePart.isHidden, none content member] at visible
      cases visible
    | prose c onRemark =>
      cases onRemark with
      | false =>
        rw [SourcePart.isHidden, quiet c member] at visible
        cases visible
      | true =>
        have sign : c = '%' := by
          refine faithful _ c (later ++ behind) ?_ hidden visible
          rw [← List.cons_append, ← List.append_assoc, ← split]
        rw [split, List.filterMap_append, List.append_assoc, isComment_hidden hidden, sign]
        exact Line.isComment_cons_of_solid (by decide) _

private theorem matters_of_solid {c : Char} (solid : isBlank c = false) :
    matters withBlanks c = true := by
  rw [matters, solid, Bool.not_false, Bool.or_true]

/-- A row without comments that say anything is one line, of prose alone. -/
theorem separates_row_iff_of_noComment (none : NoComment row)
    (unbroken : ∀ part ∈ row, part.isBreak = false) :
    (∀ line ∈ (row.flatMap SourcePart.converted).splitOnP (·.1 == '\n'),
        Separates withBlanks line) ↔ StandsApart withBlanks row := by
  have alone := List.splitOnP_eq_singleton (newline_not_mem_of_noComment none unbroken)
  have sameText : isRemark (row.flatMap SourcePart.converted) =
      Line.isComment (row.filterMap SourcePart.char?) :=
    congrArg Line.isComment (map_fst_of_noComment none)
  rw [alone]
  constructor
  · rintro separates (⟨content, member, visible⟩ | starts)
    · rw [none content member] at visible
      cases visible
    · intro c member
      exact (separates _ (List.mem_singleton_self _)).prose (sameText.trans starts) c
        (mem_flatMap_converted_iff.mpr member)
  · intro apart
    refine List.forall_mem_singleton.mpr ⟨fun c member => ?_, fun starts c member => ?_⟩
    · exact absurd member (comment_not_mem_of_noComment none c)
    · exact apart (.inr (sameText.symm.trans starts)) c (mem_flatMap_converted_iff.mp member)

/-- A row with a comment that says something has a comment on each of its lines. -/
theorem separates_row_iff_of_comment (some : ¬ NoComment row)
    (unbroken : ∀ part ∈ row, part.isBreak = false) (faithful : Faithful row) :
    (∀ line ∈ (row.flatMap SourcePart.converted).splitOnP (·.1 == '\n'),
        Separates withBlanks line) ↔ StandsApart withBlanks row := by
  obtain ⟨front, content, behind, rfl, none, visible⟩ := exists_first_comment some
  have commented : ∃ content', .comment content' ∈ front ++ .comment content :: behind ∧
      content'.isAllBlank = false :=
    ⟨content, List.mem_append_right _ List.mem_cons_self, visible⟩
  obtain ⟨rest, later, split, opens⟩ := exists_split_of_comment none visible unbroken
  constructor
  · intro separates _ c member
    obtain ⟨line, listed, inside⟩ := exists_mem_splitOnP (p := fun entry => entry.1 == '\n')
      (mem_flatMap_converted_iff.mpr member) (unbroken _ member)
    have held : ∃ d, (d, .comment) ∈ line := by
      rw [split] at listed
      rcases List.mem_cons.mp listed with rfl | listed
      · exact ⟨'%', List.mem_append_right _ List.mem_cons_self⟩
      · obtain ⟨tail, rfl⟩ := opens line listed
        exact ⟨'%', List.mem_cons_self⟩
    obtain ⟨d, held⟩ := held
    exact (separates line listed).prose ((separates line listed).comment d held) c inside
  · intro apart line listed
    have quiet := apart (.inl commented)
    refine ⟨fun _ _ => ?_, fun _ c member => quiet c ?_⟩
    · rw [split] at listed
      rcases List.mem_cons.mp listed with rfl | listed
      · rw [isRemark, List.map_append, map_fst_of_noComment none]
        refine isComment_of_faithful faithful none (fun c member => ?_) _
        by_contra solid
        have shows : matters withBlanks c = true :=
          matters_of_solid (Bool.not_eq_true _ ▸ solid)
        rw [quiet c (List.mem_append_left _ member)] at shows
        cases shows
      · obtain ⟨tail, rfl⟩ := opens line listed
        exact Line.isComment_cons_of_solid (by decide) _
    · obtain ⟨above, below, cut⟩ := List.append_of_mem listed
      obtain ⟨front', behind', whole, -⟩ := exists_append_of_splitOnP_eq cut
      apply mem_flatMap_converted_iff.mp
      rw [whole]
      exact List.mem_append_right _ (List.mem_append_left _ member)

/-- **One row.** The lines of a row keep comments and prose apart exactly when the row does. -/
theorem separates_row_iff (unbroken : ∀ part ∈ row, part.isBreak = false)
    (faithful : Faithful row) :
    (∀ line ∈ (row.flatMap SourcePart.converted).splitOnP (·.1 == '\n'),
        Separates withBlanks line) ↔ StandsApart withBlanks row := by
  by_cases none : NoComment row
  · exact separates_row_iff_of_noComment none unbroken
  · exact separates_row_iff_of_comment none unbroken faithful

/-! ## The whole text -/

private theorem rtakeWhile_append_of_all {q : Char → Bool} {behind : Text}
    (all : ∀ c ∈ behind, q c = true) (front : Text) :
    (front ++ behind).rtakeWhile q = front.rtakeWhile q ++ behind := by
  rw [List.rtakeWhile, List.rtakeWhile, List.reverse_append, List.takeWhile_append_of_pos,
    List.reverse_append, List.reverse_reverse]
  exact fun c member => all c (List.mem_reverse.mp member)

private theorem rtakeWhile_append_cons {q : Char → Bool} {c : Char} (stop : q c = false)
    (front behind : Text) :
    (front ++ c :: behind).rtakeWhile q = behind.rtakeWhile q := by
  rw [List.rtakeWhile, List.rtakeWhile, List.reverse_append, List.reverse_cons,
    List.append_assoc, List.singleton_append, Text.takeWhile_append_cons stop]

/-- Behind a comment that says nothing no line is a comment line that was none before it. -/
theorem isComment_append_comment {before content : Text} (blank : content.isAllBlank = true)
    (plain : Line.isComment (before.rtakeWhile (· != '\n')) = false) :
    Line.isComment ((before ++ (SourcePart.comment content).source).rtakeWhile (· != '\n')) =
      false := by
  have source : (SourcePart.comment content).source =
      "<!--".toList ++ (content ++ "-->".toList) := rfl
  rw [source]
  by_cases broken : '\n' ∈ content
  · -- The line starts inside of the comment.
    obtain ⟨above, below, rfl⟩ := List.append_of_mem broken
    have inside : ∀ c ∈ below.rtakeWhile (· != '\n'), isBlank c = true := fun c member =>
      Text.isAllBlank_iff.mp blank c (List.mem_append_right _ (List.mem_cons_of_mem _
        (List.rtakeWhile_suffix _ _ |>.subset member)))
    rw [List.append_assoc, List.cons_append, ← List.append_assoc, ← List.append_assoc,
      rtakeWhile_append_cons (by decide),
      rtakeWhile_append_of_all (List.all_eq_true.mp (by decide)),
      Line.isComment_append_of_blank inside]
    decide
  · have inLine : ∀ c ∈ "<!--".toList ++ (content ++ "-->".toList), (c != '\n') = true := by
      have whole : '\n' ∉ "<!--".toList ++ (content ++ "-->".toList) := by
        simp only [List.mem_append, not_or]
        exact ⟨by decide, broken, by decide⟩
      exact fun c member => bne_iff_ne.mpr fun same => whole (same ▸ member)
    rw [rtakeWhile_append_of_all inLine]
    exact Line.isComment_append plain (Line.isComment_cons_of_solid (by decide) _)

/-- Behind comments that say nothing, and blank characters, no line is a comment line yet. -/
theorem isComment_of_hidden (unbroken : ∀ part ∈ front, part.isBreak = false)
    (hidden : ∀ part ∈ front, part.isHidden = true) :
    Line.isComment ((front.flatMap SourcePart.source).rtakeWhile (· != '\n')) = false := by
  induction front using List.reverseRecOn with
  | nil => rfl
  | append_singleton front part ih =>
    obtain ⟨unbroken, unbrokenHere⟩ := List.forall_mem_append.mp unbroken
    obtain ⟨hidden, hiddenHere⟩ := List.forall_mem_append.mp hidden
    have before := ih unbroken hidden
    have blank := hiddenHere part (List.mem_singleton_self part)
    rw [List.flatMap_append, List.flatMap_singleton]
    cases part with
    | prose c onRemark =>
      have inLine : ∀ d ∈ [c], (d != '\n') = true :=
        List.forall_mem_singleton.mpr (by
          rw [bne, show (c == '\n') = false from unbrokenHere _ (List.mem_singleton_self _)]
          rfl)
      have blank : Text.isAllBlank [c] = true :=
        Text.isAllBlank_iff.mpr (List.forall_mem_singleton.mpr blank)
      exact (rtakeWhile_append_of_all inLine _).symm ▸
        Line.isComment_append before (Line.isComment_of_isAllBlank blank)
    | comment content => exact isComment_append_comment blank before

/-- Behind the end of a row the line starts anew. -/
theorem rtakeWhile_source_append {before : List SourcePart}
    (ends : ∀ part ∈ before.getLast?, part.isBreak = true) (behind : Text) :
    (before.flatMap SourcePart.source ++ behind).rtakeWhile (· != '\n') =
      behind.rtakeWhile (· != '\n') := by
  cases last : before.getLast? with
  | none => rw [List.getLast?_eq_none_iff.mp last]; rfl
  | some part =>
    obtain ⟨earlier, rfl⟩ := List.getLast?_eq_some_iff.mp last
    have isBreak := ends part last
    cases part with
    | comment content => cases isBreak
    | prose d onRemark =>
      obtain rfl : d = '\n' := beq_iff_eq.mp isBreak
      rw [List.flatMap_append, List.flatMap_singleton, List.append_assoc]
      exact rtakeWhile_append_cons (by decide) _ _

/-- The rows of a text are faithful. -/
theorem faithful_of_mem_rows {row : List SourcePart} (member : row ∈ rows s) :
    (∀ part ∈ row, part.isBreak = false) ∧ Faithful row := by
  obtain ⟨above, below, split⟩ := List.append_of_mem member
  obtain ⟨before, after, whole, -, ends, unbroken⟩ := exists_append_of_splitOnP_eq split
  refine ⟨unbroken, ?_⟩
  rintro front c behind rfl hidden solid
  have cut : sourceParts s = before ++ front ++ .prose c true :: (behind ++ after) := by
    rw [whole]
    simp only [List.append_assoc, List.cons_append]
  have marked := eq_isComment_of_sourcePartsBehind cut
  have unbrokenFront : ∀ part ∈ front, part.isBreak = false :=
    fun part listed => unbroken part (List.mem_append_left _ listed)
  have notNewline : (c != '\n') = true :=
    bne_iff_ne.mpr fun same => absurd solid (by rw [same]; decide)
  rw [lineAt, List.flatMap_append, List.nil_append, rtakeWhile_source_append ends,
    List.takeWhile_cons_of_pos (p := (· != '\n')) notNewline] at marked
  have plain := isComment_of_hidden unbrokenFront hidden
  cases blank : Text.isAllBlank ((front.flatMap SourcePart.source).rtakeWhile (· != '\n')) with
  | true =>
    rw [Line.isComment_append_of_blank (List.all_eq_true.mp blank),
      Line.isComment_cons_of_solid solid] at marked
    exact beq_iff_eq.mp marked.symm
  | false =>
    rw [Line.isComment_append_of_visible blank, plain] at marked
    cases marked

private theorem converted_of_isBreak {part : SourcePart} (isBreak : part.isBreak = true) :
    ∃ entry : Char × Origin, part.converted = [entry] ∧ (entry.1 == '\n') = true := by
  cases part with
  | prose c onRemark => exact ⟨_, rfl, isBreak⟩
  | comment content => cases isBreak

/-- Every line of a comment is part of a line of the converted text. -/
theorem exists_convertedLine {content line : Text} (member : .comment content ∈ sourceParts s)
    (listed : line ∈ content.trim.lines) :
    ∃ longer ∈ convertedLines s, remark line <:+: longer := by
  obtain ⟨front, behind, cut⟩ := List.append_of_mem member
  have written : remark line ∈ remarks content := List.mem_map_of_mem listed
  cases split : (behind.flatMap SourcePart.converted).splitOnP (·.1 == '\n') with
  | nil => exact absurd split (List.splitOnP_ne_nil _ _)
  | cons first later =>
    obtain ⟨opening, lines, splits, -, -, found⟩ :=
      exists_split_comment (List.ne_nil_of_mem written) split
    obtain ⟨longer, held, start⟩ := found _ written
    have inside : longer ∈ ((SourcePart.comment content).converted ++
        behind.flatMap SourcePart.converted).splitOnP (·.1 == '\n') := by
      rw [splits, ← List.cons_append]
      exact List.mem_append_left _ held
    obtain ⟨whole, listed, ends⟩ :=
      exists_suffix_of_mem_splitOnP (front.flatMap SourcePart.converted) inside
    refine ⟨whole, ?_, start.isInfix.trans ends.isInfix⟩
    rwa [convertedLines, converted, cut, List.flatMap_append, List.flatMap_cons]

/-- **Comments and prose.** The parts of a text are the text, each character of the converted
text comes from one of them, and the lines of every comment are there. Comments and prose stand
on different lines exactly when each row with a comment that says something, or of which the
prose starts like a comment line, holds no prose other than that of comment lines. -/
theorem keepsApart_iff (withBlanks : Bool) (s : Text) :
    (sourceParts s).flatMap SourcePart.source = s ∧
      (converted s).map Prod.fst = convertComments s ∧
      (∀ content, .comment content ∈ sourceParts s → ∀ line ∈ content.trim.lines,
        ∃ longer ∈ convertedLines s, remark line <:+: longer) ∧
      (KeepsApart withBlanks s ↔ ∀ row ∈ rows s, StandsApart withBlanks row) := by
  refine ⟨flatMap_source_sourceParts s, map_fst_converted s,
    fun content member line listed => exists_convertedLine member listed, ?_⟩
  have byRows : convertedLines s = (rows s).flatMap fun row =>
      (row.flatMap SourcePart.converted).splitOnP (·.1 == '\n') :=
    splitOnP_flatMap (fun _ => converted_of_isBreak) (sourceParts s)
  have each : ∀ row ∈ rows s,
      ((∀ line ∈ (row.flatMap SourcePart.converted).splitOnP (·.1 == '\n'),
        Separates withBlanks line) ↔ StandsApart withBlanks row) := by
    intro row member
    obtain ⟨unbroken, faithful⟩ := faithful_of_mem_rows member
    exact separates_row_iff unbroken faithful
  rw [KeepsApart, byRows]
  constructor
  · intro separates row member
    exact (each row member).mp fun line listed =>
      separates line (List.mem_flatMap.mpr ⟨row, member, listed⟩)
  · intro apart line listed
    obtain ⟨row, member, listed⟩ := List.mem_flatMap.mp listed
    exact (each row member).mpr (apart row member) line listed

/-- Prose behind a comment becomes part of it, and a comment behind prose part of the prose. -/
theorem not_keepsApart_sharedLine :
    convertComments "<!-- note --> Prose.".toList = "% note Prose.".toList ∧
      ¬ KeepsApart false "<!-- note --> Prose.".toList ∧
      convertComments "Prose. <!-- note -->".toList = "Prose. % note".toList ∧
      ¬ KeepsApart false "Prose. <!-- note -->".toList := by
  refine ⟨by decide +kernel, fun apart => ?_, by decide +kernel, fun apart => ?_⟩
  · have separates := apart _ (show _ ∈ convertedLines "<!-- note --> Prose.".toList by
      decide +kernel : converted "<!-- note --> Prose.".toList ∈ _)
    exact absurd (separates.prose (by decide +kernel) 'P' (by decide +kernel)) (by decide)
  · have separates := apart _ (show _ ∈ convertedLines "Prose. <!-- note -->".toList by
      decide +kernel : converted "Prose. <!-- note -->".toList ∈ _)
    exact absurd (separates.comment '%' (by decide +kernel)) (by decide +kernel)

end Scriptorium.Latex
