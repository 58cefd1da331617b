import Scriptorium.Proofs.Math.Merging
/-! # The lines of a protected text

The parsers behind protection read lines: fences, dividers and headings. A text is cut into
code and prose, protected part by part, and cut again at the same places
(`Math.IsCut.encodes`, `Math.IsCut.segments_eq`). So protection keeps the lines that those
parsers rely on (`Math.keepsLines_encode`).
-/

namespace Scriptorium.Math

variable {plain encoded : Text}

/-- A segment and what protection makes of it: code stays. -/
inductive Segment.Encodes : Segment → Segment → Prop where
  | code (line : Text) : Encodes (.code line) (.code line)
  | prose {plain encoded : Text} : Math.Encodes plain encoded →
      Encodes (.prose plain) (.prose encoded)

/-- Segments are encoded one by one. -/
theorem exists_encodeSegments (counters : Counters) (parts : List Segment) :
    ∃ parts', List.Forall₂ Segment.Encodes parts parts' ∧
      (encodeSegments counters parts).1 = parts'.flatMap Segment.text := by
  induction parts generalizing counters with
  | nil => exact ⟨[], .nil, rfl⟩
  | cons part parts ih =>
    cases part with
    | code line =>
      obtain ⟨parts', encodes, whole⟩ := ih counters
      exact ⟨.code line :: parts', .cons (.code line) encodes,
        congrArg (line ++ ·) whole⟩
    | prose text =>
      obtain ⟨parts', encodes, whole⟩ := ih (encodeProse counters text).2
      exact ⟨.prose (encodeProse counters text).1 :: parts',
        .cons (.prose (encodes_encodeProse counters text)) encodes,
        congrArg ((encodeProse counters text).1 ++ ·) whole⟩

/-- A text that ends with a line feed, or that nothing follows. -/
def Ends (text : Text) (parts : List Segment) : Prop :=
  text.getLast? = some '\n' ∨ parts = []

/-- Segments that lines are cut into, the first of which lies in a fence or not: code is one
line, prose is all lines up to the next fence. -/
inductive IsCut : Bool → List Segment → Prop where
  | nil (inFence : Bool) : IsCut inFence []
  | code {inFence : Bool} {line : Text} {parts : List Segment} :
      (inFence || isFenceLine line) = true → line.terminatedLines = [line] → Ends line parts →
      IsCut (inFence != isFenceLine line) parts → IsCut inFence (.code line :: parts)
  | prose {text : Text} {parts : List Segment} :
      text ≠ [] → (∀ line ∈ text.terminatedLines, isFenceLine line = false) → Ends text parts →
      (∀ next, parts.head? ≠ some (.prose next)) → IsCut false parts →
      IsCut false (.prose text :: parts)

/-- No prose stands first where there are no segments. -/
theorem not_prose_nil (text : Text) : ([] : List Segment).head? ≠ some (.prose text) := by
  intro same
  cases same

private theorem not_prose_code (line : Text) (parts : List Segment) (text : Text) :
    (Segment.code line :: parts).head? ≠ some (.prose text) := by
  intro same
  cases same

private theorem segments_cons_of_code {inFence : Bool} {line : Text}
    (fenced : (inFence || isFenceLine line) = true) (lines : List Text) :
    segments inFence (line :: lines) =
      .code line :: segments (inFence != isFenceLine line) lines := by
  rw [segments, if_pos fenced]

private theorem segments_cons_of_prose {line text : Text} {lines : List Text}
    {others : List Segment}
    (outside : isFenceLine line = false) (later : segments false lines = .prose text :: others) :
    segments false (line :: lines) = .prose (line ++ text) :: others := by
  rw [segments, outside, Bool.or_false, if_neg Bool.false_ne_true, later]

private theorem segments_cons_of_not_prose {line : Text} {lines : List Text}
    (outside : isFenceLine line = false)
    (later : ∀ text, (segments false lines).head? ≠ some (.prose text)) :
    segments false (line :: lines) = .prose line :: segments false lines := by
  rw [segments, outside, Bool.or_false, if_neg Bool.false_ne_true]
  cases parts : segments false lines with
  | nil => rfl
  | cons part others =>
    cases part with
    | code line => rfl
    | prose text =>
      rw [parts] at later
      exact absurd rfl (later text)

/-- Lines that are no fences are one segment up to the next fence. -/
theorem segments_append {lines more : List Text} (nonempty : lines ≠ [])
    (unfenced : ∀ line ∈ lines, isFenceLine line = false)
    (later : ∀ text, (segments false more).head? ≠ some (.prose text)) :
    segments false (lines ++ more) = .prose lines.flatten :: segments false more := by
  induction lines with
  | nil => exact absurd rfl nonempty
  | cons line lines ih =>
    obtain ⟨outside, unfenced⟩ := List.forall_mem_cons.mp unfenced
    cases lines with
    | nil =>
      rw [List.flatten_singleton]
      exact segments_cons_of_not_prose outside later
    | cons next lines =>
      rw [List.cons_append, List.flatten_cons]
      exact segments_cons_of_prose outside (ih (List.cons_ne_nil next lines) unfenced)

private theorem terminatedLines_append_of_ends {text : Text} {parts : List Segment}
    (ends : Ends text parts) : Text.terminatedLines (text ++ parts.flatMap Segment.text) =
      text.terminatedLines ++ Text.terminatedLines (parts.flatMap Segment.text) := by
  rcases ends with closed | rfl
  · exact Text.terminatedLines_append closed _
  · rw [List.flatMap_nil, List.append_nil, Text.terminatedLines, List.append_nil]

/-- **Segments are cut again as they are** where their texts stand one after the other. -/
theorem IsCut.segments_eq {inFence : Bool} {parts : List Segment} (isCut : IsCut inFence parts) :
    segments inFence (Text.terminatedLines (parts.flatMap Segment.text)) = parts := by
  induction isCut with
  | nil inFence =>
    rw [List.flatMap_nil, Text.terminatedLines, segments]
  | @code inFence line parts fenced alone ends _ ih =>
    rw [List.flatMap_cons, Segment.text, terminatedLines_append_of_ends ends, alone,
      List.singleton_append, segments_cons_of_code fenced, ih]
  | @prose text parts nonempty unfenced ends later _ ih =>
    rw [List.flatMap_cons, Segment.text, terminatedLines_append_of_ends ends,
      segments_append (Text.terminatedLines_ne_nil nonempty) unfenced (by rwa [ih]),
      Text.flatten_terminatedLines, ih]

/-- A line that is no fence goes with the prose behind it, or is prose by itself. -/
theorem isCut_segments_cons {line : Text} {lines : List Text} (closed : line.getLast? = some '\n')
    (alone : line.terminatedLines = [line]) (outside : isFenceLine line = false)
    (later : IsCut false (segments false lines)) :
    IsCut false (segments false (line :: lines)) := by
  have nonempty : line ≠ [] := by
    rintro rfl
    cases closed
  have here : ∀ each ∈ line.terminatedLines, isFenceLine each = false := by
    rw [alone]
    exact List.forall_mem_singleton.mpr outside
  generalize parts : segments false lines = segments' at later
  cases later with
  | nil =>
    rw [segments_cons_of_not_prose outside (by rw [parts]; exact not_prose_nil), parts]
    exact .prose nonempty here (.inr rfl) not_prose_nil (.nil _)
  | code fenced alone' ends cut =>
    rw [segments_cons_of_not_prose outside (by rw [parts]; exact not_prose_code _ _), parts]
    exact .prose nonempty here (.inl closed) (not_prose_code _ _) (.code fenced alone' ends cut)
  | @prose text others _ unfenced ends later cut =>
    rw [segments_cons_of_prose outside parts]
    refine .prose (List.append_ne_nil_of_left_ne_nil nonempty text) ?_ ?_ later cut
    · rw [Text.terminatedLines_append closed, alone]
      exact List.forall_mem_cons.mpr ⟨outside, unfenced⟩
    · exact ends.imp_left fun last => by rw [List.getLast?_append, last]; rfl

/-- The lines of a text are cut into segments. -/
theorem isCut_segments (inFence : Bool) (s : Text) :
    IsCut inFence (segments inFence s.terminatedLines) := by
  induction s using Text.line_induction generalizing inFence with
  | last s whole =>
    by_cases empty : s = []
    · subst empty
      rw [Text.terminatedLines, segments]
      exact .nil inFence
    · have alone := Text.terminatedLines_of_not_mem whole empty
      rw [alone]
      cases fenced : inFence || isFenceLine s with
      | true =>
        rw [segments_cons_of_code fenced, segments]
        exact .code fenced alone (.inr rfl) (.nil _)
      | false =>
        obtain ⟨rfl, outside⟩ := Bool.or_eq_false_iff.mp fenced
        rw [segments_cons_of_not_prose outside (by rw [segments]; exact not_prose_nil), segments]
        refine .prose empty ?_ (.inr rfl) not_prose_nil (.nil _)
        rw [alone]
        exact List.forall_mem_singleton.mpr outside
  | line front rest whole ih =>
    have alone : Text.terminatedLines (front ++ ['\n']) = [front ++ ['\n']] :=
      Text.terminatedLines_append_cons whole []
    have closed : (front ++ ['\n']).getLast? = some '\n' := List.getLast?_concat ..
    rw [Text.terminatedLines_append_cons whole]
    cases fenced : inFence || isFenceLine (front ++ ['\n']) with
    | true =>
      rw [segments_cons_of_code fenced]
      exact .code fenced alone (.inl closed) (ih _)
    | false =>
      obtain ⟨rfl, outside⟩ := Bool.or_eq_false_iff.mp fenced
      exact isCut_segments_cons closed alone outside (ih false)

/-- **Protected segments are cut as they were**: code stays where it is, and prose becomes no
fence. -/
theorem IsCut.encodes {inFence : Bool} {parts parts' : List Segment}
    (isCut : IsCut inFence parts) (encodes : List.Forall₂ Segment.Encodes parts parts') :
    IsCut inFence parts' := by
  induction isCut generalizing parts' with
  | nil inFence =>
    cases encodes
    exact .nil inFence
  | @code inFence line parts fenced alone ends _ ih =>
    cases encodes with
    | cons first encodes =>
      cases first
      refine .code fenced alone (ends.imp_right ?_) (ih encodes)
      rintro rfl
      cases encodes
      rfl
  | @prose text parts nonempty unfenced ends later _ ih =>
    cases encodes with
    | cons first encodes =>
      cases first with
      | prose layers =>
        refine .prose (layers.ne_nil nonempty) (layers.unfenced unfenced) ?_ ?_ (ih encodes)
        · refine ends.imp layers.getLast? ?_
          rintro rfl
          cases encodes
          rfl
        · intro next first
          cases encodes with
          | nil => cases first
          | cons other _ =>
            cases other with
            | code line => cases first
            | prose _ => exact later _ rfl

/-! ## The lines of a protected text -/

/-- The line of a segment of code. -/
def Segment.codeLine? : Segment → Option Text
  | .code line => some line
  | .prose _ => none

/-- The fences among lines and the lines between an opening fence and the next one. -/
def codeLines (lines : List Text) : List Text :=
  (segments false lines).filterMap Segment.codeLine?

private theorem filterMap_codeLine?_eq {parts parts' : List Segment}
    (encodes : List.Forall₂ Segment.Encodes parts parts') :
    parts'.filterMap Segment.codeLine? = parts.filterMap Segment.codeLine? := by
  induction encodes with
  | nil => rfl
  | cons first _ ih =>
    cases first with
    | code line => exact congrArg (line :: ·) ih
    | prose _ => exact ih

/-- All fences are among the code. -/
theorem filter_isFenceLine_segments (inFence : Bool) (lines : List Text) :
    ((segments inFence lines).filterMap Segment.codeLine?).filter isFenceLine =
      lines.filter isFenceLine := by
  fun_induction segments inFence lines with
  | case1 => rfl
  | case2 inFence line lines fenced ih =>
    have kept : (Segment.code line :: segments (inFence != isFenceLine line) lines).filterMap
        Segment.codeLine? = line :: (segments (inFence != isFenceLine line) lines).filterMap
          Segment.codeLine? := rfl
    rw [kept, List.filter_cons, List.filter_cons, ih]
  | case3 inFence line lines outside text others segment ih =>
    rw [segment, List.filterMap_cons_none rfl] at ih
    have unfenced := (Bool.or_eq_false_iff.mp (Bool.eq_false_iff.mpr outside)).2
    rw [List.filterMap_cons_none rfl, ih,
      List.filter_cons_of_neg (by rw [unfenced]; exact Bool.false_ne_true)]
  | case4 inFence line lines outside _ ih =>
    have unfenced := (Bool.or_eq_false_iff.mp (Bool.eq_false_iff.mpr outside)).2
    rw [List.filterMap_cons_none rfl, ih,
      List.filter_cons_of_neg (by rw [unfenced]; exact Bool.false_ne_true)]

/-- What protection keeps of the lines of a text. -/
structure KeepsLines (plain encoded : Text) : Prop where
  /-- The text is cut into code and prose at the same places, and the code is the same. -/
  segments : List.Forall₂ Segment.Encodes (segments false plain.terminatedLines)
    (segments false encoded.terminatedLines)
  code : codeLines encoded.terminatedLines = codeLines plain.terminatedLines
  fences : encoded.terminatedLines.filter isFenceLine = plain.terminatedLines.filter isFenceLine
  /-- The lines without tokens are lines of the text, in their order. -/
  free : (encoded.terminatedLines.filter fun line => decide (TokenFree line)).Sublist
    plain.terminatedLines
  dividers : (encoded.terminatedLines.filter fun line => Line.isDivider line.trim).Sublist
    (plain.terminatedLines.filter fun line => Line.isDivider line.trim)
  headings : (encoded.terminatedLines.filterMap Line.headingDepth?).Sublist
    (plain.terminatedLines.filterMap Line.headingDepth?)

private theorem tokenFree_of_isDivider {line : Text} (divider : Line.isDivider line.trim = true) :
    TokenFree line := by
  intro token wellFormed inside
  have none : marks line = [] := by
    rw [← marks_trim]
    exact Line.marks_of_isDivider divider
  have held : Mark.formula token ∈ marks line := mem_marks_iff.mpr ⟨wellFormed, inside⟩
  rw [none] at held
  cases held

/-- **Protection keeps the lines of a text.** -/
theorem keepsLines_encode (s : Text) : KeepsLines s (encode s) := by
  have encodes := encodes_encode s
  have cut : List.Forall₂ Segment.Encodes (Math.segments false s.terminatedLines)
      (Math.segments false (encode s).terminatedLines) := by
    obtain ⟨parts, each, whole⟩ :=
      exists_encodeSegments .zero (Math.segments false s.terminatedLines)
    rw [encode, whole, ((isCut_segments false s).encodes each).segments_eq]
    exact each
  have code : codeLines (encode s).terminatedLines = codeLines s.terminatedLines :=
    filterMap_codeLine?_eq cut
  exact {
    segments := cut
    code := code
    fences := by
      rw [← filter_isFenceLine_segments false,
        ← filter_isFenceLine_segments false s.terminatedLines]
      exact congrArg (List.filter isFenceLine) code
    free := (encodes.filter_sublist fun _ free => of_decide_eq_true free).trans
      List.filter_sublist
    dividers := encodes.filter_sublist fun _ => tokenFree_of_isDivider
    headings := encodes.filterMap_sublist fun front behind rest _ token isSign _ =>
      .inr (headingDepth?_token isSign token front behind rest) }

end Scriptorium.Math
