import Scriptorium.Proofs.Matter
/-! # The body as a run of lines

The body of a document is one run of its lines (`ParsedDocument.exists_bodyCut`). It ends
above the back matter, and it starts with the document or, where there is a header block, behind
the last one. So no line of it opens the front or the back matter
(`BodyCut.not_opensHeader`), and it is the whole document exactly when no line of the
document does (`BodyCut.body_eq_iff`).
-/

namespace Scriptorium

/-- The lines of a document cut at the two ends of its body. What stands behind starts with the
line that opens the back matter; what stands above ends with the last header block, if there
is one. -/
structure BodyCut (lines above body behind : List Text) : Prop where
  whole : lines = above ++ body ++ behind
  no_footer : ∀ line ∈ above ++ body, opensFooter line = false
  footer : ∀ line ∈ behind.head?, opensFooter line = true
  header : (above = [] ∧ ∀ line ∈ body, opensHeader line = false) ∨
    ∃ front marker block, above = front ++ marker :: block ∧ opensHeader marker = true ∧
      (∀ line ∈ block ++ body, opensHeader line = false) ∧
      block = (block ++ body).takeWhile (isHeaderPart (block ++ body))

namespace BodyCut

variable {lines above body behind : List Text}

/-- No header block opens in a body that is cut out. -/
theorem not_opensHeader (cut : BodyCut lines above body behind) :
    ∀ line ∈ body, opensHeader line = false := by
  rcases cut.header with ⟨-, none⟩ | ⟨front, marker, block, -, -, none, -⟩
  · exact none
  · exact (List.forall_mem_append.mp none).2

/-- No footer block opens in a body that is cut out. -/
theorem not_opensFooter (cut : BodyCut lines above body behind) :
    ∀ line ∈ body, opensFooter line = false :=
  (List.forall_mem_append.mp cut.no_footer).2

/-- The body is the whole document exactly when no line opens front or back matter. -/
theorem body_eq_iff (cut : BodyCut lines above body behind) :
    body = lines ↔ ∀ line ∈ lines, opensHeader line = false ∧ opensFooter line = false := by
  constructor
  · rintro rfl line member
    exact ⟨cut.not_opensHeader line member, cut.not_opensFooter line member⟩
  · intro none
    have noBehind : behind = [] := by
      cases behind with
      | nil => rfl
      | cons line behind =>
        have plain := (none line (by simp [cut.whole])).2
        rw [cut.footer line rfl] at plain
        cases plain
    have noAbove : above = [] := by
      rcases cut.header with ⟨start, -⟩ | ⟨front, marker, block, rfl, opens, -⟩
      · exact start
      · have plain := (none marker (by simp [cut.whole])).1
        rw [opens] at plain
        cases plain
    rw [cut.whole, noAbove, noBehind, List.nil_append, List.append_nil]

end BodyCut

/-- Either no element satisfies `p`, or there is a last one that does. -/
theorem exists_last {α : Type} (p : α → Bool) (xs : List α) :
    (∀ x ∈ xs, p x = false) ∨
      ∃ front x behind, xs = front ++ x :: behind ∧ p x = true ∧ ∀ y ∈ behind, p y = false := by
  induction xs with
  | nil => exact .inl (List.forall_mem_nil _)
  | cons y ys ih =>
    rcases ih with none | ⟨front, x, behind, rfl, here, later⟩
    · cases first : p y with
      | true => exact .inr ⟨[], y, ys, rfl, first, none⟩
      | false => exact .inl (List.forall_mem_cons.mpr ⟨first, none⟩)
    · exact .inr ⟨y :: front, x, behind, rfl, here, later⟩

/-- A list is cut in one way between elements that satisfy `p` and others. -/
theorem eq_of_append_eq_append {α : Type} {p : α → Bool} {lost lost' kept kept' : List α}
    (same : lost ++ kept = lost' ++ kept') (left : ∀ x ∈ lost, p x = true)
    (left' : ∀ x ∈ lost', p x = true) (right : ∀ x ∈ kept, p x = false)
    (right' : ∀ x ∈ kept', p x = false) : kept = kept' := by
  have behind {front back : List α} (yes : ∀ x ∈ front, p x = true)
      (no : ∀ x ∈ back, p x = false) : (front ++ back).filter (!p ·) = back := by
    rw [List.filter_append, List.filter_eq_nil_iff.mpr fun x member => by rw [yes x member]; nofun,
      List.filter_eq_self.mpr fun x member => by rw [no x member]; rfl, List.nil_append]
  rw [← behind left right, same, behind left' right']

/-- **Where the body lies** among the lines above the back matter: behind the last header block
or, without one, at the start. -/
theorem StartsBody.drop_eq {above : List Text} {start : Nat} (starts : StartsBody above start) :
    (above.drop start = above ∧ ∀ line ∈ above, opensHeader line = false) ∨
      ∃ front marker behind, above = front ++ marker :: behind ∧ opensHeader marker = true ∧
        (∀ line ∈ behind, opensHeader line = false) ∧
        above.drop start = behind.dropWhile (isHeaderPart behind) := by
  obtain ⟨lost, kept, places, early, late, drop⟩ := starts.exists_outside
  rcases exists_last opensHeader above with none | ⟨front, marker, behind, rfl, opens, none⟩
  · left
    have all : ∀ place ∈ linesOutside (fun _ => false) above, place.hasHeaderBelow = false :=
      not_hasHeaderBelow_of_none none
    have same : kept = linesOutside (fun _ => false) above :=
      eq_of_append_eq_append (places.symm.trans (List.nil_append _).symm) early
        (List.forall_mem_nil _) late all
    refine ⟨?_, none⟩
    rw [← drop, same, map_linesOutside none]
    cases above <;> rfl
  · right
    obtain ⟨lost', split, early'⟩ := exists_linesOutside_append (fun _ => false) opens front behind
    have same : kept = linesOutside (isHeaderPart behind) behind :=
      eq_of_append_eq_append (places.symm.trans split) early early' late
        (not_hasHeaderBelow_of_none none)
    exact ⟨front, marker, behind, rfl, opens, none, by rw [← drop, same, map_linesOutside none]⟩

/-- The lines of a document can be cut around those of its body. -/
theorem exists_cut (lines : List Text) :
    ∃ above behind, BodyCut lines above
      (bodyLines lines (MatterReader.start.readLines 0 lines)) behind := by
  obtain ⟨start, starts, body⟩ := exists_bodyLines_eq lines
  obtain ⟨tail, whole, footer⟩ := exists_eq_linesAboveFooter_append lines
  have plain := not_opensFooter_of_mem lines
  rw [body]
  rcases starts.drop_eq with ⟨same, none⟩ | ⟨front, marker, behind, split, opens, none, same⟩
  · exact ⟨[], tail, by rw [same, List.nil_append]; exact whole,
      by rw [same, List.nil_append]; exact plain, footer, .inl ⟨rfl, same.symm ▸ none⟩⟩
  · have parts : behind.takeWhile (isHeaderPart behind) ++ behind.dropWhile (isHeaderPart behind) =
        behind := List.takeWhile_append_dropWhile
    have above : front ++ marker :: behind.takeWhile (isHeaderPart behind) ++
        behind.dropWhile (isHeaderPart behind) = linesAboveFooter lines := by
      rw [split, List.append_assoc, List.cons_append, parts]
    refine ⟨front ++ marker :: behind.takeWhile (isHeaderPart behind), tail, ?_, ?_, footer,
      .inr ⟨front, marker, _, rfl, opens, ?_, ?_⟩⟩
    · rw [same, above]
      exact whole
    · rw [same, above]
      exact plain
    · rwa [same, parts]
    · rw [same, parts]

/-- **The body is one run of lines.** Its lines are put together with line feeds and are found
again in it; none of them opens the front or the back matter, which both lie outside; and a
document without either is its own body. -/
theorem ParsedDocument.exists_bodyCut (markdown : Text) :
    ∃ above body behind, BodyCut markdown.lines above body behind ∧
      (parse markdown).body = Text.joinLines body ∧
      (body ≠ [] → Text.splitOn '\n' (parse markdown).body = body) ∧
      (∀ line ∈ Text.splitOn '\n' (parse markdown).body,
        opensHeader line = false ∧ opensFooter line = false) ∧
      (body = markdown.lines ↔
        ∀ line ∈ markdown.lines, opensHeader line = false ∧ opensFooter line = false) := by
  obtain ⟨above, behind, cut⟩ := exists_cut markdown.lines
  have joined : (parse markdown).body =
      Text.joinLines (bodyLines markdown.lines (MatterReader.start.readLines 0 markdown.lines)) :=
    rfl
  generalize bodyLines markdown.lines _ = body at cut joined
  have split (nonempty : body ≠ []) : Text.splitOn '\n' (parse markdown).body = body := by
    rw [joined]
    refine Text.splitOn_join nonempty fun line member =>
      Text.not_mem_of_mem_lines (s := markdown) ?_
    rw [cut.whole]
    exact List.mem_append_left _ (List.mem_append_right _ member)
  refine ⟨above, body, behind, cut, joined, split, ?_, cut.body_eq_iff⟩
  intro line member
  by_cases none : body = []
  · rw [joined, none] at member
    rw [List.mem_singleton.mp member]
    decide
  · rw [split none] at member
    exact ⟨cut.not_opensHeader line member, cut.not_opensFooter line member⟩

end Scriptorium
