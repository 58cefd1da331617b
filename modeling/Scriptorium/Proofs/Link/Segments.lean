import Scriptorium.Link
/-! # The segments of a published link

The last segment of a link to a document becomes the name of a page, and those before it
become names of directories (`Link.publishSegments_append`). What holds of published names, of
page names and of the segments without a name holds of all of them
(`Link.forall_mem_publishSegments`).
-/

namespace Scriptorium.Link

/-- The published form of a segment that is not the last one. -/
def publishSegment (segment : Text) : Text :=
  if isNameless segment then segment else Name.publish segment

/-- The last segment of a path gets an extension, unless it has no name. -/
theorem publishSegments_append (front : List Text) (last : Text) :
    publishSegments (front ++ [last]) =
      front.map publishSegment ++
        [if isNameless last then last else Name.publish last ++ ".html".toList] := by
  induction front with
  | nil => rfl
  | cons segment front ih =>
    rw [List.cons_append, publishSegments, ih, List.map_cons, List.cons_append]
    · rfl
    · intro none
      exact absurd none (by simp)

/-- Segments without a name are the empty one and those of dots. -/
theorem eq_of_isNameless {segment : Text} (nameless : isNameless segment = true) :
    segment = [] ∨ segment = ['.'] ∨ segment = ['.', '.'] := by
  simp only [isNameless, Bool.or_eq_true, List.isEmpty_iff, beq_iff_eq] at nameless
  rcases nameless with (none | dot) | dots
  · exact .inl none
  · exact .inr (.inl dot)
  · exact .inr (.inr dots)

/-- A property of what can be written for a segment is one of all that is written. -/
theorem forall_mem_publishSegments {p : Text → Prop}
    (nameless : p [] ∧ p ['.'] ∧ p ['.', '.']) (named : ∀ name, p (Name.publish name))
    (page : ∀ name, p (Name.publish name ++ ".html".toList)) (segments : List Text) :
    ∀ segment ∈ publishSegments segments, p segment := by
  have kept : ∀ segment, isNameless segment = true → p segment := by
    intro segment dots
    obtain ⟨none, dot, parent⟩ := nameless
    rcases eq_of_isNameless dots with rfl | rfl | rfl <;> assumption
  fun_induction publishSegments segments with
  | case1 => exact List.forall_mem_nil _
  | case2 last =>
    refine List.forall_mem_singleton.mpr ?_
    split
    · exact kept last ‹_›
    · exact page last
  | case3 segment rest more ih =>
    refine List.forall_mem_cons.mpr ⟨?_, ih⟩
    split
    · exact kept segment ‹_›
    · exact named segment

end Scriptorium.Link
