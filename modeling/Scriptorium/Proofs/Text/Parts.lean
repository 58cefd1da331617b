/-! # Parts of a split list

A list is split at the elements of a class. What is written for its elements is split first
where the list is (`splitOnP_flatMap`), and a part stands in the list between two such elements
(`exists_append_of_splitOnP_eq`).
-/

namespace Scriptorium

variable {α β : Type} {p : α → Bool} {q : β → Bool}

/-- What a search stops at is not passed over. -/
theorem eq_false_of_mem_head?_dropWhile {a : α} {xs : List α}
    (first : a ∈ (xs.dropWhile p).head?) : p a = false := by
  have stops := List.head?_dropWhile_not p xs
  rw [Option.mem_def.mp first] at stops
  simpa using stops

private theorem splitOnP_append_of_eq {behind behind' : List β} {later : List (List β)}
    (split : behind.splitOnP q = behind'.splitOnP q ++ later) (front : List β) :
    (front ++ behind).splitOnP q = (front ++ behind').splitOnP q ++ later := by
  induction front with
  | nil => exact split
  | cons b front ih =>
    rw [List.cons_append, List.cons_append, List.splitOnP_cons_eq_if_modifyHead,
      List.splitOnP_cons_eq_if_modifyHead, ih]
    split
    · rfl
    · cases parts : (front ++ behind').splitOnP q with
      | nil => exact absurd parts (List.splitOnP_ne_nil q _)
      | cons part parts => rfl

/-- Where a separator is written for each separator, what is written for a list is split like
the list first, and then within each part. -/
theorem splitOnP_flatMap {write : α → List β}
    (cuts : ∀ a, p a = true → ∃ b, write a = [b] ∧ q b = true) (xs : List α) :
    (xs.flatMap write).splitOnP q =
      (xs.splitOnP p).flatMap fun part => (part.flatMap write).splitOnP q := by
  induction xs with
  | nil => rfl
  | cons a xs ih =>
    rw [List.flatMap_cons, List.splitOnP_cons_eq_if_modifyHead]
    split
    · rename_i cut
      obtain ⟨b, written, separator⟩ := cuts a cut
      rw [written, List.singleton_append, List.splitOnP_cons_eq_if_modifyHead, if_pos separator, ih]
      rfl
    · cases parts : xs.splitOnP p with
      | nil => exact absurd parts (List.splitOnP_ne_nil p _)
      | cons part parts =>
        rw [parts, List.flatMap_cons] at ih
        rw [List.modifyHead_cons, List.flatMap_cons, List.flatMap_cons]
        exact splitOnP_append_of_eq ih (write a)

/-- A text without separators goes with the first part behind it. -/
theorem splitOnP_append_of_none {front : List β} (none : ∀ b ∈ front, q b = false)
    (behind : List β) :
    (front ++ behind).splitOnP q = (behind.splitOnP q).modifyHead (front ++ ·) := by
  cases parts : behind.splitOnP q with
  | nil => exact absurd parts (List.splitOnP_ne_nil q behind)
  | cons part parts =>
    induction front with
    | nil => exact parts
    | cons b front ih =>
      obtain ⟨here, later⟩ := List.forall_mem_cons.mp none
      rw [List.cons_append, List.splitOnP_cons_eq_if_modifyHead, here, ih later]
      rfl

/-- A part of a list that was split stands in it, at the start or behind a separator. -/
theorem exists_append_of_splitOnP_eq {xs part : List α} {above below : List (List α)}
    (split : xs.splitOnP p = above ++ part :: below) :
    ∃ front behind, xs = front ++ (part ++ behind) ∧ (above = [] ↔ front = []) ∧
      (∀ a ∈ front.getLast?, p a = true) ∧ ∀ a ∈ part, p a = false := by
  induction xs generalizing above part with
  | nil =>
    cases above with
    | nil =>
      obtain ⟨rfl, -⟩ := List.cons.inj split
      exact ⟨[], [], rfl, iff_of_true rfl rfl, by simp, by simp⟩
    | cons first above => simp at split
  | cons x xs ih =>
    rw [List.splitOnP_cons_eq_if_modifyHead] at split
    cases cut : p x with
    | true =>
      rw [cut, if_pos rfl] at split
      cases above with
      | nil =>
        obtain ⟨rfl, -⟩ := List.cons.inj split
        exact ⟨[], x :: xs, rfl, iff_of_true rfl rfl, by simp, by simp⟩
      | cons first above =>
        obtain ⟨front, behind, whole, -, last, inside⟩ := ih (List.cons.inj split).2
        refine ⟨x :: front, behind, congrArg (x :: ·) whole, by simp, ?_, inside⟩
        cases front with
        | nil => exact fun a member => Option.mem_some_iff.mp member ▸ cut
        | cons y front => rwa [List.getLast?_cons_cons]
    | false =>
      rw [cut, if_neg Bool.false_ne_true] at split
      cases parts : xs.splitOnP p with
      | nil => exact absurd parts (List.splitOnP_ne_nil p xs)
      | cons q parts' =>
        rw [parts, List.modifyHead_cons] at split
        cases above with
        | nil =>
          obtain ⟨rfl, rfl⟩ := List.cons.inj split
          have first : xs.splitOnP p = [] ++ q :: parts' := parts
          obtain ⟨front, behind, whole, empty, -, inside⟩ := ih first
          obtain rfl := empty.mp rfl
          exact ⟨[], behind, congrArg (x :: ·) whole, iff_of_true rfl rfl, by simp,
            List.forall_mem_cons.mpr ⟨cut, inside⟩⟩
        | cons first above =>
          obtain ⟨rfl, rfl⟩ := List.cons.inj split
          have later : xs.splitOnP p = (q :: above) ++ part :: below := parts
          obtain ⟨front, behind, whole, empty, last, inside⟩ := ih later
          refine ⟨x :: front, behind, congrArg (x :: ·) whole, by simp, ?_, inside⟩
          cases front with
          | nil => cases empty.mpr rfl
          | cons y front => rwa [List.getLast?_cons_cons]

/-- What is no separator stands in one of the parts. -/
theorem exists_mem_splitOnP {xs : List α} {a : α} (member : a ∈ xs) (inside : p a = false) :
    ∃ part ∈ xs.splitOnP p, a ∈ part := by
  induction xs with
  | nil => cases member
  | cons x xs ih =>
    rw [List.splitOnP_cons_eq_if_modifyHead]
    cases parts : xs.splitOnP p with
    | nil => exact absurd parts (List.splitOnP_ne_nil p xs)
    | cons part parts' =>
      rw [parts] at ih
      rcases List.mem_cons.mp member with rfl | later
      · rw [inside, if_neg Bool.false_ne_true]
        exact ⟨a :: part, List.mem_cons_self, List.mem_cons_self⟩
      · obtain ⟨found, listed, held⟩ := ih later
        split
        · exact ⟨found, List.mem_cons_of_mem _ listed, held⟩
        · rcases List.mem_cons.mp listed with rfl | listed
          · exact ⟨x :: found, List.mem_cons_self, List.mem_cons_of_mem x held⟩
          · exact ⟨found, List.mem_cons_of_mem _ listed, held⟩

/-- A part of a list ends a part of a list that ends with it. -/
theorem exists_suffix_of_mem_splitOnP (front : List β) {behind part : List β}
    (member : part ∈ behind.splitOnP q) :
    ∃ longer ∈ (front ++ behind).splitOnP q, part <:+ longer := by
  induction front with
  | nil => exact ⟨part, member, List.suffix_rfl⟩
  | cons b front ih =>
    obtain ⟨longer, listed, ends⟩ := ih
    rw [List.cons_append, List.splitOnP_cons_eq_if_modifyHead]
    split
    · exact ⟨longer, List.mem_cons_of_mem _ listed, ends⟩
    · cases parts : (front ++ behind).splitOnP q with
      | nil => exact absurd parts (List.splitOnP_ne_nil q _)
      | cons first parts' =>
        rw [parts] at listed
        rcases List.mem_cons.mp listed with rfl | listed
        · exact ⟨b :: longer, List.mem_cons_self, ends.trans (List.suffix_cons b longer)⟩
        · exact ⟨longer, List.mem_cons_of_mem _ listed, ends⟩

/-- Lists are mapped before or after they are put together. -/
theorem map_intercalate (f : α → β) (separator : List α) (lists : List (List α)) :
    (separator.intercalate lists).map f =
      (separator.map f).intercalate (lists.map (List.map f)) := by
  induction lists with
  | nil => rfl
  | cons list lists ih =>
    cases lists with
    | nil => simp only [List.map_cons, List.map_nil, List.intercalate_singleton]
    | cons next lists =>
      simp only [List.map_cons, List.intercalate_cons_cons, List.map_append] at ih ⊢
      rw [ih]

end Scriptorium
