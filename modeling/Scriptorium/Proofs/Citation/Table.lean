import Mathlib.Data.List.Nodup
import Mathlib.Data.List.Perm.Subperm
import Scriptorium.Citation.Format
import Scriptorium.Proofs.Places
/-! # Citation tables

However a table came about by inserting and formatting, its citations are the first
definitions of their names in order, their names and their anchors are pairwise distinct,
and each is found under its name (`CitationTable.lists_afterEdits`). The search for a free
anchor ends, since its candidates are pairwise distinct
(`CitationTable.anchorSearch_freeAnchor`).
-/

namespace Scriptorium

private theorem Text.ofNat_injective : Function.Injective Text.ofNat := by
  intro m n same
  have spelled : Nat.ofDigitChars 10 (Nat.toDigits 10 m) 0 =
      Nat.ofDigitChars 10 (Nat.toDigits 10 n) 0 := congrArg (Nat.ofDigitChars 10 · 0) same
  rwa [Nat.ofDigitChars_ten_toDigits, Nat.ofDigitChars_ten_toDigits] at spelled

/-- A citation without what formatting writes. -/
def Citation.unformatted (citation : Citation) : Citation :=
  { citation with formattedHtml := none }

namespace CitationTable

/-! ## The search for an anchor -/

/-- From the given turn on, the search for an anchor that is not taken ends with an anchor:
a free candidate ends it, and behind a taken one it goes on. -/
inductive AnchorSearch (taken : List Text) (base : Text) : Nat → Text → Prop
  | free {turn : Nat} : numberedAnchor base turn ∉ taken →
      AnchorSearch taken base turn (numberedAnchor base turn)
  | next {turn : Nat} {anchor : Text} : numberedAnchor base turn ∈ taken →
      AnchorSearch taken base (turn + 1) anchor → AnchorSearch taken base turn anchor

variable {taken : List Text} {base anchor : Text} {turn : Nat}

/-- The anchor that is found is not taken. -/
theorem AnchorSearch.not_mem (search : AnchorSearch taken base turn anchor) : anchor ∉ taken := by
  induction search with
  | free absent => exact absent
  | next _ _ ih => exact ih

/-- The search ends at the first free candidate. -/
theorem anchorSearch_of_free {last : Nat} (free : numberedAnchor base last ∉ taken)
    (held : ∀ turn < last, numberedAnchor base turn ∈ taken) (reached : turn ≤ last) :
    AnchorSearch taken base turn (numberedAnchor base last) := by
  induction steps : last - turn generalizing turn with
  | zero =>
    obtain rfl : turn = last := by omega
    exact .free free
  | succ steps ih =>
    have earlier : turn < last := by omega
    exact .next (held turn earlier) (ih earlier (by omega))

/-- Distinct numbers give distinct anchors. -/
theorem numberedAnchor_injective (base : Text) : Function.Injective (numberedAnchor base) := by
  intro m n same
  cases m with
  | zero =>
    cases n with
    | zero => rfl
    | succ n => exact absurd (List.self_eq_append_right.mp same) (List.cons_ne_nil _ _)
  | succ m =>
    cases n with
    | zero => exact absurd (List.self_eq_append_right.mp same.symm) (List.cons_ne_nil _ _)
    | succ n =>
      obtain ⟨-, number⟩ := List.cons_eq_cons.mp (List.append_cancel_left same)
      have := Text.ofNat_injective number
      omega

/-- Among one more candidates than there are taken anchors one is free. -/
theorem exists_free (taken : List Text) (base : Text) :
    ∃ turn < taken.length + 1, numberedAnchor base turn ∉ taken := by
  by_contra none
  simp only [not_exists, not_and, not_not] at none
  have candidates : ((List.range (taken.length + 1)).map (numberedAnchor base)).Nodup :=
    List.nodup_range.map (numberedAnchor_injective base)
  have inside : (List.range (taken.length + 1)).map (numberedAnchor base) ⊆ taken := by
    intro candidate member
    obtain ⟨turn, listed, rfl⟩ := List.mem_map.mp member
    exact none turn (List.mem_range.mp listed)
  have fits := (List.subperm_of_subset candidates inside).length_le
  rw [List.length_map, List.length_range] at fits
  omega

/-- **The search for an anchor ends**, with the anchor that a new citation gets. -/
theorem anchorSearch_freeAnchor (taken : List Text) (base : Text) :
    AnchorSearch taken base 0 (freeAnchor taken base) := by
  rw [freeAnchor, List.find?_map]
  cases found : (List.range (taken.length + 1)).find?
      ((!taken.contains ·) ∘ numberedAnchor base) with
  | none =>
    obtain ⟨turn, bound, free⟩ := exists_free taken base
    have := List.find?_eq_none.mp found turn (List.mem_range.mpr bound)
    simp [free] at this
  | some last =>
    obtain ⟨free, -, held⟩ := List.find?_range_eq_some.mp found
    simp only [Function.comp_apply, Bool.not_eq_true', List.contains_eq_mem,
      decide_eq_false_iff_not, Bool.not_not, decide_eq_true_eq] at free held
    exact anchorSearch_of_free free held (Nat.zero_le last)

/-! ## What edits keep -/

/-- The definitions whose name no earlier one has, in order. -/
def firstDefinitions : List (Text × Text) → List (Text × Text)
  | [] => []
  | definition :: definitions =>
    definition :: (firstDefinitions definitions).filter (·.1 != definition.1)

/-- What is done to a table. -/
inductive Edit where
  | insert (id raw : Text)
  | format (formatter : Citation.Formatter)

/-- The table after one edit. -/
def Edit.apply (table : CitationTable) : Edit → CitationTable
  | insert id raw => (table.insert id raw).2
  | format formatter => table.format formatter

/-- The table that edits make of the empty one. -/
def afterEdits (edits : List Edit) : CitationTable :=
  edits.foldl Edit.apply empty

/-- The definition that an edit inserts, if it inserts one. -/
def Edit.definition? : Edit → Option (Text × Text)
  | insert id raw => some (id, raw)
  | format _ => none

/-- The names that are defined first are all names that are defined. -/
theorem mem_map_fst_firstDefinitions {definitions : List (Text × Text)} {id : Text} :
    id ∈ (firstDefinitions definitions).map Prod.fst ↔ id ∈ definitions.map Prod.fst := by
  induction definitions with
  | nil => rfl
  | cons definition definitions ih =>
    simp only [firstDefinitions, List.map_cons, List.mem_cons, ← ih, List.mem_map, List.mem_filter,
      bne_iff_ne]
    constructor
    · rintro (same | ⟨other, ⟨member, -⟩, rfl⟩)
      · exact .inl same
      · exact .inr ⟨other, member, rfl⟩
    · rintro (same | ⟨other, member, rfl⟩)
      · exact .inl same
      · by_cases same : other.1 = definition.1
        · exact .inl same
        · exact .inr ⟨other, ⟨member, same⟩, rfl⟩

/-- One more definition is a first one, or its name has come before. -/
theorem firstDefinitions_concat (definitions : List (Text × Text)) (definition : Text × Text) :
    firstDefinitions (definitions ++ [definition]) =
      if definition.1 ∈ definitions.map Prod.fst then firstDefinitions definitions
      else firstDefinitions definitions ++ [definition] := by
  induction definitions with
  | nil => rfl
  | cons first definitions ih =>
    rw [List.cons_append, firstDefinitions, ih, List.map_cons]
    by_cases again : definition.1 = first.1
    · rw [again, if_pos List.mem_cons_self, firstDefinitions]
      split
      · rfl
      · rw [List.filter_append]
        simp [again]
    · have later : definition.1 ∈ first.1 :: definitions.map Prod.fst ↔
          definition.1 ∈ definitions.map Prod.fst := by simp [again]
      by_cases held : definition.1 ∈ definitions.map Prod.fst
      · rw [if_pos held, if_pos (later.mpr held), firstDefinitions]
      · rw [if_neg held, if_neg (mt later.mp held), firstDefinitions, List.filter_append]
        simp [again]

/-- What inserting and formatting keep: names and anchors are pairwise distinct, each
citation knows its place, and the places are listed by name. -/
structure IsConsistent (table : CitationTable) : Prop where
  ids_nodup : (table.entries.map Citation.id).Nodup
  anchors_nodup : (table.entries.map Citation.anchor).Nodup
  indices : table.entries.map Citation.index = List.range table.entries.length
  places : table.places = (table.entries.map Citation.id).zipIdx.reverse

variable {table : CitationTable} {id raw : Text} {formatter : Citation.Formatter}

private theorem isConsistent_empty : IsConsistent empty :=
  ⟨.nil, .nil, rfl, rfl⟩

/-- A name has a place in a consistent table exactly when a citation has that name. -/
theorem IsConsistent.lookup_isSome_iff (consistent : IsConsistent table) :
    (table.places.lookup id).isSome ↔ id ∈ table.entries.map Citation.id := by
  rw [consistent.places, Places.lookup_isSome_iff]

/-- A name that the table holds changes nothing. -/
theorem IsConsistent.insert_of_mem (consistent : IsConsistent table)
    (held : id ∈ table.entries.map Citation.id) : table.insert id raw = (false, table) := by
  rw [insert, if_pos (consistent.lookup_isSome_iff.mpr held)]

/-- The citation that is made of a new definition. -/
def newCitation (table : CitationTable) (id raw : Text) : Citation where
  id := id
  anchor := freeAnchor (table.entries.map Citation.anchor) (Anchor.ofText id)
  rawContent := raw
  index := table.entries.length
  formattedHtml := none

/-- A new name is put at the end. -/
theorem IsConsistent.insert_of_not_mem (consistent : IsConsistent table)
    (new : id ∉ table.entries.map Citation.id) :
    table.insert id raw = (true, ⟨table.entries ++ [newCitation table id raw],
      (id, table.entries.length) :: table.places⟩) := by
  rw [insert, if_neg (mt consistent.lookup_isSome_iff.mp new)]
  rfl

/-- Inserting keeps a table consistent. -/
theorem IsConsistent.insert (consistent : IsConsistent table) :
    IsConsistent (table.insert id raw).2 := by
  by_cases held : id ∈ table.entries.map Citation.id
  · rwa [consistent.insert_of_mem held]
  · rw [consistent.insert_of_not_mem held]
    have free : (newCitation table id raw).anchor ∉ table.entries.map Citation.anchor :=
      (anchorSearch_freeAnchor _ _).not_mem
    constructor
    · rw [List.map_append, List.map_singleton, ← List.concat_eq_append]
      exact consistent.ids_nodup.concat held
    · rw [List.map_append, List.map_singleton, ← List.concat_eq_append]
      exact consistent.anchors_nodup.concat free
    · rw [List.map_append, consistent.indices, List.length_append, List.length_singleton,
        List.range_succ]
      rfl
    · rw [List.map_append, List.map_singleton]
      refine Eq.trans ?_ (Places.concat _ _).symm
      rw [consistent.places, List.length_map]
      rfl

/-- A table without what formatting writes. -/
def unformatted (table : CitationTable) : CitationTable :=
  ⟨table.entries.map Citation.unformatted, table.places⟩

private theorem map_format {α : Type} {part : Citation → α}
    (unchanged : ∀ citation, part (citation.withHtml formatter) = part citation) :
    (table.format formatter).entries.map part = table.entries.map part := by
  rw [format, List.map_map]
  exact List.map_congr_left fun citation _ => unchanged citation

/-- Formatting keeps a table consistent. -/
theorem IsConsistent.format (consistent : IsConsistent table) :
    IsConsistent (table.format formatter) := by
  have ids : (table.format formatter).entries.map Citation.id = table.entries.map Citation.id :=
    map_format fun _ => rfl
  constructor
  · rw [ids]
    exact consistent.ids_nodup
  · rw [map_format fun _ => rfl]
    exact consistent.anchors_nodup
  · rw [map_format fun _ => rfl, consistent.indices, CitationTable.format, List.length_map]
  · rw [ids]
    exact consistent.places

/-- Every edit keeps a table consistent. -/
theorem IsConsistent.apply (consistent : IsConsistent table) (edit : Edit) :
    IsConsistent (edit.apply table) := by
  cases edit with
  | insert id raw => exact consistent.insert
  | format formatter => exact consistent.format

/-- The table holds the first definitions of their names. -/
def Defines (table : CitationTable) (definitions : List (Text × Text)) : Prop :=
  table.entries.map (fun citation => (citation.id, citation.rawContent)) =
    firstDefinitions definitions

private theorem defines_empty : Defines empty [] :=
  rfl

variable {definitions : List (Text × Text)}

private theorem Defines.mem_iff (defines : Defines table definitions) :
    id ∈ table.entries.map Citation.id ↔ id ∈ definitions.map Prod.fst := by
  rw [← mem_map_fst_firstDefinitions, ← defines, List.map_map]
  rfl

/-- Inserting a citation defines its name. -/
theorem Defines.insert (defines : Defines table definitions) (consistent : IsConsistent table) :
    Defines (table.insert id raw).2 (definitions ++ [(id, raw)]) := by
  rw [Defines, firstDefinitions_concat]
  by_cases held : id ∈ table.entries.map Citation.id
  · rw [consistent.insert_of_mem held, if_pos (defines.mem_iff.mp held)]
    exact defines
  · rw [consistent.insert_of_not_mem held, if_neg (mt defines.mem_iff.mpr held), List.map_append,
      defines]
    rfl

/-- Every edit defines what it inserts, and nothing else. -/
theorem Defines.apply (defines : Defines table definitions) (consistent : IsConsistent table)
    (edit : Edit) : Defines (edit.apply table) (definitions ++ edit.definition?.toList) := by
  cases edit with
  | insert id raw => exact defines.insert consistent
  | format formatter =>
    rw [Edit.definition?, Option.toList_none, List.append_nil]
    exact (map_format fun _ => rfl).trans defines

/-- What edits keep, from any table on. -/
theorem isConsistent_foldl (consistent : IsConsistent table) (defines : Defines table definitions)
    (edits : List Edit) :
    IsConsistent (edits.foldl Edit.apply table) ∧
      Defines (edits.foldl Edit.apply table) (definitions ++ edits.filterMap Edit.definition?) := by
  induction edits generalizing table definitions with
  | nil => exact ⟨consistent, by rwa [List.filterMap_nil, List.append_nil]⟩
  | cons edit edits ih =>
    have step := ih (consistent.apply edit) (defines.apply consistent edit)
    rw [List.append_assoc] at step
    rw [List.foldl_cons, List.filterMap_cons]
    cases inserted : edit.definition? <;> rwa [inserted] at step

/-- Whatever edits made it, a table is consistent. -/
theorem isConsistent_afterEdits (edits : List Edit) : IsConsistent (afterEdits edits) :=
  (isConsistent_foldl isConsistent_empty defines_empty edits).1

/-- Whatever edits made it, a table holds the definitions that were inserted. -/
theorem defines_afterEdits (edits : List Edit) :
    Defines (afterEdits edits) (edits.filterMap Edit.definition?) :=
  (isConsistent_foldl isConsistent_empty defines_empty edits).2

/-- In a consistent table the citation under a name is the one that has the name. -/
theorem IsConsistent.get?_eq_some_iff (consistent : IsConsistent table) {citation : Citation} :
    table.get? id = some citation ↔ citation ∈ table.entries ∧ citation.id = id := by
  rw [get?, consistent.places]
  exact Places.getElem?_lookup_eq_some_iff consistent.ids_nodup

/-- In a consistent table each citation knows its place. -/
theorem IsConsistent.index_eq (consistent : IsConsistent table) {place : Nat}
    {citation : Citation} (found : table.entries[place]? = some citation) :
    citation.index = place := by
  have index : (table.entries.map Citation.index)[place]? = some citation.index := by
    rw [List.getElem?_map, found, Option.map_some]
  rw [consistent.indices] at index
  obtain ⟨bound, same⟩ := List.getElem?_eq_some_iff.mp index
  rw [← same, List.getElem_range]

private theorem IsConsistent.insert_eq_false_iff (consistent : IsConsistent table) :
    (table.insert id raw).1 = false ↔ id ∈ table.entries.map Citation.id := by
  by_cases held : id ∈ table.entries.map Citation.id
  · rw [consistent.insert_of_mem held]
    exact iff_of_true rfl held
  · rw [consistent.insert_of_not_mem held]
    exact iff_of_false Bool.noConfusion held

/-- What a table is after definitions were inserted, and what inserting one more and
formatting do to it. -/
structure Lists (table : CitationTable) (definitions : List (Text × Text)) : Prop where
  ids_nodup : (table.entries.map Citation.id).Nodup
  anchors_nodup : (table.entries.map Citation.anchor).Nodup
  index_eq : ∀ (place : Nat) (citation : Citation),
    table.entries[place]? = some citation → citation.index = place
  get?_eq_some_iff : ∀ id citation,
    table.get? id = some citation ↔ citation ∈ table.entries ∧ citation.id = id
  defines : table.entries.map (fun citation => (citation.id, citation.rawContent)) =
    firstDefinitions definitions
  insert_eq_false_iff : ∀ id raw,
    (table.insert id raw).1 = false ↔ id ∈ table.entries.map Citation.id
  insert_of_mem : ∀ id raw, id ∈ table.entries.map Citation.id → (table.insert id raw).2 = table
  insert_of_not_mem : ∀ id raw, id ∉ table.entries.map Citation.id → ∃ anchor,
    AnchorSearch (table.entries.map Citation.anchor) (Anchor.ofText id) 0 anchor ∧
      (table.insert id raw).2.entries =
        table.entries ++ [⟨id, anchor, raw, table.entries.length, none⟩]
  unformatted_format : ∀ formatter, (table.format formatter).unformatted = table.unformatted

/-- **What every table is like**, whatever was inserted and formatted before. -/
theorem lists_afterEdits (edits : List Edit) :
    Lists (afterEdits edits) (edits.filterMap Edit.definition?) := by
  have consistent := isConsistent_afterEdits edits
  exact {
    ids_nodup := consistent.ids_nodup
    anchors_nodup := consistent.anchors_nodup
    index_eq := fun _ _ found => consistent.index_eq found
    get?_eq_some_iff := fun _ _ => consistent.get?_eq_some_iff
    defines := defines_afterEdits edits
    insert_eq_false_iff := fun _ _ => consistent.insert_eq_false_iff
    insert_of_mem := fun _ _ held => by rw [consistent.insert_of_mem held]
    insert_of_not_mem := fun _ _ new =>
      ⟨_, anchorSearch_freeAnchor _ _, by rw [consistent.insert_of_not_mem new]; rfl⟩
    unformatted_format := fun _ => congrArg (CitationTable.mk · _) (map_format fun _ => rfl) }

/-! ## Tables of definitions -/

/-- Inserting definitions is a series of edits. -/
theorem insertAll_eq_afterEdits (definitions : List (Text × Text)) :
    empty.insertAll definitions = afterEdits (definitions.map fun d => .insert d.1 d.2) := by
  rw [afterEdits, List.foldl_map]
  rfl

/-- A table that definitions were put into is consistent. -/
theorem isConsistent_insertAll (definitions : List (Text × Text)) :
    IsConsistent (empty.insertAll definitions) := by
  rw [insertAll_eq_afterEdits]
  exact isConsistent_afterEdits _

section EveryCitation

variable {P : Citation → Prop}

private theorem IsConsistent.forall_mem_insert (consistent : IsConsistent table)
    (held : ∀ citation ∈ table.entries, P citation)
    (new : ∀ table id raw, P (newCitation table id raw)) (id raw : Text) :
    ∀ citation ∈ (table.insert id raw).2.entries, P citation := by
  by_cases again : id ∈ table.entries.map Citation.id
  · rwa [consistent.insert_of_mem again]
  · rw [consistent.insert_of_not_mem again]
    intro citation member
    rcases List.mem_append.mp member with old | last
    · exact held citation old
    · rw [List.mem_singleton.mp last]
      exact new _ _ _

/-- What holds of every new citation holds of all that were inserted. -/
theorem forall_mem_insertAll (definitions : List (Text × Text))
    (new : ∀ table id raw, P (newCitation table id raw)) :
    ∀ citation ∈ (empty.insertAll definitions).entries, P citation := by
  suffices general : ∀ table, IsConsistent table → (∀ citation ∈ table.entries, P citation) →
      ∀ citation ∈ (table.insertAll definitions).entries, P citation from
    general empty isConsistent_empty (List.forall_mem_nil P)
  induction definitions with
  | nil => exact fun _ _ held => held
  | cons definition definitions ih =>
    intro table consistent held
    exact ih _ consistent.insert (consistent.forall_mem_insert held new _ _)

/-- What holds of every new citation and is kept by formatting holds of all citations. -/
theorem forall_mem_afterEdits (edits : List Edit)
    (new : ∀ table id raw, P (newCitation table id raw))
    (formatted : ∀ formatter citation, P citation → P (Citation.withHtml formatter citation)) :
    ∀ citation ∈ (afterEdits edits).entries, P citation := by
  suffices general : ∀ table, IsConsistent table → (∀ citation ∈ table.entries, P citation) →
      ∀ citation ∈ (edits.foldl Edit.apply table).entries, P citation from
    general empty isConsistent_empty (List.forall_mem_nil P)
  induction edits with
  | nil => exact fun _ _ held => held
  | cons edit edits ih =>
    intro table consistent held
    refine ih _ (consistent.apply edit) ?_
    cases edit with
    | insert id raw => exact consistent.forall_mem_insert held new id raw
    | format formatter =>
      exact List.forall_mem_map.mpr fun citation member => formatted _ _ (held citation member)

end EveryCitation

/-- Citations that were only inserted are not formatted. -/
theorem formattedHtml_insertAll (definitions : List (Text × Text)) :
    ∀ citation ∈ (empty.insertAll definitions).entries, citation.formattedHtml = none :=
  forall_mem_insertAll definitions fun _ _ _ => rfl

end CitationTable

end Scriptorium
