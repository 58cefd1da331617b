/-! # Keys and their places

Keys are kept with their places, the last one first. Where no key comes twice, the place
that is looked up is the one at which the key stands (`Places.lookup_eq_some_iff`), so what
is found through the place is what stands there (`Places.getElem?_lookup_eq_some_iff`).
-/

namespace Scriptorium.Places

variable {κ α : Type} {keys : List κ} {key : κ} {place : Nat}

/-- One more key has the next place. -/
theorem concat (keys : List κ) (key : κ) :
    (keys ++ [key]).zipIdx.reverse = (key, keys.length) :: keys.zipIdx.reverse := by
  rw [List.zipIdx_append, List.reverse_append, Nat.zero_add]
  rfl

variable [BEq κ] [LawfulBEq κ]

/-- A key has a place exactly when it is among the keys. -/
theorem lookup_isSome_iff : (keys.zipIdx.reverse.lookup key).isSome ↔ key ∈ keys := by
  rw [List.lookup_isSome_iff]
  constructor
  · rintro ⟨⟨other, place⟩, member, same⟩
    rw [beq_iff_eq] at same
    subst same
    exact List.fst_mem_of_mem_zipIdx (List.mem_reverse.mp member)
  · intro member
    obtain ⟨place, found⟩ := List.getElem?_of_mem member
    exact ⟨(key, place), List.mem_reverse.mpr (List.mk_mem_zipIdx_iff_getElem?.mpr found),
      BEq.rfl⟩

/-- A key is found at its place, where no key comes twice. -/
theorem lookup_eq_some_iff (nodup : keys.Nodup) :
    keys.zipIdx.reverse.lookup key = some place ↔ keys[place]? = some key := by
  have stands : ∀ other, keys.zipIdx.reverse.lookup key = some other → keys[other]? = some key := by
    intro other found
    obtain ⟨before, after, whole, -⟩ := List.lookup_eq_some_iff.mp found
    apply List.mk_mem_zipIdx_iff_getElem?.mp
    apply List.mem_reverse.mp
    rw [whole]
    exact List.mem_append_right before List.mem_cons_self
  refine ⟨stands place, fun here => ?_⟩
  obtain ⟨other, found⟩ := Option.isSome_iff_exists.mp
    (lookup_isSome_iff.mpr (List.mem_of_getElem? here))
  have bound : place < keys.length := (List.getElem?_eq_some_iff.mp here).1
  rw [found, (List.getElem?_inj bound nodup).mp (here.trans (stands other found).symm)]

/-- What is found through the place of a key is what stands there with the key. -/
theorem getElem?_lookup_eq_some_iff {entries : List α} {keyOf : α → κ} {entry : α}
    (nodup : (entries.map keyOf).Nodup) :
    (((entries.map keyOf).zipIdx.reverse.lookup key).bind fun place => entries[place]?) =
      some entry ↔ entry ∈ entries ∧ keyOf entry = key := by
  simp only [Option.bind_eq_some_iff, lookup_eq_some_iff nodup, List.getElem?_map,
    Option.map_eq_some_iff]
  constructor
  · rintro ⟨place, ⟨other, found, same⟩, here⟩
    obtain rfl : other = entry := Option.some.inj (found.symm.trans here)
    exact ⟨List.mem_of_getElem? here, same⟩
  · rintro ⟨member, same⟩
    obtain ⟨place, here⟩ := List.getElem?_of_mem member
    exact ⟨place, ⟨entry, here, same⟩, here⟩

end Scriptorium.Places
