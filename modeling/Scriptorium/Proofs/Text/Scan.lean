import Scriptorium.Text.Scan
/-! # Reading what was written

A literal is read where it stands (`Scanner.literal_append`), a run up to the first
character that is not of its class (`Scanner.run_append`). Replacing goes through a text
match by match (`Scanner.replaceAll_of_some`) and character by character where there is
none (`Scanner.replaceAll_of_none`), which is also how one reasons about it
(`Scanner.match_induction`). Where no match reaches across a place the text may be cut there
(`Scanner.pieces_append`), and what the writing for each match leaves alone stays
(`Scanner.replaceAll_invariant`).
-/

namespace Scriptorium

/-- A function gives a shorter text wherever it gives another one. -/
def Shrinks (f : Text → Text) : Prop :=
  ∀ s, f s = s ∨ (f s).length < s.length

namespace Shrinks

variable {f g : Text → Text}

/-- What shrinks texts makes none longer. -/
theorem length_le (shrinks : Shrinks f) (s : Text) : (f s).length ≤ s.length := by
  rcases shrinks s with same | less
  · exact Nat.le_of_eq (congrArg List.length same)
  · exact Nat.le_of_lt less

/-- Two passes leave a text as it is exactly when each of them does. -/
theorem comp_eq_self_iff (outer : Shrinks f) (inner : Shrinks g) (s : Text) :
    f (g s) = s ↔ g s = s ∧ f s = s := by
  constructor
  · intro same
    have kept : g s = s := by
      refine (inner s).resolve_right fun less => ?_
      have bound := outer.length_le (g s)
      rw [same] at bound
      omega
    rw [kept] at same
    exact ⟨kept, same⟩
  · rintro ⟨first, second⟩
    rw [first, second]

/-- Two functions that shrink texts do so one after the other. -/
theorem comp (outer : Shrinks f) (inner : Shrinks g) : Shrinks fun s => f (g s) := by
  intro s
  change f (g s) = s ∨ (f (g s)).length < s.length
  rcases inner s with same | less
  · rw [same]
    exact outer s
  · exact .inr (Nat.lt_of_le_of_lt (outer.length_le (g s)) less)

end Shrinks

namespace Piece

variable {α : Type} {write : α → Text}

/-- A piece as a text, for a match the one that `write` makes of it. -/
def text (write : α → Text) : Piece α → Text
  | .plain c => [c]
  | .found value => write value

/-- Pieces put together. -/
def join (write : α → Text) (pieces : List (Piece α)) : Text :=
  pieces.flatMap (text write)

/-- Pieces are written one behind the other, the first one first. -/
theorem join_cons (piece : Piece α) (pieces : List (Piece α)) :
    join write (piece :: pieces) = piece.text write ++ join write pieces :=
  List.flatMap_cons

/-- Pieces are written one part behind the other. -/
theorem join_append (front behind : List (Piece α)) :
    join write (front ++ behind) = join write front ++ join write behind :=
  List.flatMap_append

end Piece

namespace Scanner

variable {α : Type} {scan : Scanner α} {write : α → Text}

/-- Replacing is putting the pieces together with other texts for the matches. -/
theorem replaceAll_eq_join (scan : Scanner α) (write : α → Text) (s : Text) :
    replaceAll scan write s = Piece.join write (pieces scan s) :=
  rfl

/-- A text is read where it stands. -/
theorem literal_append (lead rest : Text) : literal lead (lead ++ rest) = some ((), rest) :=
  literal_eq_some_iff.mpr rfl

/-- A run is read up to where another character follows. -/
theorem run_append {p : Char → Bool} {found rest : Text} (nonempty : found ≠ [])
    (inside : ∀ c ∈ found, p c = true) (outside : ∀ c ∈ rest.head?, p c = false) :
    run p (found ++ rest) = some (found, rest) := by
  have noMore : rest.takeWhile p = [] ∧ rest.dropWhile p = rest := by
    cases rest with
    | nil => exact ⟨rfl, rfl⟩
    | cons c rest =>
      have stop := outside c rfl
      exact ⟨List.takeWhile_cons_of_neg (by simp [stop]),
        List.dropWhile_cons_of_neg (by simp [stop])⟩
  simp only [run, List.takeWhile_append_of_pos inside, List.dropWhile_append_of_pos inside,
    noMore.1, noMore.2, List.append_nil, List.isEmpty_iff, nonempty, ↓reduceIte]

/-- What is read as a run is a run. -/
theorem run_eq_some {p : Char → Bool} {s found rest : Text} (read : run p s = some (found, rest)) :
    s = found ++ rest ∧ found ≠ [] ∧ (∀ c ∈ found, p c = true) ∧
      ∀ c ∈ rest.head?, p c = false := by
  obtain ⟨split, nonempty⟩ := eq_of_run_eq_some read
  unfold run at read
  split at read
  · cases read
  · cases read
    refine ⟨split, nonempty, fun c member => List.all_eq_true.mp List.all_takeWhile c member, ?_⟩
    intro c first
    cases behind : s.dropWhile p with
    | nil => rw [behind] at first; cases first
    | cons d rest =>
      rw [behind] at first
      cases first
      have stop := List.head_dropWhile_not p (l := s) (by simp [behind])
      simpa [behind] using stop

/-- What holds behind each match, and behind each character that no match starts with,
holds of every text. -/
@[elab_as_elim]
theorem match_induction (shorter : ∀ s value rest, scan s = some (value, rest) →
      rest.length < s.length) {motive : Text → Prop} (nil : motive [])
    (plain : ∀ c cs, scan (c :: cs) = none → motive cs → motive (c :: cs))
    (found : ∀ s value rest, scan s = some (value, rest) → rest.length < s.length →
      motive rest → motive s) (s : Text) : motive s := by
  induction size : s.length using Nat.strongRecOn generalizing s with
  | _ size ih =>
    subst size
    cases read : scan s with
    | some result =>
      have less := shorter s result.1 result.2 read
      exact found s result.1 result.2 read less (ih _ less _ rfl)
    | none =>
      cases s with
      | nil => exact nil
      | cons c cs => exact plain c cs read (ih _ (Nat.lt_succ_self _) cs rfl)

@[simp]
theorem replaceAll_nil : replaceAll scan write [] = [] := by
  simp [replaceAll, pieces]

/-- A character where no match starts is plain. -/
theorem pieces_of_none {c : Char} {cs : Text} (absent : scan (c :: cs) = none) :
    pieces scan (c :: cs) = .plain c :: pieces scan cs := by
  rw [pieces, absent]

/-- A match is a piece, and the search goes on behind it. -/
theorem pieces_of_some {s rest : Text} {value : α} (read : scan s = some (value, rest))
    (shorter : rest.length < s.length) : pieces scan s = .found value :: pieces scan rest := by
  cases s with
  | nil => exact (Nat.not_lt_zero _ shorter).elim
  | cons c cs =>
    have fits : rest.length ≤ cs.length := Nat.le_of_lt_succ shorter
    rw [pieces, read]
    simp only [fits, ↓reduceIte]

/-- Where there is no match a character stays. -/
theorem replaceAll_of_none {c : Char} {cs : Text} (absent : scan (c :: cs) = none) :
    replaceAll scan write (c :: cs) = c :: replaceAll scan write cs := by
  rw [replaceAll, pieces_of_none absent]
  rfl

/-- A match is replaced, and replacing goes on behind it. -/
theorem replaceAll_of_some {s rest : Text} {value : α} (read : scan s = some (value, rest))
    (shorter : rest.length < s.length) :
    replaceAll scan write s = write value ++ replaceAll scan write rest := by
  rw [replaceAll, pieces_of_some read shorter]
  rfl

/-- Where no match starts in a front its characters are plain. -/
theorem pieces_append_of_none {front rest : Text}
    (absent : ∀ part, part ≠ [] → part <:+ front → scan (part ++ rest) = none) :
    pieces scan (front ++ rest) = front.map .plain ++ pieces scan rest := by
  induction front with
  | nil => rfl
  | cons c front ih =>
    have here := absent (c :: front) (List.cons_ne_nil c front) List.suffix_rfl
    rw [List.cons_append] at here ⊢
    rw [pieces_of_none here, List.map_cons, List.cons_append,
      ih fun part nonempty suffix => absent part nonempty (suffix.trans (List.suffix_cons c front))]

/-- Where no match starts in a front it stays. -/
theorem replaceAll_append_of_none {front rest : Text}
    (absent : ∀ part, part ≠ [] → part <:+ front → scan (part ++ rest) = none) :
    replaceAll scan write (front ++ rest) = front ++ replaceAll scan write rest := by
  rw [replaceAll, pieces_append_of_none absent, List.flatMap_append, List.flatMap_map,
    List.flatMap_singleton']
  rfl

/-- Where each match in a front is the same whatever stands behind the front, the pieces of
the whole are those of the front and those of what stands behind. -/
theorem pieces_append {behind : Text}
    (shorter : ∀ s value rest, scan s = some (value, rest) → rest.length < s.length)
    (ends : ∀ s value rest, scan s = some (value, rest) → rest <:+ s)
    (front : Text) (same : ∀ part, part ≠ [] → part <:+ front →
      scan (part ++ behind) = (scan part).map fun found => (found.1, found.2 ++ behind)) :
    pieces scan (front ++ behind) = pieces scan front ++ pieces scan behind := by
  induction front using match_induction shorter with
  | nil => rw [List.nil_append, pieces, List.nil_append]
  | plain c cs absent ih =>
    have here := same (c :: cs) (List.cons_ne_nil c cs) List.suffix_rfl
    rw [absent, Option.map_none, List.cons_append] at here
    rw [List.cons_append, pieces_of_none here, pieces_of_none absent,
      ih fun part nonempty suffix => same part nonempty (suffix.trans (List.suffix_cons c cs)),
      List.cons_append]
  | found s value rest read less ih =>
    have nonempty : s ≠ [] := List.ne_nil_of_length_pos (Nat.zero_lt_of_lt less)
    have here := same s nonempty List.suffix_rfl
    rw [read, Option.map_some] at here
    rw [pieces_of_some here (shorter _ _ _ here), pieces_of_some read less,
      ih fun part nonempty suffix => same part nonempty (suffix.trans (ends _ _ _ read)),
      List.cons_append]

/-- A text may be replaced piecewise where each match in the front is the same whatever stands
behind it. -/
theorem replaceAll_append {behind : Text}
    (shorter : ∀ s value rest, scan s = some (value, rest) → rest.length < s.length)
    (ends : ∀ s value rest, scan s = some (value, rest) → rest <:+ s)
    (front : Text) (same : ∀ part, part ≠ [] → part <:+ front →
      scan (part ++ behind) = (scan part).map fun found => (found.1, found.2 ++ behind)) :
    replaceAll scan write (front ++ behind) =
      replaceAll scan write front ++ replaceAll scan write behind := by
  rw [replaceAll, pieces_append shorter ends front same, List.flatMap_append]
  rfl

private theorem length_lt_of_less (less : ∀ s value rest, scan s = some (value, rest) →
    (write value ++ rest).length < s.length) (s : Text) (value : α) (rest : Text)
    (read : scan s = some (value, rest)) : rest.length < s.length := by
  have replaced := less s value rest read
  rw [List.length_append] at replaced
  omega

/-- Where each match is replaced by a shorter text, the whole becomes shorter or stays. -/
theorem shrinks_replaceAll (less : ∀ s value rest, scan s = some (value, rest) →
    (write value ++ rest).length < s.length) : Shrinks (replaceAll scan write) := by
  intro s
  induction s using match_induction (length_lt_of_less less) with
  | nil => exact .inl replaceAll_nil
  | plain c cs absent ih =>
    rw [replaceAll_of_none absent, List.cons_inj_right, List.length_cons, List.length_cons]
    exact ih.imp_right Nat.succ_lt_succ
  | found s value rest read fewer ih =>
    refine .inr ?_
    have replaced := less s value rest read
    have bound : (replaceAll scan write rest).length ≤ rest.length := by
      rcases ih with same | ih
      · exact Nat.le_of_eq (congrArg List.length same)
      · exact Nat.le_of_lt ih
    rw [replaceAll_of_some read fewer]
    rw [List.length_append] at replaced ⊢
    omega

/-- Where each match is replaced by a shorter text, a text stays exactly when it holds none. -/
theorem replaceAll_eq_self_iff (less : ∀ s value rest, scan s = some (value, rest) →
      (write value ++ rest).length < s.length) {s : Text} :
    replaceAll scan write s = s ↔ ∀ part, part <:+ s → scan part = none := by
  constructor
  · intro same
    induction s using match_induction (length_lt_of_less less) with
    | nil =>
      intro part suffix
      cases read : scan part with
      | none => rfl
      | some found =>
        rw [List.suffix_nil.mp suffix] at read
        exact absurd (less _ _ _ read) (Nat.not_lt_zero _)
    | plain c cs absent ih =>
      rw [replaceAll_of_none absent, List.cons_inj_right] at same
      intro part suffix
      rcases List.suffix_cons_iff.mp suffix with rfl | later
      · exact absent
      · exact ih same part later
    | found s value rest read fewer ih =>
      have replaced := less s value rest read
      have kept := congrArg List.length same
      have bound := (shrinks_replaceAll less).length_le rest
      rw [replaceAll_of_some read fewer, List.length_append] at kept
      rw [List.length_append] at replaced
      omega
  · intro absent
    have kept : replaceAll scan write (s ++ []) = s ++ replaceAll scan write [] :=
      replaceAll_append_of_none fun part _ suffix => by rw [List.append_nil, absent part suffix]
    rwa [replaceAll_nil, List.append_nil] at kept

/-- A match among the pieces of a text was read off an end of it. -/
theorem exists_of_found_mem_pieces {s : Text} {value : α}
    (ends : ∀ s value rest, scan s = some (value, rest) → rest <:+ s)
    (member : .found value ∈ pieces scan s) :
    ∃ part rest, part <:+ s ∧ scan part = some (value, rest) := by
  fun_induction pieces scan s with
  | case1 => cases member
  | case2 c cs other rest read fits ih =>
    rcases List.mem_cons.mp member with same | later
    · cases same
      exact ⟨c :: cs, rest, List.suffix_rfl, read⟩
    · obtain ⟨part, behind, suffix, found⟩ := ih later
      exact ⟨part, behind, suffix.trans (ends _ _ _ read), found⟩
  | case3 c cs other rest read fits ih =>
    obtain ⟨part, behind, suffix, found⟩ := ih (by simpa using member)
    exact ⟨part, behind, suffix.trans (List.suffix_cons c cs), found⟩
  | case4 c cs read ih =>
    obtain ⟨part, behind, suffix, found⟩ := ih (by simpa using member)
    exact ⟨part, behind, suffix.trans (List.suffix_cons c cs), found⟩

/-- What writing for one match leaves alone, whatever stands around it, writing for all matches
leaves alone. -/
theorem replaceAll_invariant {β : Type} {f : Text → β}
    (rewrites : ∀ s value rest, scan s = some (value, rest) → ∃ stretch, s = stretch ++ rest ∧
      ∀ front behind, f (front ++ (write value ++ behind)) = f (front ++ (stretch ++ behind)))
    (s : Text) : f (replaceAll scan write s) = f s := by
  suffices general : ∀ front, f (front ++ replaceAll scan write s) = f (front ++ s) from
    general []
  unfold replaceAll
  fun_induction pieces scan s with
  | case1 => exact fun front => rfl
  | case2 c cs value rest read fits ih =>
    intro front
    obtain ⟨stretch, whole, same⟩ := rewrites _ _ _ read
    rw [List.flatMap_cons, whole, ← List.append_assoc, ih, List.append_assoc, same]
  | case3 c cs value rest read fits ih =>
    intro front
    rw [List.flatMap_cons, ← List.append_assoc, ih, List.append_assoc]
    rfl
  | case4 c cs read ih =>
    intro front
    rw [List.flatMap_cons, ← List.append_assoc, ih, List.append_assoc]
    rfl

/-- A text stays when each match is replaced by what it was read from. -/
theorem replaceAll_eq_self (same : ∀ s value rest, scan s = some (value, rest) →
    s = write value ++ rest) (s : Text) : replaceAll scan write s = s := by
  unfold replaceAll
  fun_induction pieces scan s with
  | case1 => rfl
  | case2 c cs value rest read fits ih => rw [List.flatMap_cons, ih, same _ _ _ read]
  | case3 c cs value rest read fits ih => rw [List.flatMap_cons, ih, List.singleton_append]
  | case4 c cs read ih => rw [List.flatMap_cons, ih, List.singleton_append]

end Scanner

end Scriptorium
