import Scriptorium.Math.Decode
import Scriptorium.Proofs.Math.Environment
/-! # The closing of an environment

The search for the closing of an environment counts the openings and closings of its name on
the way. It finds the shortest stretch that ends in a closing and has exactly one closing more
than openings, and fails exactly where there is no such stretch. A search that jumps from one of
them to the next finds the same (`Math.environmentEnd?_eq_jumpToEnd?`), for neither reaches into
the one behind it. The environment that is so delimited comes apart into its name and its body
again, whatever the body holds (`Math.environmentEnd?_shortest`).
-/

namespace Scriptorium

namespace Text

variable {needle s : Text} {c : Char}

/-- How often a text occurs in another one. -/
def occurrences (needle s : Text) : Nat :=
  s.tails.countP needle.isPrefixOf

private theorem occurrences_cons_of_prefix (here : needle <+: c :: s) :
    occurrences needle (c :: s) = occurrences needle s + 1 := by
  rw [occurrences, List.tails_cons]
  exact List.countP_cons_of_pos (List.isPrefixOf_iff_prefix.mpr here)

private theorem occurrences_cons_of_not_prefix (elsewhere : ¬ needle <+: c :: s) :
    occurrences needle (c :: s) = occurrences needle s := by
  rw [occurrences, List.tails_cons]
  exact List.countP_cons_of_neg (mt List.isPrefixOf_iff_prefix.mp elsewhere)

/-- A text occurs only where its first character stands. -/
theorem occurrences_of_not_mem (absent : c ∉ s) (needle : Text) :
    occurrences (c :: needle) s = 0 := by
  refine List.countP_eq_zero.mpr fun tail member start => absent ?_
  have within : c :: needle <+: tail := List.isPrefixOf_iff_prefix.mp start
  exact ((List.mem_tails _ _).mp member).subset (within.subset List.mem_cons_self)

end Text

namespace Math

open Text (occurrences)

variable {name body s p cs stretch front rest : Text} {depth : Nat} {c : Char}

/-- A stretch that closes an environment inside of which `depth` more of its name are open: it
ends in a closing, and it has one closing more than openings for each environment that is open,
itself included. -/
structure EndsEnvironment (name : Text) (depth : Nat) (stretch : Text) : Prop where
  ends : endText name <:+ stretch
  counts : occurrences (endText name) stretch = occurrences (beginText name) stretch + depth + 1

/-! ## Counting on the way -/

/-- Nothing both opens and closes an environment. -/
theorem not_prefix_beginText (closes : endText name <+: s) : ¬ beginText name <+: s := by
  intro opens
  obtain ⟨rest, rfl⟩ := closes
  have lead : ['\\', 'b'] <+: endText name ++ rest := List.IsPrefix.trans ⟨_, rfl⟩ opens
  rw [endText_eq_cons] at lead
  simp at lead

private theorem occurrences_endText (plain : '\\' ∉ name) :
    occurrences (endText name) (endText name) = 1 ∧
      occurrences (beginText name) (endText name) = 0 := by
  have absent : '\\' ∉ ['e', 'n', 'd', '\x7b'] ++ (name ++ ['\x7d']) := by simp [plain]
  have other : ¬ beginText name <+: endText name := not_prefix_beginText List.prefix_rfl
  rw [endText_eq_cons] at other ⊢
  rw [Text.occurrences_cons_of_prefix List.prefix_rfl, Text.occurrences_of_not_mem absent,
    Text.occurrences_cons_of_not_prefix other, beginText_eq_cons,
    Text.occurrences_of_not_mem absent]
  exact ⟨rfl, rfl⟩

/-- What has a backslash in front and no other one does not reach into the closing that a
stretch ends in, so whether it stands before the stretch does not depend on what follows. -/
theorem prefix_cons_iff_of_ends (lead : Text) (absent : '\\' ∉ lead)
    (ends : endText name <:+ p) (within : p <+: cs) :
    '\\' :: lead <+: c :: cs ↔ '\\' :: lead <+: c :: p := by
  obtain ⟨front, rfl⟩ := ends
  obtain ⟨behind, rfl⟩ := within
  rw [endText_eq_cons, List.append_assoc, List.cons_append, backslash_prefix_append_iff absent,
    backslash_prefix_append_iff absent]

section

variable (plain : '\\' ∉ name) (ends : endText name <:+ p) (within : p <+: cs)

include plain ends within

private theorem endText_prefix_iff_of_ends : endText name <+: c :: cs ↔ endText name <+: c :: p :=
  prefix_cons_iff_of_ends (['e', 'n', 'd', '\x7b'] ++ (name ++ ['\x7d']))
    (by simp [plain]) ends within

private theorem beginText_prefix_iff_of_ends :
    beginText name <+: c :: cs ↔ beginText name <+: c :: p :=
  prefix_cons_iff_of_ends (['b', 'e', 'g', 'i', 'n', '\x7b'] ++ (name ++ ['\x7d']))
    (by simp [plain]) ends within

/-- A closing in front of a stretch counts. -/
theorem occurrences_cons_of_closes (closes : endText name <+: c :: cs) :
    occurrences (endText name) (c :: p) = occurrences (endText name) p + 1 ∧
      occurrences (beginText name) (c :: p) = occurrences (beginText name) p := by
  have here := (endText_prefix_iff_of_ends plain ends within).mp closes
  exact ⟨Text.occurrences_cons_of_prefix here,
    Text.occurrences_cons_of_not_prefix (not_prefix_beginText here)⟩

/-- An opening in front of a stretch counts. -/
theorem occurrences_cons_of_opens (opens : beginText name <+: c :: cs) :
    occurrences (endText name) (c :: p) = occurrences (endText name) p ∧
      occurrences (beginText name) (c :: p) = occurrences (beginText name) p + 1 := by
  have here := (beginText_prefix_iff_of_ends plain ends within).mp opens
  exact ⟨Text.occurrences_cons_of_not_prefix fun closes => not_prefix_beginText closes here,
    Text.occurrences_cons_of_prefix here⟩

/-- Other characters do not count. -/
theorem occurrences_cons_of_plain (unclosed : ¬ endText name <+: c :: cs)
    (unopened : ¬ beginText name <+: c :: cs) :
    occurrences (endText name) (c :: p) = occurrences (endText name) p ∧
      occurrences (beginText name) (c :: p) = occurrences (beginText name) p :=
  ⟨Text.occurrences_cons_of_not_prefix
      (mt (endText_prefix_iff_of_ends plain ends within).mpr unclosed),
    Text.occurrences_cons_of_not_prefix
      (mt (beginText_prefix_iff_of_ends plain ends within).mpr unopened)⟩

end

/-! ## What is found -/

/-- What is found in a text from its second character on. -/
theorem exists_of_map_passing {found : Option (Text × Text)}
    (same : found.map (passing [c]) = some (stretch, rest)) :
    ∃ behind, stretch = c :: behind ∧ found = some (behind, rest) := by
  obtain ⟨⟨behind, after⟩, later, whole⟩ := Option.map_eq_some_iff.mp same
  cases whole
  exact ⟨behind, rfl, later⟩

/-- What starts a stretch from the second character of a text on starts it from the first one. -/
theorem exists_prefix_of_map_passing {found later : Option (Text × Text)}
    (same : found = later.map (passing [c]))
    (inside : ∃ stretch rest, later = some (stretch, rest) ∧ stretch <+: p) :
    ∃ stretch rest, found = some (stretch, rest) ∧ stretch <+: c :: p := by
  obtain ⟨stretch, rest, rfl, before⟩ := inside
  exact ⟨c :: stretch, rest, same, List.cons_prefix_cons.mpr ⟨rfl, before⟩⟩

/-- The stretch that is found closes the environment. -/
theorem endsEnvironment_of_environmentEnd? (plain : '\\' ∉ name)
    (found : environmentEnd? name depth s = some (stretch, rest)) :
    s = stretch ++ rest ∧ EndsEnvironment name depth stretch := by
  induction s generalizing depth stretch with
  | nil => cases found
  | cons c cs ih =>
    by_cases closes : endText name <+: c :: cs
    · cases depth with
      | zero =>
        obtain ⟨behind, whole⟩ := closes
        rw [environmentEnd?_of_closes whole] at found
        cases found
        obtain ⟨once, none⟩ := occurrences_endText plain
        exact ⟨whole.symm, List.suffix_rfl, by rw [once, none]⟩
      | succ depth =>
        rw [environmentEnd?_cons_of_closes closes] at found
        obtain ⟨stretch, rfl, later⟩ := exists_of_map_passing found
        obtain ⟨rfl, ends, counts⟩ := ih later
        obtain ⟨closings, openings⟩ :=
          occurrences_cons_of_closes plain ends (List.prefix_append ..) closes
        exact ⟨rfl, ends.trans (List.suffix_cons c stretch), by omega⟩
    · by_cases opens : beginText name <+: c :: cs
      · rw [environmentEnd?_cons_of_opens closes opens] at found
        obtain ⟨stretch, rfl, later⟩ := exists_of_map_passing found
        obtain ⟨rfl, ends, counts⟩ := ih later
        obtain ⟨closings, openings⟩ :=
          occurrences_cons_of_opens plain ends (List.prefix_append ..) opens
        exact ⟨rfl, ends.trans (List.suffix_cons c stretch), by omega⟩
      · rw [environmentEnd?_cons_of_plain closes opens] at found
        obtain ⟨stretch, rfl, later⟩ := exists_of_map_passing found
        obtain ⟨rfl, ends, counts⟩ := ih later
        obtain ⟨closings, openings⟩ :=
          occurrences_cons_of_plain plain ends (List.prefix_append ..) closes opens
        exact ⟨rfl, ends.trans (List.suffix_cons c stretch), by omega⟩

/-- Something is found in every text that starts with a stretch which ends in a closing and has
more closings than are needed, and it ends no later than that stretch. -/
theorem exists_environmentEnd?_of_prefix (plain : '\\' ∉ name) (within : p <+: s)
    (ends : endText name <:+ p)
    (more : occurrences (beginText name) p + depth < occurrences (endText name) p) :
    ∃ stretch rest, environmentEnd? name depth s = some (stretch, rest) ∧ stretch <+: p := by
  induction s generalizing p depth with
  | nil =>
    have nothing : p = [] := List.prefix_nil.mp within
    rw [nothing] at ends
    cases List.suffix_nil.mp ends
  | cons c cs ih =>
    cases p with
    | nil => cases List.suffix_nil.mp ends
    | cons d p =>
      obtain ⟨same, inside⟩ := List.cons_prefix_cons.mp within
      subst same
      rcases List.suffix_cons_iff.mp ends with whole | ends
      · -- The stretch is a closing and nothing else, so no environment is open inside.
        obtain ⟨once, none⟩ := occurrences_endText plain
        rw [← whole, once, none] at more
        obtain rfl : depth = 0 := by omega
        obtain ⟨behind, split⟩ := within
        rw [← whole] at split ⊢
        exact ⟨_, behind, environmentEnd?_of_closes split, List.prefix_rfl⟩
      · by_cases closes : endText name <+: d :: cs
        · cases depth with
          | zero =>
            have start := (endText_prefix_iff_of_ends plain ends inside).mp closes
            obtain ⟨behind, split⟩ := closes
            exact ⟨_, behind, environmentEnd?_of_closes split, start⟩
          | succ depth =>
            obtain ⟨closings, openings⟩ := occurrences_cons_of_closes plain ends inside closes
            exact exists_prefix_of_map_passing (environmentEnd?_cons_of_closes closes depth)
              (ih inside ends (by omega))
        · by_cases opens : beginText name <+: d :: cs
          · obtain ⟨closings, openings⟩ := occurrences_cons_of_opens plain ends inside opens
            exact exists_prefix_of_map_passing (environmentEnd?_cons_of_opens closes opens depth)
              (ih inside ends (by omega))
          · obtain ⟨closings, openings⟩ :=
              occurrences_cons_of_plain plain ends inside closes opens
            exact exists_prefix_of_map_passing (environmentEnd?_cons_of_plain closes opens depth)
              (ih inside ends (by omega))

/-- The stretch that is found is the start of every one that closes the environment. -/
theorem exists_environmentEnd?_of_endsEnvironment (plain : '\\' ∉ name) (within : p <+: s)
    (closed : EndsEnvironment name depth p) :
    ∃ stretch rest, environmentEnd? name depth s = some (stretch, rest) ∧ stretch <+: p := by
  have counts := closed.counts
  exact exists_environmentEnd?_of_prefix plain within closed.ends (by omega)

/-- What is found is the shortest stretch that closes the environment. -/
theorem environmentEnd?_eq_some_iff (plain : '\\' ∉ name) :
    environmentEnd? name depth s = some (stretch, rest) ↔
      s = stretch ++ rest ∧ EndsEnvironment name depth stretch ∧
        ∀ other, other <+: s → EndsEnvironment name depth other →
          stretch.length ≤ other.length := by
  constructor
  · intro found
    obtain ⟨split, closed⟩ := endsEnvironment_of_environmentEnd? plain found
    refine ⟨split, closed, fun other within closes => ?_⟩
    obtain ⟨_, _, again, before⟩ := exists_environmentEnd?_of_endsEnvironment plain within closes
    rw [found] at again
    cases again
    exact before.length_le
  · rintro ⟨split, closed, least⟩
    have within : stretch <+: s := ⟨rest, split.symm⟩
    obtain ⟨first, behind, found, before⟩ :=
      exists_environmentEnd?_of_endsEnvironment plain within closed
    obtain ⟨split', closes⟩ := endsEnvironment_of_environmentEnd? plain found
    obtain rfl := before.eq_of_length_le (least first ⟨behind, split'.symm⟩ closes)
    rw [found, List.append_cancel_left (split'.symm.trans split)]

/-- Nothing is found exactly when no stretch closes the environment. -/
theorem environmentEnd?_eq_none_iff (plain : '\\' ∉ name) :
    environmentEnd? name depth s = none ↔
      ¬ ∃ stretch, stretch <+: s ∧ EndsEnvironment name depth stretch := by
  constructor
  · rintro none ⟨stretch, within, closed⟩
    obtain ⟨_, _, found, -⟩ := exists_environmentEnd?_of_endsEnvironment plain within closed
    rw [none] at found
    cases found
  · intro never
    cases found : environmentEnd? name depth s with
    | none => rfl
    | some parts =>
      obtain ⟨split, closed⟩ := endsEnvironment_of_environmentEnd? plain found
      exact absurd ⟨parts.1, ⟨parts.2, split.symm⟩, closed⟩ never

/-! ## Jumping -/

/-- The search for a closing by jumps from one opening or closing to the next, each found as
the first occurrence behind the one before. -/
def jumpToEnd? (name : Text) (depth : Nat) (s : Text) : Option (Text × Text) :=
  match _ : Text.cut? (endText name) s with
  | none => none
  | some (before, behind) =>
    match _ : (Text.cut? (beginText name) s).filter (·.1.length < before.length) with
    | some (front, inside) =>
      (jumpToEnd? name (depth + 1) inside).map (passing (front ++ beginText name))
    | none =>
      match depth with
      | 0 => some (before ++ endText name, behind)
      | depth + 1 => (jumpToEnd? name depth behind).map (passing (before ++ endText name))
  termination_by s.length
  decreasing_by
  · rename_i opening
    rw [Text.eq_of_cut?_eq_some (Option.filter_eq_some_iff.mp opening).1, beginText_eq_cons]
    simp only [List.length_append, List.length_cons]
    omega
  · rename_i closing _
    rw [Text.eq_of_cut?_eq_some closing, endText_eq_cons]
    simp only [List.length_append, List.length_cons]
    omega

/-- No opening and no closing begins in a front, whatever of it stands before what follows. -/
def IsQuiet (name front s : Text) : Prop :=
  ∀ part, part ≠ [] → part <:+ front →
    ¬ endText name <+: part ++ s ∧ ¬ beginText name <+: part ++ s

/-- The search passes over a quiet front. -/
theorem environmentEnd?_append_of_isQuiet (quiet : IsQuiet name front s) (depth : Nat) :
    environmentEnd? name depth (front ++ s) =
      (environmentEnd? name depth s).map (passing front) := by
  induction front with
  | nil =>
    change _ = (environmentEnd? name depth s).map id
    rw [Option.map_id, List.nil_append, id]
  | cons c front ih =>
    obtain ⟨unclosed, unopened⟩ := quiet (c :: front) (List.cons_ne_nil c front) List.suffix_rfl
    rw [List.cons_append] at unclosed unopened
    have later := ih fun part nonempty suffix =>
      quiet part nonempty (suffix.trans (List.suffix_cons c front))
    rw [List.cons_append, environmentEnd?_cons_of_plain unclosed unopened, later, map_passing_cons]

/-- Without a backslash nothing opens or closes. -/
theorem isQuiet_of_not_mem (absent : '\\' ∉ front) : IsQuiet name front s := by
  intro part nonempty suffix
  obtain ⟨c, part, rfl⟩ := List.exists_cons_of_ne_nil nonempty
  have other : '\\' ≠ c := fun same => absent (same ▸ suffix.subset List.mem_cons_self)
  exact ⟨fun start => other (List.cons_prefix_cons.mp start).1,
    fun start => other (List.cons_prefix_cons.mp start).1⟩

section

variable (plain : '\\' ∉ name)

include plain

private theorem environmentEnd?_beginText_append (depth : Nat) (s : Text) :
    environmentEnd? name depth (beginText name ++ s) =
      (environmentEnd? name (depth + 1) s).map (passing (beginText name)) := by
  have opens : beginText name <+: beginText name ++ s := List.prefix_append ..
  have unclosed : ¬ endText name <+: beginText name ++ s := fun closes =>
    not_prefix_beginText closes opens
  have quiet : IsQuiet name (['b', 'e', 'g', 'i', 'n', '\x7b'] ++ (name ++ ['\x7d'])) s :=
    isQuiet_of_not_mem (by simp [plain])
  have spelled : beginText name ++ s =
      '\\' :: (['b', 'e', 'g', 'i', 'n', '\x7b'] ++ (name ++ ['\x7d']) ++ s) := rfl
  rw [spelled] at opens unclosed ⊢
  rw [environmentEnd?_cons_of_opens unclosed opens, environmentEnd?_append_of_isQuiet quiet,
    map_passing_cons, ← beginText_eq_cons]

private theorem environmentEnd?_endText_append (depth : Nat) (s : Text) :
    environmentEnd? name (depth + 1) (endText name ++ s) =
      (environmentEnd? name depth s).map (passing (endText name)) := by
  have closes : endText name <+: endText name ++ s := List.prefix_append ..
  have quiet : IsQuiet name (['e', 'n', 'd', '\x7b'] ++ (name ++ ['\x7d'])) s :=
    isQuiet_of_not_mem (by simp [plain])
  have spelled : endText name ++ s =
      '\\' :: (['e', 'n', 'd', '\x7b'] ++ (name ++ ['\x7d']) ++ s) := rfl
  rw [spelled] at closes ⊢
  rw [environmentEnd?_cons_of_closes closes, environmentEnd?_append_of_isQuiet quiet,
    map_passing_cons, ← endText_eq_cons]

omit plain in
private theorem isQuiet_of_cut? (split : s = front ++ rest)
    (closings : ∀ found ∈ Text.cut? (endText name) s, front.length ≤ found.1.length)
    (openings : ∀ found ∈ Text.cut? (beginText name) s, front.length ≤ found.1.length) :
    IsQuiet name front rest :=
  fun part nonempty suffix => ⟨Text.not_prefix_of_cut? split closings part nonempty suffix,
    Text.not_prefix_of_cut? split openings part nonempty suffix⟩

omit plain in
/-- What stands before the first closing is quiet, if no opening stands there. -/
theorem isQuiet_of_closing (closing : Text.cut? (endText name) s = some (front, rest))
    (opening : (Text.cut? (beginText name) s).filter (·.1.length < front.length) = none) :
    s = front ++ (endText name ++ rest) ∧ IsQuiet name front (endText name ++ rest) := by
  have split : s = front ++ (endText name ++ rest) := by
    rw [Text.eq_of_cut?_eq_some closing, List.append_assoc]
  have openings : ∀ found ∈ Text.cut? (beginText name) s, front.length ≤ found.1.length :=
    fun found member => not_lt.mp fun first =>
      Option.filter_eq_none_iff.mp opening found member (decide_eq_true first)
  exact ⟨split, isQuiet_of_cut? split (by simp [closing]) openings⟩

/-- **The search by jumps finds the same.** -/
theorem environmentEnd?_eq_jumpToEnd? (depth : Nat) (s : Text) :
    environmentEnd? name depth s = jumpToEnd? name depth s := by
  fun_induction jumpToEnd? name depth s with
  | case1 depth s none =>
    cases found : environmentEnd? name depth s with
    | none => rfl
    | some parts =>
      obtain ⟨split, closed⟩ := endsEnvironment_of_environmentEnd? plain found
      have nowhere := Text.not_prefix_of_cut? split (by rw [none]; nofun) (endText name) nofun
        closed.ends
      exact absurd (List.prefix_append ..) nowhere
  | case2 depth s before behind closing front inside found ih =>
    obtain ⟨opening, first⟩ := Option.filter_eq_some_iff.mp found
    have first : front.length < before.length := of_decide_eq_true first
    have split : s = front ++ (beginText name ++ inside) := by
      rw [Text.eq_of_cut?_eq_some opening, List.append_assoc]
    have quiet : IsQuiet name front (beginText name ++ inside) :=
      isQuiet_of_cut? split (by simp [closing, first.le]) (by simp [opening])
    rw [split, environmentEnd?_append_of_isQuiet quiet, environmentEnd?_beginText_append plain, ih,
      map_passing_append]
  | case3 s before behind closing opening =>
    obtain ⟨split, quiet⟩ := isQuiet_of_closing closing opening
    rw [split, environmentEnd?_append_of_isQuiet quiet, environmentEnd?_of_closes rfl]
    rfl
  | case4 s before behind closing opening depth ih =>
    obtain ⟨split, quiet⟩ := isQuiet_of_closing closing opening
    rw [split, environmentEnd?_append_of_isQuiet quiet, environmentEnd?_endText_append plain, ih,
      map_passing_append]

end

/-! ## The parts of an environment -/

/-- A closing comes off the end of a text, whatever stands before it. -/
theorem dropEnvironmentEnd?_append (isName : IsEnvironmentName name) (body : Text) :
    dropEnvironmentEnd? (body ++ endText name) = some body := by
  have backwards : (body ++ endText name).reverse =
      '\x7d' :: (name.reverse ++ ("\x7bdne\\".toList ++ body.reverse)) := by
    simp [endText_eq_cons]
  obtain ⟨letters, nonempty, all, form⟩ := isName
  have run : Scanner.run isAsciiLetter (letters.reverse ++ ("\x7bdne\\".toList ++ body.reverse)) =
      some (letters.reverse, "\x7bdne\\".toList ++ body.reverse) := by
    refine Scanner.run_append (mt List.reverse_eq_nil_iff.mp nonempty)
      (fun c member => all c (List.mem_reverse.mp member)) fun c first => ?_
    cases first
    decide
  have lead : Scanner.literal "\x7bdne\\".toList ("\x7bdne\\".toList ++ body.reverse) =
      some ((), body.reverse) := Scanner.literal_append _ _
  have brace (rest : Text) : Scanner.literal ['\x7d'] ('\x7d' :: rest) = some ((), rest) :=
    Scanner.literal_append ['\x7d'] rest
  unfold dropEnvironmentEnd?
  rw [backwards, brace]
  rcases form with rfl | rfl
  · -- The name ends with a letter, so no asterisk is read.
    have letter : ∀ c ∈ name.reverse.head?, c ≠ '*' := by
      rintro _ first rfl
      exact absurd (all '*' (List.mem_reverse.mp (List.mem_of_mem_head? first))) (by decide)
    cases last : name.reverse with
    | nil => exact absurd (List.reverse_eq_nil_iff.mp last) nonempty
    | cons c rest =>
      rw [last] at letter run
      have other := letter c rfl
      simp only [Option.bind_eq_bind, Option.bind_some, List.cons_append]
      split
      · rename_i same
        exact absurd (List.cons_eq_cons.mp same).1 other
      · rw [List.cons_append] at run
        rw [run]
        simp only [Option.bind_some, lead, List.reverse_reverse]
  · rw [List.reverse_append, List.reverse_singleton, List.singleton_append, List.cons_append]
    simp only [Option.bind_eq_bind, Option.bind_some, run, lead, List.reverse_reverse]

/-- **An environment comes apart** into its name and its body, whatever the body holds. -/
theorem environmentParts?_environmentText (isName : IsEnvironmentName name) (body : Text) :
    environmentParts? (environmentText name body) = some (name, body) := by
  rw [environmentParts?, environmentText, beginName?_beginText_append isName]
  simp only [Option.bind_eq_bind, Option.bind_some, dropEnvironmentEnd?_append isName]

/-- **The closing that balances.** From any place in a text, what is found is the shortest
stretch that ends in a closing and has exactly one closing more than openings; nothing is found
exactly when there is no such stretch. Jumping there from occurrence to occurrence comes to an end
and to the same place. An environment of which the closing was found comes apart into its name and
its body. Names are letters and perhaps an asterisk, so they hold no backslash. -/
theorem environmentEnd?_shortest (plain : '\\' ∉ name) (text : Text) (start : Nat) :
    environmentEnd? name 0 (text.drop start) = jumpToEnd? name 0 (text.drop start) ∧
    (∀ stretch rest, environmentEnd? name 0 (text.drop start) = some (stretch, rest) ↔
      text.drop start = stretch ++ rest ∧ EndsEnvironment name 0 stretch ∧
        ∀ other, other <+: text.drop start → EndsEnvironment name 0 other →
          stretch.length ≤ other.length) ∧
    (environmentEnd? name 0 (text.drop start) = none ↔
      ¬ ∃ stretch, stretch <+: text.drop start ∧ EndsEnvironment name 0 stretch) ∧
    (IsEnvironmentName name → ∀ body,
      environmentParts? (environmentText name body) = some (name, body)) :=
  ⟨environmentEnd?_eq_jumpToEnd? plain 0 _, fun _ _ => environmentEnd?_eq_some_iff plain,
    environmentEnd?_eq_none_iff plain, fun isName => environmentParts?_environmentText isName⟩

/-- A proof inside of another one, and one closing too many. -/
def overclosed : Text :=
  "\\begin\x7bproof\x7da \\begin\x7bproof\x7db".toList ++
    "\\end\x7bproof\x7d\\end\x7bproof\x7d c\\end\x7bproof\x7d".toList

/-- A proof inside of another one, and one closing too many: the search takes the first that closes
the proof around both. -/
theorem environmentEnd?_shortest_overclosed :
    '\\' ∉ "proof".toList ∧ IsEnvironmentName "proof".toList ∧
      (∀ other, other <+: overclosed.drop 13 → EndsEnvironment "proof".toList 0 other →
        38 ≤ other.length) ∧
      environmentParts? (environmentText "proof".toList overclosed) =
        some ("proof".toList, overclosed) := by
  have isName : IsEnvironmentName "proof".toList :=
    ⟨"proof".toList, by decide, List.all_iff_forall_prop.mp (by decide), .inl rfl⟩
  have plain : '\\' ∉ "proof".toList := by decide
  have all := environmentEnd?_shortest plain overclosed 13
  have found : environmentEnd? "proof".toList 0 (overclosed.drop 13) =
      some ((overclosed.drop 13).take 38, overclosed.drop 51) := by decide
  exact ⟨plain, isName, ((all.2.1 _ _).mp found).2.2, all.2.2.2 isName overclosed⟩

end Math

end Scriptorium
