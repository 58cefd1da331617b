import Mathlib.Data.List.Basic
import Scriptorium.Path
import Scriptorium.Proofs.Text.Split
/-! # Paths by their components

A path continued by a name has one component more (`Path.components_push`). The names
that a path has below a base come back from its components (`Path.namesBelow_of_below`),
and each of them is a name on its own (`Path.isName_of_mem_components`). Another extension
changes the last name only (`Path.withExtension_push`).
-/

namespace Scriptorium.Path

variable {p base : Path} {name stem extension : Text} {names : List Text}

/-- What follows the components of a base when names are put behind it. -/
abbrev Below (p base : Path) (names : List Text) : Prop :=
  p.components = base.components ++ names.map .normal

private theorem ofSegment?_eq_normal (nonempty : name ≠ []) (notCurrent : name ≠ ['.'])
    (notParent : name ≠ ['.', '.']) : Component.ofSegment? name = some (.normal name) := by
  simp [Component.ofSegment?, nonempty, notCurrent, notParent]

/-- A name that may stand in a path is a component of its own. -/
theorem IsName.ofSegment? (isName : IsName name) :
    Component.ofSegment? name = some (.normal name) :=
  ofSegment?_eq_normal isName.nonempty isName.not_current isName.not_parent

/-- What a text starts with shows in its front. -/
theorem startsWith_append_cons (front : Text) (c : Char) (back : Text) (nonempty : front ≠ []) :
    Text.startsWith (front ++ back) [c] = Text.startsWith front [c] := by
  cases front with
  | nil => exact absurd rfl nonempty
  | cons d front => simp [Text.startsWith, List.isPrefixOf]

private theorem head?_splitOn_append (front back : Text) :
    ((front ++ '/' :: back).splitOn '/').head? = (front.splitOn '/').head? := by
  rw [Text.splitOn_append_cons, List.head?_append]
  cases parts : front.splitOn '/' with
  | nil => exact absurd parts (Text.splitOn_ne_nil '/' front)
  | cons part parts => rfl

/-- A name behind a slash is one component more. -/
theorem components_slash (front : Text) (isName : IsName name) :
    components ⟨front ++ '/' :: name⟩ = components ⟨front ++ ['/']⟩ ++ [.normal name] := by
  have first : firstComponents (front ++ '/' :: name) = firstComponents (front ++ ['/']) := by
    cases front with
    | nil => rfl
    | cons c front =>
      unfold firstComponents
      simp only [head?_splitOn_append,
        startsWith_append_cons _ '/' _ (List.cons_ne_nil c front)]
  have last : (Text.splitOn '/' name).filterMap Component.ofSegment? = [.normal name] := by
    rw [Text.splitOn_of_not_mem isName.whole, List.filterMap_cons_some isName.ofSegment?,
      List.filterMap_nil]
  have slash : (Text.splitOn '/' []).filterMap Component.ofSegment? = [] := rfl
  simp only [components, first, Text.splitOn_append_cons, List.filterMap_append, last, slash,
    List.append_nil, List.append_assoc]

/-- A slash behind a path makes no difference. -/
theorem components_append_slash (front : Text) (nonempty : front ≠ []) :
    components ⟨front ++ ['/']⟩ = components ⟨front⟩ := by
  have slash : (Text.splitOn '/' []).filterMap Component.ofSegment? = [] := rfl
  have first : firstComponents (front ++ ['/']) = firstComponents front := by
    unfold firstComponents
    rw [head?_splitOn_append front [], startsWith_append_cons front '/' ['/'] nonempty]
  simp only [components, first, Text.splitOn_append_cons, List.filterMap_append, slash,
    List.append_nil]

private theorem startsWith_slash (whole : '/' ∉ name) : name.startsWith ['/'] = false := by
  cases name with
  | nil => rfl
  | cons c name =>
    have other : '/' ≠ c := fun same => whole (same ▸ List.mem_cons_self)
    simp [Text.startsWith, List.isPrefixOf, other]

/-- A path continued by a name has that name as its last component. -/
theorem components_push (p : Path) (isName : IsName name) :
    (p.push name).components = p.components ++ [.normal name] := by
  have relative := startsWith_slash isName.whole
  unfold push
  rw [relative]
  by_cases empty : p.text = []
  · have first : firstComponents name = [] := by
      simp [firstComponents, relative, Text.splitOn_of_not_mem isName.whole, isName.not_current]
    simp only [empty, List.isEmpty_nil, Bool.true_or, ↓reduceIte, Bool.false_eq_true,
      List.nil_append]
    rw [components, first, Text.splitOn_of_not_mem isName.whole,
      List.filterMap_cons_some isName.ofSegment?, components, empty]
    rfl
  · by_cases slash : p.text.endsWith ['/'] = true
    · obtain ⟨front, whole⟩ := List.isSuffixOf_iff_suffix.mp slash
      simp only [slash, Bool.or_true, ↓reduceIte, Bool.false_eq_true]
      rw [← whole, List.append_assoc, List.singleton_append, components_slash front isName, whole]
    · have written : p.text.isEmpty = false := by simp [empty]
      simp only [written, slash, Bool.or_self, Bool.false_eq_true, ↓reduceIte]
      rw [components_slash p.text isName, components_append_slash p.text empty]

/-- Nothing is added to the components of a path by an empty name. -/
theorem components_push_nil (p : Path) : (p.push []).components = p.components := by
  by_cases empty : p.text = []
  · simp [push, Text.startsWith, empty, components]
  · by_cases slash : p.text.endsWith ['/'] = true
    · simp [push, Text.startsWith, slash]
    · have written : p.text.isEmpty = false := by simp [empty]
      simp only [push, Text.startsWith, written, slash]
      exact components_append_slash p.text empty

/-- A path with names behind it has their components behind its own. -/
theorem components_join (p : Path) (isName : ∀ name ∈ names, IsName name) :
    (p.join names).components = p.components ++ names.map .normal := by
  unfold join
  induction names generalizing p with
  | nil => rw [List.foldl_nil, List.map_nil, List.append_nil]
  | cons name names ih =>
    have later : ∀ other ∈ names, IsName other :=
      fun other member => isName other (List.mem_cons_of_mem name member)
    rw [List.foldl_cons, ih _ later, components_push p (isName name List.mem_cons_self),
      List.append_assoc, List.map_cons, List.singleton_append]

/-- Every name among the components of a path is one segment of it. -/
theorem isName_of_mem_components (member : .normal name ∈ p.components) : IsName name := by
  have listed : .normal name ∈ (p.text.splitOn '/').filterMap Component.ofSegment? := by
    rcases List.mem_append.mp member with first | listed
    · unfold firstComponents at first
      split at first
      · simp at first
      · split at first <;> simp at first
    · exact listed
  obtain ⟨segment, cut, named⟩ := List.mem_filterMap.mp listed
  unfold Component.ofSegment? at named
  split at named
  · cases named
  · rename_i notNameless
    split at named
    · cases named
    · rename_i notParent
      cases named
      simp only [Bool.or_eq_true, decide_eq_true_eq, not_or] at notNameless
      exact ⟨notNameless.1, notNameless.2, notParent, Text.not_mem_of_mem_splitOn cut⟩

/-- What is below a path consists of names. -/
theorem Below.isName (below : Below p base names) : ∀ name ∈ names, IsName name := by
  intro name member
  apply isName_of_mem_components (p := p)
  rw [below]
  exact List.mem_append_right _ (List.mem_map_of_mem member)

/-- Components that are names have these names. -/
theorem names_map_normal (names : List Text) : Path.names (names.map .normal) = names := by
  induction names with
  | nil => rfl
  | cons name names ih =>
    unfold Path.names at ih ⊢
    rw [List.map_cons, List.filterMap_cons, ih]

/-- The names below a base are found again. -/
theorem namesBelow_of_below (below : Below p base names) : p.namesBelow base = names := by
  have cut : base.components.isPrefixOf? p.components = some (names.map .normal) := by
    rw [below]
    generalize base.components = lead
    induction lead with
    | nil => rfl
    | cons c lead ih =>
      change (if c == c then List.isPrefixOf? lead (lead ++ names.map .normal) else none) = _
      rw [BEq.rfl, if_pos rfl]
      exact ih
  rw [namesBelow, cut, Option.getD_some, names_map_normal]

/-- Nothing stands between a path and itself. -/
theorem namesBelow_self (p : Path) : p.namesBelow p = [] :=
  namesBelow_of_below (List.append_nil _).symm

/-- What is found below a path consists of names. -/
theorem isName_of_mem_namesBelow (member : name ∈ p.namesBelow base) : IsName name := by
  obtain ⟨component, listed, named⟩ := List.mem_filterMap.mp member
  have held : component ∈ p.components := by
    cases cut : base.components.isPrefixOf? p.components with
    | none => rwa [cut] at listed
    | some rest =>
      rw [cut] at listed
      rw [← List.append_eq_of_isPrefixOf?_eq_some cut]
      exact List.mem_append_right _ listed
  cases component with
  | normal other =>
    cases named
    exact isName_of_mem_components held
  | root | current | parent => cases named

/-! ## Extensions -/

/-- The name of a file is the one that was put behind its folder. -/
theorem fileName?_push (p : Path) (isName : IsName name) : (p.push name).fileName? = some name := by
  rw [fileName?, components_push p isName, List.getLast?_concat]

/-- The extension of a file is that of the name that was put behind its folder. -/
theorem extension?_push (p : Path) (isName : IsName name) :
    (p.push name).extension? = (splitName name).2 := by
  rw [extension?, fileName?_push p isName, Option.bind_some]

private theorem takeWhile_reverse_of_dotless (stem : Text) (dotless : '.' ∉ extension) :
    ((stem ++ '.' :: extension).reverse.takeWhile (· != '.')).reverse = extension := by
  have kept : ∀ c ∈ extension.reverse, (c != '.') = true := by
    intro c member
    exact bne_iff_ne.mpr fun same => dotless (same ▸ List.mem_reverse.mp member)
  rw [List.reverse_append, List.reverse_cons, List.append_assoc, List.singleton_append,
    List.takeWhile_append_of_pos kept, List.takeWhile_cons_of_neg (by decide), List.append_nil,
    List.reverse_reverse]

/-- A name is cut at its last dot. -/
theorem splitName_append (nonempty : stem ≠ []) (dotless : '.' ∉ extension) :
    splitName (stem ++ '.' :: extension) = (stem, some extension) := by
  have long := List.length_pos_iff.mpr nonempty
  simp only [splitName, takeWhile_reverse_of_dotless stem dotless, List.length_append,
    List.length_cons]
  rw [if_pos (by omega), show stem.length + (extension.length + 1) - extension.length - 1 =
    stem.length by omega, List.take_left]

/-- A dot in front cuts nothing. -/
theorem splitName_dot (dotless : '.' ∉ extension) :
    splitName ('.' :: extension) = ('.' :: extension, none) := by
  have kept := takeWhile_reverse_of_dotless [] dotless
  rw [List.nil_append] at kept
  simp only [splitName, kept]
  exact if_neg (by simp)

/-- A name has an extension exactly when there is something in front of the dot before it. -/
theorem splitName_snd_eq_some_iff (dotless : '.' ∉ extension) :
    (splitName name).2 = some extension ↔ ∃ stem, stem ≠ [] ∧ name = stem ++ '.' :: extension := by
  constructor
  · intro cut
    have whole := List.takeWhile_append_dropWhile (p := (· != '.')) (l := name.reverse)
    unfold splitName at cut
    dsimp only at cut
    split at cut
    · rename_i long
      cases cut
      have size := congrArg List.length whole
      rw [List.length_append, List.length_reverse] at size
      rw [List.length_reverse] at long
      cases behind : name.reverse.dropWhile (· != '.') with
      | nil =>
        rw [behind, List.length_nil] at size
        omega
      | cons c more =>
        have dot : c = '.' := by
          have stop := List.head_dropWhile_not (· != '.') (l := name.reverse) (by simp [behind])
          simpa [behind] using stop
        subst dot
        rw [behind] at whole size
        refine ⟨more.reverse, fun none => ?_, ?_⟩
        · rw [List.reverse_eq_nil_iff.mp none, List.length_singleton] at size
          omega
        · have turned := congrArg List.reverse whole
          rw [List.reverse_reverse, List.reverse_append, List.reverse_cons, List.append_assoc,
            List.singleton_append] at turned
          exact turned.symm
    · cases cut
  · rintro ⟨stem, nonempty, rfl⟩
    rw [splitName_append nonempty dotless]

/-- The stem of a name is a front of it. -/
theorem prefix_splitName (name : Text) : (splitName name).1 <+: name := by
  unfold splitName
  dsimp only
  split
  · exact List.take_prefix _ _
  · exact List.prefix_rfl

/-- What stands in front of a name that continues a path. -/
def lead (p : Path) : Text :=
  if p.text.isEmpty || p.text.endsWith ['/'] then p.text else p.text ++ ['/']

/-- A name without slashes is put behind the lead of a path. -/
theorem push_eq (p : Path) (whole : '/' ∉ name) : p.push name = ⟨lead p ++ name⟩ := by
  rw [push, startsWith_slash whole, if_neg Bool.false_ne_true, lead]
  split
  · rfl
  · rw [List.append_assoc, List.singleton_append]

private theorem dropTrailing_eq_self {s : Text} (noSlash : s.head? ≠ some '/')
    (noDot : ∀ rest, s ≠ '.' :: '/' :: rest) : dropTrailing s = s := by
  unfold dropTrailing
  split
  · exact absurd rfl noSlash
  · exact absurd rfl (noDot _)
  · rfl

/-- Nothing is dropped behind a name. -/
theorem dropTrailing_of_isName (isName : IsName name) (front : Text) :
    dropTrailing (name.reverse ++ front) = name.reverse ++ front := by
  have whole : '/' ∉ name.reverse := fun held => isName.whole (List.mem_reverse.mp held)
  have notCurrent : name.reverse ≠ ['.'] := fun same =>
    isName.not_current (List.reverse_eq_iff.mp same)
  have nonempty : name.reverse ≠ [] := fun same => isName.nonempty (List.reverse_eq_nil_iff.mp same)
  generalize name.reverse = turned at whole notCurrent nonempty ⊢
  rcases turned with _ | ⟨c, _ | ⟨d, turned⟩⟩
  · exact absurd rfl nonempty
  · refine dropTrailing_eq_self ?_ ?_ <;> simp_all [eq_comm]
  · refine dropTrailing_eq_self ?_ ?_ <;> simp_all [eq_comm]

/-- The extension of a name is replaced in place. -/
theorem withExtension_push (p : Path) (isName : IsName name) (extension : Text)
    (whole : '/' ∉ extension) :
    (p.push name).withExtension extension = p.push ((splitName name).1 ++ '.' :: extension) := by
  have renamed : '/' ∉ (splitName name).1 ++ '.' :: extension := by
    simp only [List.mem_append, List.mem_cons, not_or]
    exact ⟨fun held => isName.whole ((prefix_splitName name).subset held), by decide, whole⟩
  have trimmed : dropTrailing (lead p ++ name).reverse = (lead p ++ name).reverse := by
    rw [List.reverse_append]
    exact dropTrailing_of_isName isName _
  rw [withExtension, fileName?_push p isName, push_eq p renamed, push_eq p isName.whole]
  dsimp only
  rw [trimmed, List.reverse_reverse, List.length_append, Nat.add_sub_cancel, List.take_left,
    List.append_assoc]

end Scriptorium.Path
