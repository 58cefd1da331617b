import Scriptorium.Proofs.Files.Tree
import Scriptorium.Proofs.Path
/-! # Where paths point to

In a tree of files a path leads to the place that its components point to, one after the
other (`FileTree.eq_place_of_follow`). So what a path is continued by is where its place
goes on (`Path.place_of_below`), and a file name is the last name of its place
(`Path.getLast?_place`). What stands below a directory is found by a path to the directory
that is continued by names (`FileTree.lookup_join`).
-/

namespace Scriptorium

/-- Where a component leads from a place. -/
def Path.Component.move (component : Component) (place : Location) : Location :=
  match component with
  | .root => []
  | .current => place
  | .parent => place.dropLast
  | .normal name => place ++ [name]

/-- The place that a path points to, from where relative paths start. -/
def Path.place (path : Path) (working : Location) : Location :=
  path.components.foldl (fun place component => component.move place) working

namespace Path

variable {p base : Path} {name : Text} {names : List Text} {working : Location}

private theorem place_append (lead : List Component) (names : List Text) (working : Location) :
    (lead ++ names.map Component.normal).foldl (fun place component => component.move place)
        working = lead.foldl (fun place component => component.move place) working ++ names := by
  rw [List.foldl_append]
  generalize lead.foldl (fun place component => component.move place) working = place
  induction names generalizing place with
  | nil => exact (List.append_nil place).symm
  | cons name names ih =>
    rw [List.map_cons, List.foldl_cons, ih, Component.move, List.append_assoc]
    rfl

/-- Below a base the place goes on by the names. -/
theorem place_of_below (below : Below p base names) (working : Location) :
    p.place working = base.place working ++ names := by
  rw [place, below, place_append]
  rfl

/-- The name of a file is the last part of its place. -/
theorem getLast?_place (last : p.fileName? = some name) (working : Location) :
    (p.place working).getLast? = some name := by
  unfold fileName? at last
  split at last
  · rename_i final
    cases last
    obtain ⟨front, whole⟩ := List.getLast?_eq_some_iff.mp final
    rw [place, whole, List.foldl_append]
    exact List.getLast?_concat
  · cases last

end Path

/-- A step does what the component of its segment does. -/
theorem Step.move_ofSegment {segment : Text} (whole : '/' ∉ segment) (place : Location) :
    (Step.ofSegment segment).move place =
      match Path.Component.ofSegment? segment with
      | none => place
      | some component => component.move place := by
  unfold Step.ofSegment
  split
  · rename_i isName
    rw [isName.ofSegment?]
    rfl
  · rename_i other
    by_cases parent : segment = ['.', '.']
    · subst parent
      rfl
    · have nameless : segment = [] ∨ segment = ['.'] := by
        refine Classical.byContradiction fun named => other ?_
        exact ⟨(not_or.mp named).1, (not_or.mp named).2, parent, whole⟩
      rw [if_neg parent]
      rcases nameless with rfl | rfl <;> rfl

/-- The steps of a path lead to its place. -/
theorem Path.foldl_steps (path : Path) (working : Location) :
    path.steps.foldl (fun place step => step.move place) working = path.place working := by
  have segments (parts : List Text) (whole : ∀ part ∈ parts, '/' ∉ part) (start : Location) :
      (parts.map Step.ofSegment).foldl (fun place step => step.move place) start =
        (parts.filterMap Component.ofSegment?).foldl
          (fun place component => component.move place) start := by
    induction parts generalizing start with
    | nil => rfl
    | cons part parts ih =>
      obtain ⟨here, later⟩ := List.forall_mem_cons.mp whole
      rw [List.map_cons, List.foldl_cons, ih later, Step.move_ofSegment here, List.filterMap_cons]
      cases Component.ofSegment? part <;> rfl
  have whole (part : Text) (member : part ∈ path.text.splitOn '/') : '/' ∉ part :=
    Text.not_mem_of_mem_splitOn member
  rw [place, components, steps, List.foldl_append, List.foldl_append, segments _ whole]
  congr 1
  unfold firstComponents isAbsolute
  by_cases absolute : path.text.startsWith ['/'] = true
  · rw [if_pos absolute, if_pos absolute]
    rfl
  · rw [if_neg absolute, if_neg absolute]
    split <;> rfl

/-- A path that is continued by a name takes one more step, in place of the one for a slash at
its end. -/
theorem Path.exists_steps_push {path : Path} {name : Text} (written : path.text ≠ [])
    (isName : IsName name) : ∃ before, (path.steps = before ∨ path.steps = before ++ [.stay]) ∧
      (path.push name).steps = before ++ [.down name isName] := by
  obtain ⟨text⟩ := path
  have absolute (more : Text) : isAbsolute ⟨text ++ more⟩ = isAbsolute ⟨text⟩ := by
    cases text with
    | nil => exact absurd rfl written
    | cons c text => simp [isAbsolute, Text.startsWith, List.isPrefixOf]
  have last : Step.ofSegment name = .down name isName := dif_pos isName
  rw [push_eq _ isName.whole, lead]
  by_cases slash : Text.endsWith text ['/'] = true
  · obtain ⟨front, rfl⟩ := List.isSuffixOf_iff_suffix.mp slash
    refine ⟨(if isAbsolute ⟨front ++ ['/']⟩ then [.top] else []) ++
      (Text.splitOn '/' front).map Step.ofSegment, .inr ?_, ?_⟩
    · rw [steps, Text.splitOn_append_cons, List.map_append, ← List.append_assoc]
      rfl
    · rw [slash, Bool.or_true, if_pos rfl, steps, absolute, List.append_assoc,
        List.singleton_append, Text.splitOn_append_cons, Text.splitOn_of_not_mem isName.whole,
        List.map_append, List.map_singleton, last, List.append_assoc]
  · have nonempty : text.isEmpty = false := by simpa using written
    refine ⟨steps ⟨text⟩, .inl rfl, ?_⟩
    rw [nonempty, Bool.false_or, if_neg slash, steps, steps, List.append_assoc, absolute,
      List.singleton_append, Text.splitOn_append_cons, Text.splitOn_of_not_mem isName.whole,
      List.map_append, List.map_singleton, last, List.append_assoc]

namespace FileTree

variable {tree : FileTree} {path : Path} {place : Location} {node : Node} {name : Text}
  {names : List Text}

/-- Steps lead to the place of their path. -/
theorem eq_place_of_follow (leads : tree.follow tree.working path.steps = .ok place) :
    place = path.place tree.working := by
  rw [eq_of_follow leads, Path.foldl_steps]

/-- What a path leads to stands at its place. -/
theorem eq_place_of_lookup (leads : tree.lookup path = .ok (place, node)) :
    place = path.place tree.working :=
  eq_place_of_follow (lookup_eq_ok_iff.mp leads).2.1

/-- What stands in a directory is found under its name. -/
theorem lookup_push (leads : tree.lookup path = .ok (place, .directory))
    (found : tree.get? (place ++ [name]) = some node) :
    tree.lookup (path.push name) = .ok (place ++ [name], node) := by
  obtain ⟨written, leads, held⟩ := lookup_eq_ok_iff.mp leads
  have isName : Path.IsName name := isName_of_get? found name List.mem_cons_self
  obtain ⟨before, steps, pushed⟩ := Path.exists_steps_push written isName
  have arrives : tree.follow tree.working before = .ok place := by
    rcases steps with same | same
    · rwa [same] at leads
    · rw [same, follow_append_eq_ok_iff] at leads
      obtain ⟨middle, front, stays⟩ := leads
      cases (follow_cons_eq_ok_iff.mp stays).2
      exact front
  refine lookup_eq_ok_iff.mpr ⟨?_, ?_, found⟩
  · rw [Path.push_eq _ isName.whole]
    exact List.append_ne_nil_of_right_ne_nil _ isName.nonempty
  · rw [pushed, follow_append_eq_ok_iff]
    exact ⟨place, arrives, follow_cons_eq_ok_iff.mpr ⟨.inr held, rfl⟩⟩

/-- What stands somewhere has directories above it. -/
theorem get?_above {more : List Text} (nonempty : more ≠ [])
    (found : tree.get? (place ++ more) = some node) : tree.get? place = some .directory := by
  induction more generalizing place with
  | nil => exact absurd rfl nonempty
  | cons name more ih =>
    by_cases last : more = []
    · subst last
      exact get?_parent found
    · apply get?_parent
      apply ih last
      rw [List.append_assoc, List.singleton_append]
      exact found

/-- **What stands below a directory** is found under its names. -/
theorem lookup_join (leads : tree.lookup path = .ok (place, .directory)) (nonempty : names ≠ [])
    (found : tree.get? (place ++ names) = some node) :
    tree.lookup (path.join names) = .ok (place ++ names, node) := by
  induction names generalizing path place with
  | nil => exact absurd rfl nonempty
  | cons name names ih =>
    have split : place ++ name :: names = place ++ [name] ++ names := by
      rw [List.append_assoc, List.singleton_append]
    rw [split] at found ⊢
    rw [Path.join, List.foldl_cons]
    by_cases last : names = []
    · subst last
      rw [List.append_nil] at found ⊢
      exact lookup_push leads found
    · exact ih (lookup_push leads (get?_above last found)) last found

end FileTree

end Scriptorium
