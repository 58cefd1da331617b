import Scriptorium.Proofs.Files.Place
/-! # What replacing a file does

Replacing a file writes at the place of its path and nowhere else; when it fails it writes
nothing, though directories may have been made on the way (`FileTree.grows_replace`). What
was put at a path is found there, and putting it there again changes nothing
(`FileTree.holds_replace`, `FileTree.Holds.replace_eq`); this stays so while files are
written at other places (`FileTree.Holds.grows`).
-/

namespace Scriptorium.FileTree

variable {tree after : FileTree} {before steps : List Step} {last : Step} {path : Path}
  {content : List UInt8} {cause : FileError} {outcome : Except FileError Unit} {place : Location}
  {places : Location → Prop}

/-- No place. -/
abbrev nowhere (_ : Location) : Prop :=
  False

/-! ## Directories on the way -/

/-- A directory that is put where nothing stood lets the tree grow. -/
theorem grows_put_directory {parent : Location} {name : Text} {isName : Path.IsName name}
    {within : tree.get? parent = some .directory}
    {free : tree.get? (parent ++ [name]) ≠ some .directory}
    (vacant : tree.get? (parent ++ [name]) = none) :
    Grows nowhere tree (tree.put parent name .directory isName within free) where
  working := rfl
  kind place node found := by
    have other : place ≠ parent ++ [name] := by
      rintro rfl
      rw [vacant] at found
      cases found
    exact ⟨node, by rw [get?_put, if_neg other, found], rfl⟩
  elsewhere place _ := by
    by_cases same : place = parent ++ [name]
    · subst same
      rw [file?_eq_none (by simp [get?_put]), file?_eq_none (by simp [vacant])]
    · rw [file?, get?_put, if_neg same]
      rfl

/-- A directory is made where there is nothing. -/
theorem exists_of_makeDirectory_eq_ok (made : tree.makeDirectory before last = .ok after) :
    ∃ parent name isName within free, tree.directory before = .ok parent ∧
      last = .down name isName ∧ tree.get? (parent ++ [name]) = none ∧
        after = tree.put parent name .directory isName within free := by
  obtain ⟨parent, leads, made⟩ := exists_of_bind_eq_ok made
  cases last with
  | down name isName =>
    dsimp only at made
    split at made
    · rename_i vacant
      split at made
      · rename_i within
        cases made
        exact ⟨parent, name, isName, within, by simp [vacant], leads, rfl, vacant, rfl⟩
      · cases made
    · cases made
  | _ => cases made

private theorem grows_makeDirectory (made : tree.makeDirectory before last = .ok after) :
    Grows nowhere tree after ∧ ∃ place, after.directory (before ++ [last]) = .ok place := by
  obtain ⟨parent, name, isName, within, free, leads, rfl, vacant, rfl⟩ :=
    exists_of_makeDirectory_eq_ok made
  have grows : Grows nowhere tree (tree.put parent name .directory isName within free) :=
    grows_put_directory vacant
  refine ⟨grows, parent ++ [name], ?_⟩
  obtain ⟨leads, held⟩ := directory_eq_ok_iff.mp (grows.directory_eq_ok leads)
  rw [directory_eq_ok_iff, follow_append_eq_ok_iff]
  refine ⟨⟨parent, leads, follow_cons_eq_ok_iff.mpr ⟨.inr held, rfl⟩⟩, ?_⟩
  rw [get?_put, if_pos rfl]

/-- Making sure of a directory lets the tree grow, and there is one when it succeeds. -/
theorem ensureDirectory_eq (ensured : tree.ensureDirectory before last = (outcome, after)) :
    Grows nowhere tree after ∧
      (outcome = .ok () → ∃ place, after.directory (before ++ [last]) = .ok place) := by
  unfold ensureDirectory at ensured
  split at ensured
  · rename_i made
    cases ensured
    obtain ⟨grows, found⟩ := grows_makeDirectory made
    exact ⟨grows, fun _ => found⟩
  · split at ensured
    · rename_i found
      cases ensured
      exact ⟨.refl _ _, fun _ => ⟨_, found⟩⟩
    · cases ensured
      exact ⟨.refl _ _, nofun⟩

/-- Making directories writes no file. Where it succeeds they are there. -/
theorem makeDirectories_eq (steps : List Step)
    (made : tree.makeDirectories steps = (outcome, after)) :
    Grows nowhere tree after ∧ (steps ≠ [] → outcome = .ok () →
      ∃ place, after.directory steps.reverse = .ok place) := by
  induction steps generalizing outcome after with
  | nil =>
    cases made
    exact ⟨.refl _ _, fun none => absurd rfl none⟩
  | cons last before ih =>
    rw [List.reverse_cons]
    unfold makeDirectories at made
    split at made
    · split at made
      · rename_i deeper
        obtain ⟨first, -⟩ := ih deeper
        obtain ⟨second, found⟩ := ensureDirectory_eq made
        exact ⟨first.trans second, fun _ => found⟩
      · rename_i failed
        obtain ⟨first, -⟩ := ih made
        refine ⟨first, fun _ succeeds => ?_⟩
        subst succeeds
        exact absurd made (failed _)
    · obtain ⟨grows, found⟩ := ensureDirectory_eq made
      exact ⟨grows, fun _ => found⟩

/-- The way to a directory leads through one, unless it starts at the root. -/
theorem directory_of_directory_append (other : last ≠ .top)
    (found : tree.directory (before ++ [last]) = .ok place) :
    ∃ parent, tree.directory before = .ok parent ∧ place = last.move parent := by
  obtain ⟨leads, -⟩ := directory_eq_ok_iff.mp found
  obtain ⟨parent, front, steps⟩ := follow_append_eq_ok_iff.mp leads
  obtain ⟨top | held, same⟩ := follow_cons_eq_ok_iff.mp steps
  · exact absurd top other
  · cases same
    exact ⟨parent, directory_eq_ok_iff.mpr ⟨front, held⟩, rfl⟩

/-- Where a directory stands none can be made. -/
theorem makeDirectory_of_directory (other : last ≠ .top)
    (found : tree.directory (before ++ [last]) = .ok place) :
    tree.makeDirectory before last = .error .alreadyExists := by
  obtain ⟨parent, leads, rfl⟩ := directory_of_directory_append other found
  have held := (directory_eq_ok_iff.mp found).2
  rw [makeDirectory, leads]
  cases last with
  | down name isName =>
    have taken : ¬ tree.get? (parent ++ [name]) = none := by
      intro vacant
      rw [Step.move, vacant] at held
      cases held
    exact dif_neg taken
  | _ => rfl

/-- Directories that are there are not made again. -/
theorem makeDirectories_of_directory (other : last ≠ .top)
    (found : tree.directory (before ++ [last]) = .ok place) :
    tree.makeDirectories (before ++ [last]).reverse = (.ok (), tree) := by
  rw [List.reverse_append, List.reverse_singleton, List.singleton_append, makeDirectories,
    List.reverse_reverse, makeDirectory_of_directory other found]
  dsimp only
  rw [ensureDirectory, makeDirectory_of_directory other found]
  dsimp only
  rw [found]

private theorem exists_steps_eq (path : Path) :
    ∃ before last, path.steps = before ++ [last] ∧ last ≠ .top := by
  obtain ⟨front, final, parts⟩ : ∃ front final, path.text.splitOn '/' = front ++ [final] :=
    ⟨_, _, (List.dropLast_concat_getLast (Text.splitOn_ne_nil '/' path.text)).symm⟩
  obtain ⟨before, steps⟩ : ∃ before, path.steps = before ++ [Step.ofSegment final] := by
    rw [Path.steps, parts, List.map_append, ← List.append_assoc]
    exact ⟨_, rfl⟩
  refine ⟨before, _, steps, ?_⟩
  unfold Step.ofSegment
  repeat' split
  all_goals
    intro same
    cases same

/-! ## The file -/

/-- A file is put under a name in a directory. -/
theorem putFile_eq_ok_iff : tree.putFile path content = .ok after ↔
    path.text ≠ [] ∧ path.text.dropEndWhile (· == '/') = path.text ∧
      ∃ parent name isName within free, tree.directory path.steps.dropLast = .ok parent ∧
        path.steps.getLast? = some (.down name isName) ∧
          after = tree.put parent name (.file content) isName within free := by
  constructor
  · intro put
    unfold putFile at put
    split at put
    · cases put
    · rename_i written
      obtain ⟨parent, leads, put⟩ := exists_of_bind_eq_ok put
      refine ⟨fun empty => written (List.isEmpty_iff.mpr empty), ?_⟩
      split at put
      · rename_i name isName last
        split at put
        · cases put
        · rename_i whole
          have same : (⟨path.text.dropEndWhile (· == '/')⟩ : Path) = path :=
            Classical.not_not.mp whole
          rw [same] at leads last
          split at put
          · rename_i free
            split at put
            · rename_i within
              cases put
              exact ⟨congrArg Path.text same, parent, name, isName, within, free, leads, last, rfl⟩
            · cases put
          · cases put
      · cases put
  · rintro ⟨written, whole, parent, name, isName, within, free, leads, last, rfl⟩
    have same : (⟨path.text.dropEndWhile (· == '/')⟩ : Path) = path := by rw [whole]
    rw [putFile, if_neg fun empty => written (List.isEmpty_iff.mp empty)]
    simp only [same, leads, bind, Except.bind, last, ne_eq, not_true_eq_false, ↓reduceIte]
    rw [dif_pos free, dif_pos within]
    rfl

section PutFile

variable {parent : Location} {name : Text} {isName : Path.IsName name}

/-- The place under a name in a directory is where the path leads. -/
theorem follow_of_directory (leads : tree.directory path.steps.dropLast = .ok parent)
    (last : path.steps.getLast? = some (.down name isName)) :
    tree.follow tree.working path.steps = .ok (parent ++ [name]) := by
  obtain ⟨leads, held⟩ := directory_eq_ok_iff.mp leads
  obtain ⟨before, whole⟩ := List.getLast?_eq_some_iff.mp last
  rw [whole, List.dropLast_concat] at leads
  rw [whole, follow_append_eq_ok_iff]
  exact ⟨parent, leads, follow_cons_eq_ok_iff.mpr ⟨.inr held, rfl⟩⟩

/-- A file that is put somewhere lets the tree grow at its place only. -/
theorem grows_put_file {within : tree.get? parent = some .directory}
    {free : tree.get? (parent ++ [name]) ≠ some .directory} :
    Grows (· = parent ++ [name]) tree
      (tree.put parent name (.file content) isName within free) where
  working := rfl
  kind place node found := by
    rw [get?_put]
    by_cases same : place = parent ++ [name]
    · refine ⟨_, if_pos same, ?_⟩
      cases node with
      | file old => rfl
      | directory => exact absurd (same ▸ found) free
    · exact ⟨node, by rw [if_neg same, found], rfl⟩
  elsewhere place other := by
    rw [file?, get?_put, if_neg other]
    rfl

end PutFile

private theorem grows_putFile (put : tree.putFile path content = .ok after) :
    Grows (· = path.place tree.working) tree after := by
  obtain ⟨-, -, parent, name, isName, within, free, leads, last, rfl⟩ := putFile_eq_ok_iff.mp put
  rw [← eq_place_of_follow (follow_of_directory leads last)]
  exact grows_put_file

/-! ## The file and its directories -/

/-- The directory that a file is replaced in. -/
def home (path : Path) : Path :=
  path.parent?.getD ⟨['.']⟩

/-- Whether a file of the given content is where it would be put at a path. -/
structure Holds (tree : FileTree) (path : Path) (content : List UInt8) : Prop where
  home : ∃ place, tree.directory (home path).steps = .ok place
  written : path.text ≠ []
  whole : path.text.dropEndWhile (· == '/') = path.text
  named : ∃ parent name isName, tree.directory path.steps.dropLast = .ok parent ∧
    path.steps.getLast? = some (.down name isName) ∧
      tree.get? (parent ++ [name]) = some (.file content)

namespace Holds

variable (holds : Holds tree path content)
include holds

/-- What is at a path is put there again without a change. -/
theorem replace_eq : tree.replace path content = (.ok (), tree) := by
  obtain ⟨⟨place, home⟩, written, whole, parent, name, isName, leads, last, found⟩ := holds
  obtain ⟨before, final, steps, other⟩ := exists_steps_eq (FileTree.home path)
  have put : tree.putFile path content = .ok tree := by
    refine putFile_eq_ok_iff.mpr ⟨written, whole, parent, name, isName,
      (directory_eq_ok_iff.mp leads).2, by simp [found], leads, last, ?_⟩
    exact (put_eq_self found).symm
  rw [steps] at home
  have made := makeDirectories_of_directory other home
  rw [← steps, FileTree.home] at made
  rw [replace, made]
  dsimp only
  rw [put]

/-- The text that a path holds is found there. -/
theorem lookup_eq : tree.lookup path = .ok (path.place tree.working, .file content) := by
  obtain ⟨-, written, -, parent, name, isName, leads, last, found⟩ := holds
  have arrives := follow_of_directory leads last
  rw [← eq_place_of_follow arrives]
  exact lookup_eq_ok_iff.mpr ⟨written, arrives, found⟩

/-- The text that a path holds is the file at its place. -/
theorem file?_eq : tree.file? (path.place tree.working) = some content :=
  file?_eq_some_iff.mpr (lookup_eq_ok_iff.mp holds.lookup_eq).2.2

/-- It stays there while files are written elsewhere. -/
theorem grows (grows : Grows places tree after) (other : ¬ places (path.place tree.working)) :
    Holds after path content := by
  obtain ⟨⟨home, there⟩, written, whole, parent, name, isName, leads, last, found⟩ := holds
  rw [← eq_place_of_follow (follow_of_directory leads last)] at other
  exact ⟨⟨home, grows.directory_eq_ok there⟩, written, whole, parent, name, isName,
    grows.directory_eq_ok leads, last, grows.file other found⟩

end Holds

/-- **Replacing a file** writes it at the place of its path, or writes nothing. -/
theorem grows_replace (replaced : tree.replace path content = (outcome, after)) :
    Grows (fun place => outcome = .ok () ∧ place = path.place tree.working) tree after := by
  unfold replace at replaced
  split at replaced
  · rename_i made
    cases replaced
    exact (makeDirectories_eq _ made).1.mono fun _ => False.elim
  · rename_i way made
    have grows := (makeDirectories_eq _ made).1
    split at replaced
    · rename_i put
      cases replaced
      have written := grows_putFile put
      rw [grows.working] at written
      exact (grows.mono fun _ => False.elim).trans (written.mono fun place same => ⟨rfl, same⟩)
    · cases replaced
      exact grows.mono fun _ => False.elim

/-- What was put at a path is there. -/
theorem holds_replace (replaced : tree.replace path content = (.ok (), after)) :
    Holds after path content := by
  unfold replace at replaced
  split at replaced
  · cases replaced
  · rename_i way made
    split at replaced
    · rename_i put
      cases replaced
      obtain ⟨before, final, steps, -⟩ := exists_steps_eq (home path)
      obtain ⟨place, there⟩ := (makeDirectories_eq _ made).2 (by
        rw [← home, steps]
        simp) rfl
      rw [List.reverse_reverse] at there
      have grows := grows_putFile put
      obtain ⟨written, whole, parent, name, isName, within, free, leads, last, rfl⟩ :=
        putFile_eq_ok_iff.mp put
      exact ⟨⟨place, grows.directory_eq_ok there⟩, written, whole, parent, name, isName,
        grows.directory_eq_ok leads, last, by rw [get?_put, if_pos rfl]⟩
    · cases replaced

end Scriptorium.FileTree
