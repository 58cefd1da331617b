import Scriptorium.Files.Memory
/-! # What stands where

A tree of files is told by what stands where. Putting a node in its place changes that
place only (`FileTree.get?_put`), and putting what is there already changes nothing
(`FileTree.put_eq_self`).

A tree *grows* into another one by writing files at some places (`FileTree.Grows`): what
stands in it stands there still, a file as a file and a directory as a directory, and files
elsewhere are the same. Then every path leads where it led before (`FileTree.Grows.lookup`).
-/

namespace Scriptorium

/-- A node that is there is put where it is. -/
theorem insertNode_of_mem {location : Location} {node : Node} {nodes : List (Location × Node)}
    (ordered : IsOrdered nodes) (mem : (location, node) ∈ nodes) :
    insertNode location node nodes = nodes := by
  induction nodes with
  | nil => cases mem
  | cons other nodes ih =>
    have ⟨behind, ordered⟩ := List.pairwise_cons.mp ordered
    unfold insertNode
    rcases List.mem_cons.mp mem with rfl | mem
    · exact if_pos rfl
    · have before : other.1 < location := behind _ mem
      have ne : location ≠ other.1 := fun same => List.lt_irrefl _ (same ▸ before)
      rw [if_neg ne, if_neg (List.lt_asymm before), ih ordered mem]

namespace FileTree

variable {tree next after : FileTree} {parent place start : Location} {name : Text} {node : Node}
  {isName : Path.IsName name} {places more : Location → Prop} {steps : List Step} {path : Path}

/-- Trees with the same nodes and the same place to start from are equal. -/
theorem ext (nodes : after.nodes = tree.nodes) (working : after.working = tree.working) :
    after = tree := by
  cases after
  cases tree
  cases nodes
  cases working
  rfl

/-- The content of the file at a place. -/
def file? (tree : FileTree) (place : Location) : Option (List UInt8) :=
  match tree.get? place with
  | some (.file content) => some content
  | _ => none

/-- The file at a place is the one that stands there. -/
theorem file?_eq_some_iff {content : List UInt8} :
    tree.file? place = some content ↔ tree.get? place = some (.file content) := by
  unfold file?
  split
  · rename_i found
    rw [found, Option.some.injEq, Option.some.injEq, Node.file.injEq]
  · rename_i other
    exact iff_of_false (fun found => by cases found) (other content)

/-- Where no file stands there is none. -/
theorem file?_eq_none (other : ∀ content, tree.get? place ≠ some (.file content)) :
    tree.file? place = none :=
  Option.eq_none_iff_forall_ne_some.mpr fun content found =>
    other content (file?_eq_some_iff.mp found)

/-- What stands somewhere has names on the way. -/
theorem isName_of_get? {names : List Text} (found : tree.get? (place ++ names) = some node) :
    ∀ name ∈ names, Path.IsName name := by
  intro name member
  have below : place ++ names ≠ [] := by
    intro none
    rw [(List.append_eq_nil_iff.mp none).2] at member
    cases member
  exact tree.named _ ((get?_eq_some_iff below).mp found) name (List.mem_append_right place member)

/-- What stands somewhere stands in a directory. -/
theorem get?_parent (found : tree.get? (place ++ [name]) = some node) :
    tree.get? place = some .directory := by
  rcases tree.rooted place name node ((get?_eq_some_iff (by simp)).mp found) with rfl | above
  · rfl
  · by_cases root : place = []
    · exact root ▸ rfl
    · exact (get?_eq_some_iff root).mpr above

section Put

variable {within : tree.get? parent = some .directory}
  {free : tree.get? (parent ++ [name]) ≠ some .directory}

/-- Behind an operation the new node stands in its place, and all others stand where they did. -/
theorem get?_put (place : Location) :
    (tree.put parent name node isName within free).get? place =
      if place = parent ++ [name] then some node else tree.get? place := by
  split
  · rename_i same
    subst same
    exact (get?_eq_some_iff (by simp)).mpr mem_insertNode_self
  · rename_i other
    by_cases root : place = []
    · subst root
      rfl
    · refine Option.ext fun node => ?_
      rw [get?_eq_some_iff root, get?_eq_some_iff root]
      constructor
      · intro mem
        rcases mem_insertNode mem with same | mem
        · exact absurd (Prod.ext_iff.mp same).1 other
        · exact mem
      · exact fun mem => mem_insertNode_of_ne mem other

/-- Putting what is there already changes nothing. -/
theorem put_eq_self (same : tree.get? (parent ++ [name]) = some node) :
    tree.put parent name node isName within free = tree :=
  ext (insertNode_of_mem tree.ordered ((get?_eq_some_iff (by simp)).mp same)) rfl

end Put

/-! ## Growing -/

/-- A tree with files written at some places, and perhaps with new directories. -/
structure Grows (places : Location → Prop) (tree after : FileTree) : Prop where
  working : after.working = tree.working
  kind : ∀ place node, tree.get? place = some node →
    ∃ other, after.get? place = some other ∧ other.kind = node.kind
  elsewhere : ∀ place, ¬ places place → after.file? place = tree.file? place

namespace Grows

/-- A tree has grown out of itself. -/
theorem refl (places : Location → Prop) (tree : FileTree) : Grows places tree tree :=
  ⟨rfl, fun _ node found => ⟨node, found, rfl⟩, fun _ _ => rfl⟩

/-- What has grown twice has grown. -/
theorem trans (first : Grows places tree next) (second : Grows places next after) :
    Grows places tree after where
  working := second.working.trans first.working
  kind place node found := by
    obtain ⟨middle, there, same⟩ := first.kind place node found
    obtain ⟨other, still, again⟩ := second.kind place middle there
    exact ⟨other, still, again.trans same⟩
  elsewhere place other := (second.elsewhere place other).trans (first.elsewhere place other)

/-- What has grown in some places has grown in more of them. -/
theorem mono (grows : Grows places tree after) (wider : ∀ place, places place → more place) :
    Grows more tree after :=
  ⟨grows.working, grows.kind, fun place other => grows.elsewhere place (other ∘ wider place)⟩

/-- A directory stays one when a tree grows. -/
theorem directory (grows : Grows places tree after) (found : tree.get? place = some .directory) :
    after.get? place = some .directory := by
  obtain ⟨other, there, same⟩ := grows.kind place _ found
  cases other with
  | file content => cases same
  | directory => exact there

/-- A file that is not written is the same. -/
theorem file (grows : Grows places tree after) {content : List UInt8} (other : ¬ places place)
    (found : tree.get? place = some (.file content)) :
    after.get? place = some (.file content) := by
  rw [← file?_eq_some_iff] at found ⊢
  rw [grows.elsewhere place other, found]

end Grows

/-! ## Following paths -/

private theorem follow_top (steps : List Step) :
    tree.follow start (.top :: steps) = tree.follow [] steps :=
  rfl

private theorem follow_cons_of_ne {step : Step} (other : step ≠ .top) (steps : List Step) :
    tree.follow start (step :: steps) =
      match tree.get? start with
      | none => .error .notFound
      | some (.file _) => .error .notDirectory
      | some .directory => tree.follow (step.move start) steps := by
  cases step with
  | top => contradiction
  | stay => rfl
  | up => rfl
  | down name isName => rfl

/-- Each step starts from a directory, but the one to the root. -/
theorem follow_cons_eq_ok_iff {step : Step} :
    tree.follow start (step :: steps) = .ok place ↔
      (step = .top ∨ tree.get? start = some .directory) ∧
        tree.follow (step.move start) steps = .ok place := by
  by_cases top : step = .top
  · subst top
    rw [follow_top, Step.move]
    exact (and_iff_right (.inl rfl)).symm
  · rw [follow_cons_of_ne top]
    cases tree.get? start with
    | none => simp [top]
    | some node => cases node <;> simp [top]

/-- Steps lead through the place that the first of them lead to. -/
theorem follow_append_eq_ok_iff {more : List Step} :
    tree.follow start (steps ++ more) = .ok place ↔
      ∃ middle, tree.follow start steps = .ok middle ∧ tree.follow middle more = .ok place := by
  induction steps generalizing start with
  | nil => simp [follow]
  | cons step steps ih =>
    simp only [List.cons_append, follow_cons_eq_ok_iff, ih]
    constructor
    · rintro ⟨enters, middle, front, back⟩
      exact ⟨middle, ⟨enters, front⟩, back⟩
    · rintro ⟨middle, ⟨enters, front⟩, back⟩
      exact ⟨enters, middle, front, back⟩

/-- Steps lead where they point to. -/
theorem eq_of_follow (leads : tree.follow start steps = .ok place) :
    place = steps.foldl (fun place step => step.move place) start := by
  induction steps generalizing start with
  | nil =>
    cases leads
    rfl
  | cons step steps ih => exact ih (follow_cons_eq_ok_iff.mp leads).2

/-- A directory is where steps lead and a directory stands. -/
theorem directory_eq_ok_iff :
    tree.directory steps = .ok place ↔
      tree.follow tree.working steps = .ok place ∧ tree.get? place = some .directory := by
  rw [directory, follow_append_eq_ok_iff]
  constructor
  · rintro ⟨middle, leads, stays⟩
    obtain ⟨top | enters, same⟩ := follow_cons_eq_ok_iff.mp stays
    · cases top
    · cases same
      exact ⟨leads, enters⟩
  · rintro ⟨leads, enters⟩
    exact ⟨place, leads, follow_cons_eq_ok_iff.mpr ⟨.inr enters, rfl⟩⟩

/-- An operation that succeeded did so in both of its parts. -/
theorem exists_of_bind_eq_ok {ε α β : Type} {first : Except ε α} {next : α → Except ε β} {b : β}
    (succeeds : first >>= next = .ok b) : ∃ a, first = .ok a ∧ next a = .ok b := by
  cases first with
  | error cause => cases succeeds
  | ok a => exact ⟨a, rfl, succeeds⟩

/-- What is found at a path is what stands where its steps lead. -/
theorem lookup_eq_ok_iff : tree.lookup path = .ok (place, node) ↔
    path.text ≠ [] ∧ tree.follow tree.working path.steps = .ok place ∧
      tree.get? place = some node := by
  constructor
  · intro found
    unfold lookup at found
    split at found
    · cases found
    · rename_i written
      obtain ⟨middle, leads, found⟩ := exists_of_bind_eq_ok found
      cases there : tree.get? middle with
      | none =>
        rw [there] at found
        cases found
      | some other =>
        rw [there] at found
        cases found
        exact ⟨fun empty => written (List.isEmpty_iff.mpr empty), leads, there⟩
  · intro found
    obtain ⟨nonempty, leads, there⟩ := found
    rw [lookup, if_neg fun empty => nonempty (List.isEmpty_iff.mp empty)]
    dsimp only
    rw [leads]
    dsimp only [bind, Except.bind]
    rw [there]
    rfl

namespace Grows

/-- What steps led to they lead to still. -/
theorem follow (grows : Grows places tree after) (leads : tree.follow start steps = .ok place) :
    after.follow start steps = .ok place := by
  induction steps generalizing start with
  | nil => exact leads
  | cons step steps ih =>
    obtain ⟨enters, leads⟩ := follow_cons_eq_ok_iff.mp leads
    exact follow_cons_eq_ok_iff.mpr ⟨enters.imp_right grows.directory, ih leads⟩

/-- A path leads to the same directory when a tree grows. -/
theorem directory_eq_ok (grows : Grows places tree after)
    (leads : tree.directory steps = .ok place) : after.directory steps = .ok place := by
  obtain ⟨leads, enters⟩ := directory_eq_ok_iff.mp leads
  rw [directory_eq_ok_iff, grows.working]
  exact ⟨grows.follow leads, grows.directory enters⟩

/-- **Every path leads where it led before.** -/
theorem lookup (grows : Grows places tree after) (leads : tree.lookup path = .ok (place, node)) :
    ∃ other, after.lookup path = .ok (place, other) ∧ other.kind = node.kind := by
  obtain ⟨written, leads, found⟩ := lookup_eq_ok_iff.mp leads
  obtain ⟨other, there, same⟩ := grows.kind place node found
  exact ⟨other, lookup_eq_ok_iff.mpr ⟨written, grows.working ▸ grows.follow leads, there⟩, same⟩

/-- A file that is not written is found as it was. -/
theorem lookup_file (grows : Grows places tree after) {content : List UInt8}
    (other : ¬ places place) (leads : tree.lookup path = .ok (place, .file content)) :
    after.lookup path = .ok (place, .file content) := by
  obtain ⟨written, leads, found⟩ := lookup_eq_ok_iff.mp leads
  exact lookup_eq_ok_iff.mpr
    ⟨written, grows.working ▸ grows.follow leads, grows.file other found⟩

end Grows

end FileTree

end Scriptorium
