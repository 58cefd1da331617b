import Scriptorium.Proofs.Files.Replace
/-! # Operations on a tree of files

An operation that is written for any file store answers on a tree of files, and leaves a
tree behind (`FileTree.perform`). What is read of a file depends on what stands at its place
only (`FileTree.Grows.readText`).
-/

namespace Scriptorium.FileTree

variable {ε α β : Type} {tree after : FileTree} {path : Path} {places : Location → Prop}

/-- What an operation answers on a tree of files, and the tree behind it. -/
def perform (tree : FileTree) (operation : ExceptT ε (StateM FileTree) α) :
    Except ε α × FileTree :=
  operation.run.run tree

/-- An operation is performed on what the one before it left, unless that one failed. -/
theorem perform_bind (first : ExceptT ε (StateM FileTree) α)
    (next : α → ExceptT ε (StateM FileTree) β) :
    tree.perform (first >>= next) =
      match tree.perform first with
      | (.ok a, after) => after.perform (next a)
      | (.error cause, after) => (.error cause, after) := by
  unfold perform
  rw [ExceptT.run_bind, StateT.run_bind]
  rcases first.run.run tree with ⟨_ | a, after⟩ <;> rfl

/-- The text of a file. -/
def readText (tree : FileTree) (path : Path) : Except FileError Text :=
  match tree.read path with
  | .ok bytes =>
    match Utf8.decode? bytes with
    | some text => .ok text
    | none => .error .notUtf8
  | .error cause => .error cause

/-- Reading a text changes nothing. -/
theorem perform_readText (path : Path) :
    tree.perform (FileStore.readText path) = (tree.readText path, tree) := by
  have read : tree.perform (ExceptT.mk (FileStore.read path)) = (tree.read path, tree) := rfl
  rw [FileStore.readText, perform_bind, read, readText]
  cases tree.read path with
  | error cause => rfl
  | ok bytes =>
    dsimp only
    cases Utf8.decode? bytes <;> rfl

/-- Another account of a failure is another failure of the same operation. -/
theorem perform_adapt {ε' : Type} (f : ε → ε') (operation : ExceptT ε (StateM FileTree) α) :
    tree.perform (operation.adapt f) =
      ((tree.perform operation).1.mapError f, (tree.perform operation).2) :=
  rfl

/-- An operation that cannot fail is performed as it is. -/
theorem perform_liftM (operation : StateM FileTree α) :
    tree.perform (liftM operation : ExceptT ε (StateM FileTree) α) =
      (.ok (operation.run tree).1, (operation.run tree).2) :=
  rfl

/-- Walking through a directory changes nothing. -/
theorem perform_walk (path : Path) :
    tree.perform (ExceptT.mk (FileStore.walk path)) = (tree.walk path, tree) :=
  rfl

/-! ## Reading -/

private theorem read_eq_ok_iff {content : List UInt8} :
    tree.read path = .ok content ↔ ∃ place, tree.lookup path = .ok (place, .file content) := by
  constructor
  · intro read
    obtain ⟨⟨place, node⟩, leads, read⟩ := exists_of_bind_eq_ok read
    cases node with
    | file found =>
      cases read
      exact ⟨place, leads⟩
    | directory => cases read
  · rintro ⟨place, leads⟩
    rw [read, leads]
    rfl

/-- A text is read where a file stands whose bytes are text. -/
theorem readText_eq_ok_iff {text : Text} :
    tree.readText path = .ok text ↔
      ∃ content place, tree.lookup path = .ok (place, .file content) ∧
        Utf8.decode? content = some text := by
  unfold readText
  constructor
  · intro found
    split at found
    · rename_i content read
      obtain ⟨place, leads⟩ := read_eq_ok_iff.mp read
      split at found
      · rename_i decoded
        cases found
        exact ⟨content, place, leads, decoded⟩
      · cases found
    · cases found
  · rintro ⟨content, place, leads, decoded⟩
    rw [read_eq_ok_iff.mpr ⟨place, leads⟩]
    dsimp only
    rw [decoded]

/-- The text of a file stays while files are written elsewhere. -/
theorem Grows.readText (grows : Grows places tree after) {text : Text}
    (other : ¬ places (path.place tree.working)) (found : tree.readText path = .ok text) :
    after.readText path = .ok text := by
  obtain ⟨content, place, leads, decoded⟩ := readText_eq_ok_iff.mp found
  rw [← eq_place_of_lookup leads] at other
  exact readText_eq_ok_iff.mpr ⟨content, place, grows.lookup_file other leads, decoded⟩

end Scriptorium.FileTree
