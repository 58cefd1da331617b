import Scriptorium.Files.Store
/-! # Trees of files

A file system in memory (`FileTree`) below one directory, the root. Its nodes are kept
in the order in which a walk comes to them, every node stands in a directory under a name
of its own, and one place is the working directory, where relative paths start.
-/

namespace Scriptorium

/-- The names that lead to a place from the root. -/
abbrev Location := List Text

/-- What stands at a place. -/
inductive Node where
  | file (content : List UInt8)
  | directory
  deriving DecidableEq, Repr

/-- The kind of a node. -/
def Node.kind : Node → FileKind
  | .file _ => .file
  | .directory => .directory

/-- Nodes with one more, or with another one in the place of one that was there. -/
def insertNode (location : Location) (node : Node) :
    List (Location × Node) → List (Location × Node)
  | [] => [(location, node)]
  | other :: nodes =>
    if location = other.1 then (location, node) :: nodes
    else if location < other.1 then (location, node) :: other :: nodes
    else other :: insertNode location node nodes

/-- The nodes that stand in order, each once. -/
def IsOrdered (nodes : List (Location × Node)) : Prop :=
  nodes.Pairwise fun first second => first.1 < second.1

/-- The nodes of which each stands at the root or in a directory. -/
def IsRooted (nodes : List (Location × Node)) : Prop :=
  ∀ location name node, (location ++ [name], node) ∈ nodes →
    location = [] ∨ (location, Node.directory) ∈ nodes

/-- What is in a list of nodes behind an insertion was put in or was there before. -/
theorem mem_insertNode {location : Location} {node : Node} {nodes : List (Location × Node)}
    {entry : Location × Node} (mem : entry ∈ insertNode location node nodes) :
    entry = (location, node) ∨ entry ∈ nodes := by
  induction nodes with
  | nil => simpa [insertNode] using mem
  | cons other nodes ih =>
    unfold insertNode at mem
    split at mem
    · simp only [List.mem_cons] at mem ⊢
      grind
    · split at mem
      · simpa only [List.mem_cons] using mem
      · simp only [List.mem_cons] at mem ⊢
        grind

/-- What is put into a list of nodes is in it. -/
theorem mem_insertNode_self {location : Location} {node : Node}
    {nodes : List (Location × Node)} : (location, node) ∈ insertNode location node nodes := by
  induction nodes with
  | nil => simp [insertNode]
  | cons other nodes ih =>
    unfold insertNode
    split
    · simp
    · split <;> simp [ih]

/-- What stands elsewhere stays when a node is put in. -/
theorem mem_insertNode_of_ne {location : Location} {node : Node} {nodes : List (Location × Node)}
    {entry : Location × Node} (mem : entry ∈ nodes) (ne : entry.1 ≠ location) :
    entry ∈ insertNode location node nodes := by
  induction nodes with
  | nil => cases mem
  | cons other nodes ih =>
    unfold insertNode
    simp only [List.mem_cons] at mem
    split
    · rcases mem with rfl | mem
      · simp_all
      · simp [mem]
    · split
      · simp [mem]
      · rcases mem with rfl | mem
        · simp
        · simp [ih mem]

/-- A list of nodes stays ordered when a node is put in. -/
theorem isOrdered_insertNode {location : Location} {node : Node}
    {nodes : List (Location × Node)} (ordered : IsOrdered nodes) :
    IsOrdered (insertNode location node nodes) := by
  unfold IsOrdered at *
  induction nodes with
  | nil => simp [insertNode]
  | cons other nodes ih =>
    have ⟨behind, ordered⟩ := List.pairwise_cons.mp ordered
    unfold insertNode
    split
    · rename_i same
      exact List.pairwise_cons.mpr ⟨fun entry mem => same ▸ behind entry mem, ordered⟩
    · rename_i ne
      split
      · rename_i before
        refine List.pairwise_cons.mpr
          ⟨fun entry mem => ?_, List.pairwise_cons.mpr ⟨behind, ordered⟩⟩
        rcases List.mem_cons.mp mem with rfl | mem
        · exact before
        · exact List.lt_trans before (behind entry mem)
      · rename_i after
        refine List.pairwise_cons.mpr ⟨fun entry mem => ?_, ih ordered⟩
        rcases mem_insertNode mem with rfl | mem
        · exact Decidable.byContradiction fun not_before =>
            ne (Std.Trichotomous.trichotomous _ _ after not_before)
        · exact behind entry mem

/-- The nodes whose places are made of names. -/
def IsNamed (nodes : List (Location × Node)) : Prop :=
  ∀ entry ∈ nodes, ∀ name ∈ entry.1, Path.IsName name

/-- The files below the root. -/
structure FileTree where
  /-- The nodes below the root, with the places where they stand. -/
  nodes : List (Location × Node)
  ordered : IsOrdered nodes
  rooted : IsRooted nodes
  named : IsNamed nodes
  /-- The place where relative paths start. -/
  working : Location

namespace FileTree

/-- The tree without files. -/
def empty : FileTree where
  nodes := []
  ordered := .nil
  rooted := by simp [IsRooted]
  named := by simp [IsNamed]
  working := []

/-- The node at a place. -/
def get? (tree : FileTree) : Location → Option Node
  | [] => some .directory
  | name :: names =>
    (tree.nodes.find? fun entry => entry.1 = name :: names).map Prod.snd

/-- Below the root, what stands in a tree is what its list of nodes says. -/
theorem get?_eq_some_iff {tree : FileTree} {location : Location} {node : Node}
    (below : location ≠ []) : tree.get? location = some node ↔ (location, node) ∈ tree.nodes := by
  obtain ⟨nodes, ordered, rooted, named, working⟩ := tree
  cases location with
  | nil => contradiction
  | cons name names =>
    simp only [get?]
    clear below rooted named working
    induction nodes with
    | nil => simp
    | cons other nodes ih =>
      have ⟨behind, ordered⟩ := List.pairwise_cons.mp ordered
      simp only [List.find?_cons, List.mem_cons]
      by_cases same : other.1 = name :: names
      · simp only [same, decide_true]
        constructor
        · rintro found
          left
          simp only [Option.map_some, Option.some.injEq] at found
          exact Prod.ext same.symm found.symm
        · rintro (rfl | mem)
          · rfl
          · exact absurd (behind _ mem) (by simp only [same]; exact List.lt_irrefl _)
      · simp only [same, decide_false]
        rw [ih ordered]
        constructor
        · exact Or.inr
        · rintro (rfl | mem)
          · exact absurd rfl same
          · exact mem

/-- Below the root, what does not stand in a tree is not in its list of nodes. -/
theorem not_mem_of_get?_ne {tree : FileTree} {location : Location} {node : Node}
    (below : location ≠ []) (ne : tree.get? location ≠ some node) :
    (location, node) ∉ tree.nodes :=
  fun mem => ne ((get?_eq_some_iff below).mpr mem)

/-- The tree with a node under a name in a directory, unless a directory has that
name. -/
def put (tree : FileTree) (parent : Location) (name : Text) (node : Node)
    (isName : Path.IsName name) (within : tree.get? parent = some .directory)
    (free : tree.get? (parent ++ [name]) ≠ some .directory) : FileTree where
  nodes := insertNode (parent ++ [name]) node tree.nodes
  ordered := isOrdered_insertNode tree.ordered
  rooted := by
    intro location last other mem
    have keep : ∀ place, (place, Node.directory) ∈ tree.nodes →
        (place, Node.directory) ∈ insertNode (parent ++ [name]) node tree.nodes := by
      intro place mem
      refine mem_insertNode_of_ne mem ?_
      rintro rfl
      exact not_mem_of_get?_ne (by simp) free mem
    rcases mem_insertNode mem with same | mem
    · have : location = parent := by
        have := congrArg (fun entry => entry.1.dropLast) same
        simpa using this
      subst this
      by_cases root : location = []
      · exact .inl root
      · exact .inr (keep _ ((get?_eq_some_iff root).mp within))
    · rcases tree.rooted _ _ _ mem with root | mem
      · exact .inl root
      · exact .inr (keep _ mem)
  named := by
    intro entry mem part held
    rcases mem_insertNode mem with rfl | mem
    · rcases List.mem_append.mp held with above | last
      · cases parent with
        | nil => cases above
        | cons first rest =>
          exact tree.named _ ((get?_eq_some_iff (List.cons_ne_nil first rest)).mp within) part above
      · exact List.mem_singleton.mp last ▸ isName
    · exact tree.named entry mem part held
  working := tree.working

/-- The tree without what stands at a place and below it. -/
def erase (tree : FileTree) (location : Location) : FileTree where
  nodes := tree.nodes.filter fun entry => !decide (location <+: entry.1)
  ordered := List.Pairwise.filter _ tree.ordered
  rooted := by
    intro place name node mem
    simp only [List.mem_filter, Bool.not_eq_true', decide_eq_false_iff_not] at mem ⊢
    rcases tree.rooted _ _ _ mem.1 with root | parent
    · exact .inl root
    · refine .inr ⟨parent, fun above => mem.2 (above.trans (List.prefix_append _ _))⟩
  named entry mem := tree.named entry (List.mem_filter.mp mem).1
  working := tree.working

end FileTree

end Scriptorium
