import Scriptorium.Proofs.Library.Build
import Scriptorium.Proofs.Text.Lines
/-! # The documents of a library

The files that a scan reads are told by the names that lead to them from the source root
(`Library.Reached`). Where all of them are in UTF-8 a scan succeeds, and it finds those that
are no drafts, each once (`Library.scan_finds`): in the order of a walk that goes through each
directory by name, and through what is in a directory before what comes behind it
(`Library.Precedes`).
-/

namespace Scriptorium

/-- The text of the file at a place, where one stands that is in UTF-8. -/
def FileTree.text? (tree : FileTree) (place : Location) : Option Text :=
  (tree.file? place).bind Utf8.decode?

namespace Library

variable {config : Config} {tree : FileTree} {root : Location} {names others : List Text}
  {text : Text}

/-! ## What a scan is to find -/

/-- Names that lead from the source root to a Markdown file, through directories of which none
is hidden and none is the published tree. -/
structure Reached (config : Config) (tree : FileTree) (root : Location) (names : List Text) :
    Prop where
  visible : ∀ name ∈ names.dropLast, ¬ ['.'] <+: name
  unpublished : ∀ above, above ≠ [] → above <+: names.dropLast →
    (config.sourceDir.join above).components ≠ config.publicDir.components
  markdown : ∃ stem, stem ≠ [] ∧ names.getLast? = some (stem ++ ".md".toList)
  file : ∃ content, tree.get? (root ++ names) = some (.file content)

/-- A text whose first line says that it is a draft. -/
def IsDraft (text : Text) : Prop :=
  Text.trim (text.takeWhile (· != '\n')) = "[draft]".toList

/-- Names that a walk comes to before others: from a directory on both ways to, it goes on to
an earlier name. -/
def Precedes (names others : List Text) : Prop :=
  ∃ above first second, first < second ∧ above ++ [first] <+: names ∧ above ++ [second] <+: others

/-! ## Directories -/

/-- A scan enters a directory that is neither hidden nor the published one, nor below such a one. -/
theorem enters_iff {place : Path} : enters config place names = true ↔
    (∀ name ∈ names, ¬ ['.'] <+: name) ∧ ∀ above, above ≠ [] → above <+: names →
      (place.join above).components ≠ config.publicDir.components := by
  induction names generalizing place with
  | nil =>
    refine iff_of_true rfl ⟨List.forall_mem_nil _, fun above nonempty within => ?_⟩
    exact absurd (List.prefix_nil.mp within) nonempty
  | cons name names ih =>
    have here : (!isHidden name && !(place.push name).same config.publicDir) = true ↔
        ¬ ['.'] <+: name ∧ (place.push name).components ≠ config.publicDir.components := by
      simp [isHidden, Text.startsWith, Path.same, ← List.isPrefixOf_iff_prefix]
    rw [enters, Bool.and_eq_true, here, ih, List.forall_mem_cons]
    constructor
    · rintro ⟨⟨visible, other⟩, later, below⟩
      refine ⟨⟨visible, later⟩, fun above nonempty within => ?_⟩
      obtain rfl | ⟨more, rfl, further⟩ := List.prefix_cons_iff.mp within
      · exact absurd rfl nonempty
      · by_cases last : more = []
        · exact last ▸ other
        · exact below more last further
    · rintro ⟨⟨visible, later⟩, below⟩
      have single : [name] <+: name :: names := List.prefix_append [name] names
      refine ⟨⟨visible, below [name] (List.cons_ne_nil _ _) single⟩, later, ?_⟩
      intro above _ within
      exact below (name :: above) (List.cons_ne_nil _ _) ((List.prefix_cons_inj name).mpr within)

private theorem isMarkdown_join_iff {name : Text}
    (parts : ∀ part ∈ names ++ [name], Path.IsName part)
    (base : Path) : isMarkdown (base.join (names ++ [name])) = true ↔
      ∃ stem, stem ≠ [] ∧ name = stem ++ ".md".toList := by
  have isName := parts name (List.mem_append_right _ List.mem_cons_self)
  have pushed : base.join (names ++ [name]) = (base.join names).push name := List.foldl_concat ..
  rw [isMarkdown, pushed, Path.extension?_push _ isName, beq_iff_eq,
    Path.splitName_snd_eq_some_iff (by decide)]
  rfl

/-- What a scan reads below the source root is what is reached. -/
theorem mem_documents_iff_reached :
    names ∈ documents config tree root ↔ Reached config tree root names := by
  have file : (tree.file? (root ++ names)).isSome = true ↔
      ∃ content, tree.get? (root ++ names) = some (.file content) := by
    simp only [Option.isSome_iff_exists, FileTree.file?_eq_some_iff]
  rw [mem_documents_iff, file, enters_iff]
  constructor
  · rintro ⟨named, ⟨visible, unpublished⟩, markdown, content, found⟩
    refine ⟨visible, unpublished, ?_, content, found⟩
    have parts := FileTree.isName_of_get? found
    rw [← List.dropLast_append_getLast named] at parts markdown
    obtain ⟨stem, nonempty, last⟩ := (isMarkdown_join_iff parts config.sourceDir).mp markdown
    exact ⟨stem, nonempty, by rw [List.getLast?_eq_some_getLast named, last]⟩
  · rintro ⟨visible, unpublished, ⟨stem, nonempty, last⟩, content, found⟩
    obtain ⟨above, rfl⟩ := List.getLast?_eq_some_iff.mp last
    exact ⟨by simp, ⟨visible, unpublished⟩, (isMarkdown_join_iff (FileTree.isName_of_get? found)
      config.sourceDir).mpr ⟨stem, nonempty, rfl⟩, content, found⟩

/-! ## Drafts -/

private theorem trim_withoutReturn (line : Text) : line.withoutReturn.trim = line.trim := by
  rw [← Text.trim_withoutReturns line.withoutReturn, Text.withoutReturns_withoutReturn,
    Text.trim_withoutReturns]

/-- A text is a draft exactly when its first lines say so. -/
theorem isDraft_iff : isDraft text = true ↔ IsDraft text := by
  have inside {line : Text} (whole : '\n' ∉ line) : ∀ c ∈ line, (c != '\n') = true := by
    intro c member
    exact bne_iff_ne.mpr fun same => whole (same ▸ member)
  unfold IsDraft isDraft
  rcases Text.line_cases text with whole | ⟨front, rest, whole, rfl⟩
  · rw [List.takeWhile_eq_self_iff.mpr (inside whole)]
    by_cases empty : text = []
    · subst empty
      decide
    · rw [Text.lines_of_not_mem whole empty, List.head?_cons, Option.any_some, beq_iff_eq]
  · rw [List.takeWhile_append_of_pos (inside whole), List.takeWhile_cons_of_neg (by decide),
      List.append_nil, Text.lines_append_cons whole, List.head?_cons, Option.any_some, beq_iff_eq,
      trim_withoutReturn]

/-! ## The order of a walk -/

/-- A path comes before another one when it is above it, or by the first names that differ. -/
theorem precedes_of_lt (less : names < others) : names <+: others ∨ Precedes names others := by
  induction names generalizing others with
  | nil => exact .inl (List.nil_prefix)
  | cons name names ih =>
    cases others with
    | nil => exact absurd less (List.not_lt_nil _)
    | cons other others =>
      rcases List.cons_lt_cons_iff.mp less with earlier | ⟨rfl, later⟩
      · exact .inr ⟨[], name, other, earlier, List.prefix_append [name] names,
          List.prefix_append [other] others⟩
      · rcases ih later with above | ⟨above, first, second, earlier, here, there⟩
        · exact .inl ((List.prefix_cons_inj name).mpr above)
        · exact .inr ⟨name :: above, first, second, earlier, (List.prefix_cons_inj name).mpr here,
            (List.prefix_cons_inj name).mpr there⟩

/-- Nothing stands below a file. -/
theorem Reached.names_eq (reached : Reached config tree root names)
    (later : Reached config tree root others) (above : names <+: others) : names = others := by
  obtain ⟨more, rfl⟩ := above
  obtain ⟨content, file⟩ := reached.file
  obtain ⟨_, below⟩ := later.file
  by_cases last : more = []
  · rw [last, List.append_nil]
  · rw [← List.append_assoc] at below
    rw [FileTree.get?_above last below] at file
    cases file

private theorem pairwise_precedes_documents (config : Config) (tree : FileTree) (root : Location) :
    (documents config tree root).Pairwise Precedes := by
  refine (pairwise_documents root).imp_of_mem fun {first second} here there less => ?_
  refine (precedes_of_lt less).resolve_left fun above => List.lt_irrefl second ?_
  rwa [(mem_documents_iff_reached.mp here).names_eq
    (mem_documents_iff_reached.mp there) above] at less

private theorem nodup_documents (config : Config) (tree : FileTree) (root : Location) :
    (documents config tree root).Nodup := by
  refine (pairwise_documents root).imp fun {first second} less => ?_
  rintro rfl
  exact List.lt_irrefl _ less

/-! ## What a scan finds -/

private theorem readText_join (stands : tree.lookup config.sourceDir = .ok (root, .directory))
    (nonempty : names ≠ []) (read : tree.text? (root ++ names) = some text) :
    tree.readText (config.sourceDir.join names) = .ok text := by
  obtain ⟨content, found, decoded⟩ := Option.bind_eq_some_iff.mp read
  exact FileTree.readText_eq_ok_iff.mpr ⟨content, _,
    FileTree.lookup_join stands nonempty (FileTree.file?_eq_some_iff.mp found), decoded⟩

/-- Whether names lead to a document that is no draft. -/
def isFinished (tree : FileTree) (root : Location) (names : List Text) : Bool :=
  (tree.text? (root ++ names)).any (!isDraft ·)

/-- Where all documents can be read, those are published that are no drafts. -/
theorem publishable_map_join {documents : List (List Text)}
    (read : ∀ names ∈ documents, ∃ text, tree.text? (root ++ names) = some text ∧
      tree.readText (config.sourceDir.join names) = .ok text) :
    publishable tree (documents.map config.sourceDir.join) =
      .ok ((documents.filter (isFinished tree root)).map config.sourceDir.join) := by
  induction documents with
  | nil => rfl
  | cons names documents ih =>
    obtain ⟨⟨text, there, readable⟩, later⟩ := List.forall_mem_cons.mp read
    rw [List.map_cons, publishable, readable]
    dsimp only
    rw [ih later]
    cases draft : isDraft text with
    | true =>
      rw [if_pos rfl, List.filter_cons_of_neg (by simp [isFinished, there, draft])]
    | false =>
      rw [if_neg Bool.false_ne_true, List.filter_cons_of_pos (by simp [isFinished, there, draft])]
      rfl

/-- Files are told apart by their paths. -/
theorem nodup_map_join {documents : List (List Text)} (nodup : documents.Nodup) (base : Path)
    (parts : ∀ names ∈ documents, ∀ name ∈ names, Path.IsName name) :
    (documents.map base.join).Nodup := by
  refine nodup.map_on fun first here second there same => ?_
  have components := congrArg Path.components same
  rw [Path.components_join base (parts first here), Path.components_join base (parts second there),
    List.append_cancel_left_eq] at components
  rw [← Path.names_map_normal first, components, Path.names_map_normal]

/-- **A scan finds the documents of a library**: where the source root is a directory and all
that is reached can be read, those that are no drafts, each once and in the order of the
walk. -/
theorem scan_finds (stands : tree.lookup config.sourceDir = .ok (root, .directory))
    (encoded : ∀ names, Reached config tree root names → (tree.text? (root ++ names)).isSome) :
    ∃ found : List (List Text),
      tree.perform (scan config) = (.ok (found.map config.sourceDir.join), tree) ∧
      (found.map config.sourceDir.join).Nodup ∧ found.Pairwise Precedes ∧
      ∀ names, names ∈ found ↔ Reached config tree root names ∧
        ∃ text, tree.text? (root ++ names) = some text ∧ ¬ IsDraft text := by
  have reached : ∀ names ∈ documents config tree root, Reached config tree root names :=
    fun names => mem_documents_iff_reached.mp
  have read : ∀ names ∈ documents config tree root, ∃ text,
      tree.text? (root ++ names) = some text ∧
        tree.readText (config.sourceDir.join names) = .ok text := by
    intro names member
    obtain ⟨text, there⟩ := Option.isSome_iff_exists.mp (encoded names (reached names member))
    have nonempty := (mem_documents_iff.mp member).1
    exact ⟨text, there, readText_join stands nonempty there⟩
  have parts : ∀ names ∈ documents config tree root, ∀ name ∈ names, Path.IsName name := by
    intro names member
    obtain ⟨content, found⟩ := (reached names member).file
    exact FileTree.isName_of_get? found
  have among := List.filter_sublist (p := isFinished tree root) (l := documents config tree root)
  refine ⟨(documents config tree root).filter (isFinished tree root), ?_, ?_, ?_, fun names => ?_⟩
  · have candidates : candidates config tree =
        .ok ((documents config tree root).map config.sourceDir.join) := by
      rw [Library.candidates, stands]
    rw [perform_scan, candidates]
    dsimp only
    rw [publishable_map_join read]
  · exact nodup_map_join ((nodup_documents config tree root).sublist among) config.sourceDir
      fun names member => parts names (among.subset member)
  · exact (pairwise_precedes_documents config tree root).sublist among
  · rw [List.mem_filter, mem_documents_iff_reached, isFinished, Option.any_eq_true]
    simp only [Bool.not_eq_true', ← Bool.not_eq_true, isDraft_iff]

/-- A library with a draft, a hidden document, and documents in an open, a hidden and the
published directory. -/
def shelf : FileTree :=
  treeOf [("library/Books/On Truth.md", "# On Truth"), ("library/.dictionary.md", "# Dictionary"),
    ("library/Notes.md", " [draft]\r\n# Not yet"), ("library/.git/notes.md", "# Hidden"),
    ("library/.public/old.md", "# Published"), ("library/image.png", "png")]

/-- A draft and what stands in hidden and published directories are not found. -/
theorem scan_finds_shelf :
    shelf.lookup Config.standard.sourceDir = .ok (["library".toList], .directory) ∧
    (∀ names, Reached .standard shelf ["library".toList] names →
      (shelf.text? (["library".toList] ++ names)).isSome) ∧
    (shelf.perform (scan .standard)).1 = .ok
      [⟨"library/.dictionary.md".toList⟩, ⟨"library/Books/On Truth.md".toList⟩] ∧
    ∃ found : List (List Text),
      shelf.perform (scan .standard) =
        (.ok (found.map Config.standard.sourceDir.join), shelf) ∧
      (found.map Config.standard.sourceDir.join).Nodup ∧ found.Pairwise Precedes ∧
      ∀ names, names ∈ found ↔ Reached .standard shelf ["library".toList] names ∧
        ∃ text, shelf.text? (["library".toList] ++ names) = some text ∧ ¬ IsDraft text := by
  have stands : shelf.lookup Config.standard.sourceDir = .ok (["library".toList], .directory) := by
    decide
  have encoded : ∀ names ∈ documents .standard shelf ["library".toList],
      (shelf.text? (["library".toList] ++ names)).isSome := by
    decide +kernel
  have reached := fun names there => encoded names (mem_documents_iff_reached.mpr there)
  exact ⟨stands, reached, by decide +kernel, scan_finds stands reached⟩

end Library

end Scriptorium
