import Mathlib.Data.List.Sort
import Scriptorium.Library.Scan
import Scriptorium.Proofs.Files.Perform
/-! # What a scan finds

A scan changes nothing. It reads the Markdown files in the directories that are entered
(`Library.candidates`), and its sources are those of them that are no drafts
(`Library.perform_scan`). Each source can be read, and each lies below the source directory,
unless this is itself the only one (`Library.scanned_of_scan`).

What is read below a directory is told by the files that stand there
(`Library.mem_documents_iff`), in the order of their names. So the same sources are found again
after files of other kinds were written (`Library.perform_scan_of_grows`).
-/

namespace Scriptorium.Library

open FileTree (Grows)

variable {config : Config} {tree after : FileTree} {found : List Found} {paths sources : List Path}
  {source path : Path} {places : Location → Prop}

/-! ## Reading candidates -/

/-- Whether a scan reads what a walk comes upon. -/
def isCandidate (config : Config) (found : Found) : Bool :=
  decide (found.sight = .kind .file) && enters config config.sourceDir found.names.dropLast &&
    isMarkdown (config.sourceDir.join found.names)

/-- The files that a scan reads among what a walk comes upon. -/
def candidatesAmong (config : Config) (found : List Found) : List Path :=
  (found.filter (isCandidate config)).map fun found => config.sourceDir.join found.names

/-- The documents among files that are no drafts. -/
def publishable (tree : FileTree) : List Path → Except Error (List Path)
  | [] => .ok []
  | path :: paths =>
    match tree.readText path with
    | .error cause => .error (.file cause)
    | .ok markdown =>
      if isDraft markdown then publishable tree paths
      else (publishable tree paths).map (path :: ·)

private theorem perform_isPublishable (markdown : isMarkdown path = true) :
    tree.perform (isPublishable path) =
      ((tree.readText path).mapError Error.file |>.map (!isDraft ·), tree) := by
  rw [isPublishable, if_pos markdown, FileTree.perform_bind, FileTree.perform_adapt,
    FileTree.perform_readText]
  cases tree.readText path <;> rfl

private theorem isPublishable_of_not_markdown (other : isMarkdown path = false) :
    tree.perform (isPublishable path) = (.ok false, tree) := by
  rw [isPublishable, other]
  rfl

/-- A candidate is read, and then what follows it. -/
theorem perform_sourcesAmong_of_candidate {names : List Text}
    (candidate : isCandidate config ⟨names, .kind .file⟩ = true)
    (rest : tree.perform (sourcesAmong config found) = (publishable tree paths, tree)) :
    tree.perform (sourcesAmong config (⟨names, .kind .file⟩ :: found)) =
      (publishable tree (config.sourceDir.join names :: paths), tree) := by
  simp only [isCandidate, Bool.and_eq_true, decide_eq_true_eq] at candidate
  obtain ⟨⟨-, entered⟩, markdown⟩ := candidate
  rw [sourcesAmong]
  dsimp only
  rw [if_pos entered, FileTree.perform_bind, perform_isPublishable markdown, publishable]
  cases tree.readText (config.sourceDir.join names) with
  | error cause => rfl
  | ok text =>
    cases draft : isDraft text with
    | true => simpa [draft, Except.mapError, Except.map] using rest
    | false =>
      simp only [Except.mapError, Except.map, draft, Bool.not_false, ↓reduceIte,
        FileTree.perform_bind, rest]
      cases publishable tree paths <;> rfl

/-- What is no candidate is passed over. -/
theorem perform_sourcesAmong_of_not_candidate {names : List Text} {kind : FileKind}
    (other : ¬ isCandidate config ⟨names, .kind kind⟩ = true) :
    tree.perform (sourcesAmong config (⟨names, .kind kind⟩ :: found)) =
      tree.perform (sourcesAmong config found) := by
  rw [sourcesAmong]
  cases kind with
  | file =>
    dsimp only
    split
    · rename_i entered
      have plain : isMarkdown (config.sourceDir.join names) = false := by
        simpa [isCandidate, entered] using other
      rw [FileTree.perform_bind, isPublishable_of_not_markdown plain]
      rfl
    · rfl
  | directory => rfl
  | other => rfl

/-- A scan reads the candidates among what it comes upon, one after the other. -/
theorem perform_sourcesAmong (seen : ∀ item ∈ found, ∃ kind, item.sight = .kind kind) :
    tree.perform (sourcesAmong config found) =
      (publishable tree (candidatesAmong config found), tree) := by
  induction found with
  | nil => rfl
  | cons item found ih =>
    obtain ⟨⟨kind, sight⟩, later⟩ := List.forall_mem_cons.mp seen
    obtain ⟨names, _⟩ := item
    cases sight
    by_cases candidate : isCandidate config ⟨names, .kind kind⟩ = true
    · have file : kind = .file := by
        simp only [isCandidate, Bool.and_eq_true, decide_eq_true_eq, Sight.kind.injEq] at candidate
        exact candidate.1.1
      subst file
      rw [perform_sourcesAmong_of_candidate candidate (ih later), candidatesAmong, candidatesAmong,
        List.filter_cons_of_pos candidate]
      rfl
    · rw [perform_sourcesAmong_of_not_candidate candidate, ih later, candidatesAmong,
        candidatesAmong, List.filter_cons_of_neg candidate]

/-- Where candidates can be read, they are the sources, drafts apart. -/
theorem publishable_eq_ok (ok : publishable tree paths = .ok sources) :
    (∀ path ∈ paths, ∃ markdown, tree.readText path = .ok markdown) ∧ sources.Sublist paths := by
  induction paths generalizing sources with
  | nil =>
    cases ok
    exact ⟨List.forall_mem_nil _, List.Sublist.slnil⟩
  | cons path paths ih =>
    unfold publishable at ok
    split at ok
    · cases ok
    · rename_i markdown read
      split at ok
      · obtain ⟨readable, among⟩ := ih ok
        exact ⟨List.forall_mem_cons.mpr ⟨⟨markdown, read⟩, readable⟩, among.cons path⟩
      · cases rest : publishable tree paths with
        | error cause =>
          rw [rest] at ok
          cases ok
        | ok others =>
          rw [rest] at ok
          cases ok
          obtain ⟨readable, among⟩ := ih rest
          exact ⟨List.forall_mem_cons.mpr ⟨⟨markdown, read⟩, readable⟩, among.cons_cons path⟩

private theorem publishable_congr
    (same : ∀ path ∈ paths, after.readText path = tree.readText path) :
    publishable after paths = publishable tree paths := by
  induction paths with
  | nil => rfl
  | cons path paths ih =>
    obtain ⟨here, later⟩ := List.forall_mem_cons.mp same
    rw [publishable, publishable, here, ih later]

/-! ## Scanning a tree -/

/-- What stands where a walk begins comes first. -/
theorem walk_eq_ok (walked : tree.walk path = .ok found) :
    (∃ place content, tree.lookup path = .ok (place, .file content) ∧
      found = [⟨[], .kind .file⟩]) ∨
    ∃ place, tree.lookup path = .ok (place, .directory) ∧
      found = ⟨[], .kind .directory⟩ ::
        (tree.nodes.filterMap (FileTree.seenFrom place)).filter fun item =>
          !item.names.isEmpty := by
  obtain ⟨⟨place, node⟩, leads, walked⟩ := FileTree.exists_of_bind_eq_ok walked
  cases node with
  | file content =>
    cases walked
    exact .inl ⟨place, content, leads, rfl⟩
  | directory =>
    cases walked
    exact .inr ⟨place, leads, rfl⟩

private theorem seenFrom_eq_some_iff {place : Location} {entry : Location × Node} {item : Found} :
    FileTree.seenFrom place entry = some item ↔
      ∃ names, place ++ names = entry.1 ∧ item = ⟨names, .kind entry.2.kind⟩ := by
  simp only [FileTree.seenFrom, Option.map_eq_some_iff, List.isPrefixOf?_eq_some_iff_append_eq,
    eq_comm (a := item)]

/-- A walk through a tree sees what stands below the place of its path. -/
theorem exists_of_mem_walk (walked : tree.walk path = .ok found) {item : Found}
    (member : item ∈ found) :
    ∃ node, tree.get? (path.place tree.working ++ item.names) = some node ∧
      item.sight = .kind node.kind := by
  rcases walk_eq_ok walked with ⟨place, content, leads, rfl⟩ | ⟨place, leads, rfl⟩ <;>
    rw [← FileTree.eq_place_of_lookup leads] <;>
    have here := (FileTree.lookup_eq_ok_iff.mp leads).2.2
  · cases List.mem_singleton.mp member
    exact ⟨_, (List.append_nil place).symm ▸ here, rfl⟩
  · rcases List.mem_cons.mp member with rfl | below
    · exact ⟨_, (List.append_nil place).symm ▸ here, rfl⟩
    · obtain ⟨seen, named⟩ := List.mem_filter.mp below
      obtain ⟨⟨_, node⟩, held, seen⟩ := List.mem_filterMap.mp seen
      obtain ⟨names, rfl, rfl⟩ := seenFrom_eq_some_iff.mp seen
      refine ⟨node, (FileTree.get?_eq_some_iff fun none => ?_).mpr held, rfl⟩
      obtain ⟨-, rfl⟩ := List.append_eq_nil_iff.mp none
      cases named

/-- The names that lead to the files that are read below a source directory at a place. -/
def documents (config : Config) (tree : FileTree) (place : Location) : List (List Text) :=
  ((tree.nodes.filterMap (FileTree.seenFrom place)).filter fun item =>
    !item.names.isEmpty && isCandidate config item).map Found.names

/-- A document is a file with the extension below directories that are entered. -/
theorem mem_documents_iff {place : Location} {names : List Text} :
    names ∈ documents config tree place ↔
      names ≠ [] ∧ enters config config.sourceDir names.dropLast = true ∧
        isMarkdown (config.sourceDir.join names) = true ∧
          (tree.file? (place ++ names)).isSome = true := by
  simp only [documents, List.mem_map, List.mem_filter, List.mem_filterMap, seenFrom_eq_some_iff]
  constructor
  · rintro ⟨_, ⟨⟨⟨found, node⟩, held, names, rfl, rfl⟩, kept⟩, rfl⟩
    simp only [isCandidate, Bool.and_eq_true, Bool.not_eq_true', decide_eq_true_eq,
      List.isEmpty_eq_false_iff, Sight.kind.injEq] at kept
    obtain ⟨named, ⟨kind, entered⟩, markdown⟩ := kept
    cases node with
    | directory => cases kind
    | file content =>
      refine ⟨named, entered, markdown, Option.isSome_iff_exists.mpr ⟨content, ?_⟩⟩
      rw [FileTree.file?_eq_some_iff, FileTree.get?_eq_some_iff (by simp [named])]
      exact held
  · rintro ⟨named, entered, markdown, file⟩
    obtain ⟨content, found⟩ := Option.isSome_iff_exists.mp file
    rw [FileTree.file?_eq_some_iff, FileTree.get?_eq_some_iff (by simp [named])] at found
    refine ⟨⟨names, .kind .file⟩, ⟨⟨_, found, names, rfl, rfl⟩, ?_⟩, rfl⟩
    simp [isCandidate, named, entered, markdown]

/-- The documents of a library come in order, each once. -/
theorem pairwise_documents (place : Location) :
    (documents config tree place).Pairwise (· < ·) := by
  have below {names others : List Text} (before : place ++ names < place ++ others) :
      names < others := by
    induction place with
    | nil => exact before
    | cons name place ih => exact ih (List.cons_lt_cons_self.mp before)
  refine List.pairwise_map.mpr (List.Pairwise.filter _ (tree.ordered.filterMap _ ?_))
  intro entry later before item seen other seenLater
  obtain ⟨names, here, rfl⟩ := seenFrom_eq_some_iff.mp seen
  obtain ⟨others, there, rfl⟩ := seenFrom_eq_some_iff.mp seenLater
  rw [← here, ← there] at before
  exact below before

/-- The files that a scan reads: the source directory itself where it is a file, and else
what is below it. -/
def candidates (config : Config) (tree : FileTree) : Except FileError (List Path) :=
  match tree.lookup config.sourceDir with
  | .error cause => .error cause
  | .ok (_, .file _) => .ok (if isMarkdown config.sourceDir then [config.sourceDir] else [])
  | .ok (place, .directory) => .ok ((documents config tree place).map config.sourceDir.join)

/-- The candidates of a library are those among what a walk through it meets. -/
theorem candidatesAmong_walk (config : Config) (tree : FileTree) :
    (tree.walk config.sourceDir).map (candidatesAmong config) = candidates config tree := by
  rw [FileTree.walk, candidates]
  cases tree.lookup config.sourceDir with
  | error cause => rfl
  | ok target =>
    obtain ⟨place, content | _⟩ := target
    · by_cases markdown : isMarkdown config.sourceDir = true <;>
        simp [candidatesAmong, isCandidate, enters, Path.join, markdown, Except.map, bind,
          Except.bind, pure, Except.pure]
    · change Except.ok _ = Except.ok _
      rw [candidatesAmong, List.filter_cons_of_neg (by simp [isCandidate]), List.filter_filter,
        documents, List.map_map]
      simp only [Bool.and_comm]
      rfl

/-- **What a scan answers**: of the files that it reads those that are no drafts. It changes
nothing. -/
theorem perform_scan (config : Config) (tree : FileTree) :
    tree.perform (scan config) =
      ((match candidates config tree with
        | .error cause => .error (.walk config.sourceDir cause)
        | .ok paths => publishable tree paths), tree) := by
  rw [scan, FileTree.perform_bind, FileTree.perform_adapt, FileTree.perform_walk,
    ← candidatesAmong_walk]
  cases walked : tree.walk config.sourceDir with
  | error cause => rfl
  | ok found =>
    refine perform_sourcesAmong fun item member => ?_
    obtain ⟨node, -, sight⟩ := exists_of_mem_walk walked member
    exact ⟨node.kind, sight⟩

/-! ## The sources -/

/-- Whether a path is that of a file below the source directory. -/
def IsSource (config : Config) (path : Path) : Prop :=
  ∃ names name, Path.Below path config.sourceDir (names ++ [name])

/-- What is known of the sources that a scan finds. -/
structure Scanned (config : Config) (tree : FileTree) (sources : List Path) : Prop where
  markdown : ∀ source ∈ sources, isMarkdown source = true
  readable : ∀ source ∈ sources, ∃ text, tree.readText source = .ok text
  placed : sources = [config.sourceDir] ∨ ∀ source ∈ sources, IsSource config source

private theorem isSource_of_mem_documents {place : Location} {names : List Text}
    (member : names ∈ documents config tree place) :
    IsSource config (config.sourceDir.join names) := by
  obtain ⟨named, -, -, file⟩ := mem_documents_iff.mp member
  obtain ⟨content, found⟩ := Option.isSome_iff_exists.mp file
  have parts := FileTree.isName_of_get? (FileTree.file?_eq_some_iff.mp found)
  refine ⟨names.dropLast, names.getLast named, ?_⟩
  rw [List.dropLast_append_getLast named]
  exact Path.components_join _ parts

/-- What is read below a source directory is read again. -/
theorem documents_of_grows (grows : Grows places tree after)
    (other : ∀ path, isMarkdown path = true → ¬ places (path.place tree.working)) :
    documents config after (config.sourceDir.place tree.working) =
      documents config tree (config.sourceDir.place tree.working) := by
  have same {names : List Text} (markdown : isMarkdown (config.sourceDir.join names) = true)
      (parts : ∀ name ∈ names, Path.IsName name) :
      after.file? (config.sourceDir.place tree.working ++ names) =
        tree.file? (config.sourceDir.place tree.working ++ names) := by
    rw [← Path.place_of_below (Path.components_join config.sourceDir parts)]
    exact grows.elsewhere _ (other _ markdown)
  refine (pairwise_documents _).eq_of_mem_iff (pairwise_documents _) fun names => ?_
  rw [mem_documents_iff, mem_documents_iff]
  refine and_congr_right fun _ => and_congr_right fun _ => and_congr_right fun markdown => ?_
  constructor <;> intro file <;> obtain ⟨content, found⟩ := Option.isSome_iff_exists.mp file
  · rw [← same markdown (FileTree.isName_of_get? (FileTree.file?_eq_some_iff.mp found))]
    exact file
  · rw [same markdown (FileTree.isName_of_get? (FileTree.file?_eq_some_iff.mp found))]
    exact file

/-- What grows besides documents leaves the candidates as they were. -/
theorem candidates_of_grows (grows : Grows places tree after)
    (other : ∀ path, isMarkdown path = true → ¬ places (path.place tree.working))
    (found : candidates config tree = .ok paths) : candidates config after = .ok paths := by
  unfold candidates at found ⊢
  split at found
  · cases found
  · rename_i place content leads
    obtain ⟨node, still, kind⟩ := grows.lookup leads
    rw [still]
    cases node with
    | file content => exact found
    | directory => cases kind
  · rename_i place leads
    obtain ⟨node, still, kind⟩ := grows.lookup leads
    have here := FileTree.eq_place_of_lookup leads
    subst here
    rw [still]
    cases node with
    | file content => cases kind
    | directory => rw [← found, ← documents_of_grows grows other]

private theorem isMarkdown_of_mem_candidates (found : candidates config tree = .ok paths)
    (member : path ∈ paths) : isMarkdown path = true := by
  unfold candidates at found
  split at found <;> cases found
  · split at member
    · rename_i markdown
      exact List.mem_singleton.mp member ▸ markdown
    · cases member
  · obtain ⟨names, read, rfl⟩ := List.mem_map.mp member
    exact (mem_documents_iff.mp read).2.2.1

private theorem exists_of_scan_eq_ok (scanned : tree.perform (scan config) = (.ok sources, after)) :
    ∃ paths, candidates config tree = .ok paths ∧ publishable tree paths = .ok sources := by
  rw [perform_scan] at scanned
  obtain ⟨answered, -⟩ := Prod.ext_iff.mp scanned
  cases read : candidates config tree with
  | error cause =>
    rw [read] at answered
    cases answered
  | ok paths =>
    rw [read] at answered
    exact ⟨paths, rfl, answered⟩

/-- What a scan has found are the sources of the library. -/
theorem scanned_of_scan (found : tree.perform (scan config) = (.ok sources, after)) :
    Scanned config tree sources := by
  obtain ⟨paths, read, kept⟩ := exists_of_scan_eq_ok found
  obtain ⟨readable, among⟩ := publishable_eq_ok kept
  refine ⟨fun source member => isMarkdown_of_mem_candidates read (among.subset member),
    fun source member => readable source (among.subset member), ?_⟩
  unfold candidates at read
  split at read <;> cases read
  · have few : sources.Sublist [config.sourceDir] := by
      split at among
      · exact among
      · exact among.trans (List.nil_sublist _)
    rcases List.sublist_singleton.mp few with rfl | whole
    · exact .inr nofun
    · exact .inl whole
  · refine .inr fun source member => ?_
    obtain ⟨names, held, rfl⟩ := List.mem_map.mp (among.subset member)
    exact isSource_of_mem_documents held

/-- **The same sources are found again** after files of other kinds were written. -/
theorem perform_scan_of_grows (grows : Grows places tree after)
    (other : ∀ path, isMarkdown path = true → ¬ places (path.place tree.working))
    (found : tree.perform (scan config) = (.ok sources, tree)) :
    after.perform (scan config) = (.ok sources, after) := by
  obtain ⟨paths, read, kept⟩ := exists_of_scan_eq_ok found
  have same : publishable after paths = publishable tree paths := by
    refine publishable_congr fun path member => ?_
    obtain ⟨text, found⟩ := (publishable_eq_ok kept).1 path member
    rw [grows.readText (other path (isMarkdown_of_mem_candidates read member)) found, found]
  rw [perform_scan, candidates_of_grows grows other read]
  dsimp only
  rw [same, kept]

end Scriptorium.Library
