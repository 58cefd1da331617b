import Scriptorium.Proofs.Library.Writing
/-! # Builds that fail

A build knows its manifest before it writes anything, so a scan that fails, or two sources with
one page, leave the tree as it was (`Library.perform_build_of_manifest`). Every page is
compiled from its source alone. A paper is compiled with the template that is there; a template
that cannot be used stops the build at its first document
(`Library.buildLatex_of_refused_template`). So whatever the outcome, files change only where
something is to be written, and there to the whole of it (`Library.builds_damage_nothing`).
-/

namespace Scriptorium.Library

open FileTree (Grows Holds)
open Manifest (pages ofSources entryOf)

variable {config : Config} {tree now after : FileTree} {sources : List Path} {source path : Path}
  {text markdown frame : Text} {cause : Error} {place : Location}

/-! ## The manifest comes first -/

/-- Where the library cannot be scanned, no manifest is made and nothing changes. -/
theorem perform_manifest_of_error (failed : (tree.perform (scan config)).1 = .error cause) :
    tree.perform (manifest config) = (.error cause, tree) := by
  have scanned : tree.perform (scan config) = (.error cause, tree) :=
    Prod.ext failed (by rw [perform_scan])
  rw [manifest, FileTree.perform_bind, scanned]

/-- The manifest of a library is that of the sources that are found in it. -/
theorem perform_manifest_of_ok (found : (tree.perform (scan config)).1 = .ok sources) :
    tree.perform (manifest config) = (Manifest.build config sources, tree) := by
  have scanned : tree.perform (scan config) = (.ok sources, tree) :=
    Prod.ext found (by rw [perform_scan])
  rw [manifest, FileTree.perform_bind, scanned]
  rfl

/-- Two sources with one page have no manifest. -/
theorem perform_manifest_of_repeated (found : (tree.perform (scan config)).1 = .ok sources)
    (repeated : ¬ (pages config sources).Nodup) : ∃ page first second,
      tree.perform (manifest config) = (.error (.duplicatePublicName page first second), tree) := by
  obtain ⟨before, first, second, after, rfl, distinct, listed, same⟩ :=
    Manifest.exists_first_duplicate repeated
  rw [perform_manifest_of_ok found, Manifest.build_of_duplicate distinct listed same]
  exact ⟨_, first, second, rfl⟩

/-- Without a manifest neither pages nor papers are written. -/
theorem perform_build_of_manifest (failed : tree.perform (manifest config) = (.error cause, tree)) :
    tree.perform (buildHtml config) = (.error cause, tree) ∧
      tree.perform (buildLatex config) = (.error cause, tree) := by
  constructor
  · rw [buildHtml, FileTree.perform_bind, failed]
  · rw [buildLatex, FileTree.perform_bind, failed]

/-! ## Pages -/

/-- The path of the manifest in the published tree. -/
def manifestPath (config : Config) : Path :=
  config.publicDir.push manifestName

/-- What a build of pages writes to places. -/
inductive PageOutput (config : Config) (tree : FileTree) (sources : List Path) :
    Location → Text → Prop where
  | page {source : Path} {markdown : Text} (listed : source ∈ sources)
      (read : tree.readText source = .ok markdown) :
      PageOutput config tree sources ((config.publicPath source).place tree.working)
        (compilePage config source markdown)
  | manifest :
      PageOutput config tree sources ((manifestPath config).place tree.working)
        (ofSources config sources).toJson

/-- A page is compiled without a look at the tree. -/
def compiledPage (config : Config) (_ : FileTree) (source : Path) (markdown : Text) :
    Except Error Text :=
  .ok (compilePage config source markdown)

/-- Compiling a page changes nothing. -/
theorem perform_compilePage (tree : FileTree) (source : Path) (markdown : Text) :
    tree.perform (pure (compilePage config source markdown)) =
      (compiledPage config tree source markdown, tree) :=
  rfl

/-- Writing the pages of sources. -/
def writePages (config : Config) (sources : List Path) :
    ExceptT Error (StateM FileTree) BuildReport :=
  writeAll (fun source markdown => return compilePage config source markdown) id
    (sources.map (entryOf config))

/-- Building the site writes its pages, and behind them the manifest. -/
theorem perform_buildHtml (found : (tree.perform (scan config)).1 = .ok sources)
    (nodup : (pages config sources).Nodup) :
    tree.perform (buildHtml config) =
      match tree.perform (writePages config sources) with
      | (.error cause, after) => (.error cause, after)
      | (.ok report, after) =>
        ((after.perform (write (manifestPath config) (ofSources config sources).toJson)).1.map
          fun _ => report,
          (after.perform (write (manifestPath config) (ofSources config sources).toJson)).2) := by
  rw [buildHtml, FileTree.perform_bind, perform_manifest_of_ok found, Manifest.build_of_nodup nodup]
  dsimp only
  rw [FileTree.perform_bind]
  have entries : (ofSources config sources).entries = sources.map (entryOf config) := rfl
  rw [entries, ← writePages]
  rcases tree.perform (writePages config sources) with ⟨_ | report, after⟩
  · rfl
  · dsimp only
    rw [FileTree.perform_bind, ← manifestPath]
    rcases after.perform (write (manifestPath config) (ofSources config sources).toJson) with
      ⟨_ | _, last⟩ <;> rfl

/-- What is known when the pages have been written, or writing them has failed. -/
theorem ended_writePages (scanned : Scanned config tree sources)
    (nodup : (pages config sources).Nodup) {outcome : Except Error BuildReport}
    (ran : tree.perform (writePages config sources) = (outcome, after)) :
    Ended (compiledPage config) id (PageOutput config tree sources) tree
      (sources.map (entryOf config)) outcome after := by
  refine (writes_writeAll perform_compilePage ran).ended
    (naming_pages.apart scanned nodup tree.working) (.refl _ _) scanned.intact ?_
  rintro entry member text ⟨now, markdown, -, read, answered⟩
  obtain ⟨source, listed, rfl⟩ := List.mem_map.mp member
  have same : compilePage config source markdown = text := Except.ok.inj answered
  exact same ▸ .page listed read

private theorem confined_buildHtml (found : (tree.perform (scan config)).1 = .ok sources)
    (nodup : (pages config sources).Nodup) :
    Confined (PageOutput config tree sources) tree (tree.perform (buildHtml config)).2 := by
  have scanned : Scanned config tree sources := scanned_of_scan (Prod.ext found rfl)
  rw [perform_buildHtml found nodup]
  rcases ran : tree.perform (writePages config sources) with ⟨_ | report, after⟩
  · exact (ended_writePages scanned nodup ran).confined
  · have confined := (ended_writePages scanned nodup ran).confined
    dsimp only
    rcases wrote :
      after.perform (write (manifestPath config) (ofSources config sources).toJson) with
      ⟨outcome, last⟩
    exact confined.write .manifest wrote

/-! ## Papers -/

/-- The path of the paper of a source. -/
def paperPath (config : Config) (source : Path) : Path :=
  (config.publicPath source).withExtension "tex".toList

/-- The template that a build of papers finds in a tree. -/
def template (config : Config) (tree : FileTree) : Except Error Text :=
  match config.latex.template with
  | none => .ok (Latex.standardTemplate config.siteBaseUrl)
  | some path =>
    match tree.readText path with
    | .error cause => .error (.config (.unreadable path cause))
    | .ok text =>
      if Text.occursIn Latex.placeholder text then .ok text
      else .error (.config (.missingPlaceholder path))

private theorem perform_loadTemplate (config : Config) (tree : FileTree) :
    tree.perform (loadTemplate config) = (template config tree, tree) := by
  rw [loadTemplate, template]
  cases config.latex.template with
  | none => rfl
  | some path =>
    dsimp only
    rw [FileTree.perform_bind, FileTree.perform_adapt, FileTree.perform_readText]
    cases tree.readText path with
    | error cause => rfl
    | ok text =>
      dsimp only [Except.mapError]
      split <;> rfl

/-- What a build of papers writes to places. A template that is the paper of a document
itself is used as it was written before. -/
inductive PaperOutput (config : Config) (tree : FileTree) (sources : List Path) :
    Location → Text → Prop where
  | found {source : Path} {markdown frame : Text} (listed : source ∈ sources)
      (read : tree.readText source = .ok markdown) (loaded : template config tree = .ok frame) :
      PaperOutput config tree sources ((paperPath config source).place tree.working)
        (Latex.paper config frame markdown)
  | written {source path : Path} {markdown frame : Text} (listed : source ∈ sources)
      (read : tree.readText source = .ok markdown) (configured : config.latex.template = some path)
      (before : PaperOutput config tree sources (path.place tree.working) frame) :
      PaperOutput config tree sources ((paperPath config source).place tree.working)
        (Latex.paper config frame markdown)

/-- A paper is compiled with the template that is there. -/
def compiledPaper (config : Config) (tree : FileTree) (_ : Path) (markdown : Text) :
    Except Error Text :=
  (template config tree).map fun frame => Latex.paper config frame markdown

private theorem perform_compilePaper (tree : FileTree) (source : Path) (markdown : Text) :
    tree.perform (compilePaper config markdown) =
      (compiledPaper config tree source markdown, tree) := by
  rw [compilePaper, FileTree.perform_bind, perform_loadTemplate, compiledPaper]
  cases template config tree <;> rfl

private theorem perform_buildLatex (found : (tree.perform (scan config)).1 = .ok sources)
    (nodup : (pages config sources).Nodup) :
    tree.perform (buildLatex config) =
      tree.perform (writeAll (fun _ markdown => compilePaper config markdown)
        (·.withExtension "tex".toList) (sources.map (entryOf config))) := by
  rw [buildLatex, FileTree.perform_bind, perform_manifest_of_ok found,
    Manifest.build_of_nodup nodup]
  rfl

/-- Without a template no paper is written. -/
theorem perform_buildLatex_of_template (found : (tree.perform (scan config)).1 = .ok sources)
    (nodup : (pages config sources).Nodup) (failed : template config tree = .error cause) :
    (tree.perform (buildLatex config)).2 = tree := by
  have scanned : Scanned config tree sources := scanned_of_scan (Prod.ext found rfl)
  rw [perform_buildLatex found nodup]
  cases sources with
  | nil => rfl
  | cons source sources =>
    obtain ⟨markdown, read⟩ := scanned.readable source List.mem_cons_self
    rw [List.map_cons, perform_writeAll_cons perform_compilePaper]
    dsimp only [entryOf]
    rw [read]
    dsimp only
    rw [compiledPaper, failed]
    rfl

/-- A template is loaded when its file is text that has a place for the body. -/
theorem template_eq_ok_iff {path : Path} (configured : config.latex.template = some path)
    {frame : Text} : template config tree = .ok frame ↔
      tree.readText path = .ok frame ∧ Text.occursIn Latex.placeholder frame = true := by
  rw [template, configured]
  dsimp only
  cases tree.readText path with
  | error cause => exact iff_of_false nofun nofun
  | ok text =>
    dsimp only
    split
    · rename_i usable
      exact ⟨fun same => Except.ok.inj same ▸ ⟨rfl, usable⟩, fun same => Except.ok.inj same.1 ▸ rfl⟩
    · rename_i useless
      refine iff_of_false nofun fun same => ?_
      cases same.1
      exact useless same.2

/-- The paper that was written for a source is the one that the source compiles to. -/
theorem paperOutput_of_answered (loaded : template config tree = .ok frame)
    (listed : source ∈ sources)
    (answered : Answered (compiledPaper config) (PaperOutput config tree sources) tree
      (entryOf config source) (.ok text)) :
    PaperOutput config tree sources ((paperPath config source).place tree.working) text := by
  obtain ⟨now, markdown, confined, read, answered⟩ := answered
  cases found : template config now with
  | error cause =>
    rw [compiledPaper, found] at answered
    cases answered
  | ok other =>
    have same : Latex.paper config other markdown = text := by
      rw [compiledPaper, found] at answered
      exact Except.ok.inj answered
    rw [← same]
    cases configured : config.latex.template with
    | none =>
      have standard : template config now = template config tree := by
        rw [template, template, configured]
      exact .found listed read (standard ▸ found)
    | some path =>
      obtain ⟨before, -⟩ := (template_eq_ok_iff configured).mp loaded
      obtain ⟨after, -⟩ := (template_eq_ok_iff configured).mp found
      rcases confined.readText before after with rfl | written
      · exact .found listed read loaded
      · exact .written listed read configured written

/-- A template that is no paper stays usable. -/
theorem template_of_confined (loaded : template config tree = .ok frame)
    (confined : Confined (PaperOutput config tree sources) tree now)
    (other : ∀ path, config.latex.template = some path → ∀ source ∈ sources,
      (paperPath config source).place tree.working ≠ path.place tree.working) :
    template config now = .ok frame := by
  cases configured : config.latex.template with
  | none =>
    rw [template, configured] at loaded ⊢
    exact loaded
  | some path =>
    obtain ⟨read, usable⟩ := (template_eq_ok_iff configured).mp loaded
    refine (template_eq_ok_iff configured).mpr ⟨confined.grows.readText ?_ read, usable⟩
    rintro ⟨text, written⟩
    generalize here : path.place tree.working = place at written
    cases written with
    | found listed => exact other path configured _ listed here.symm
    | written listed => exact other path configured _ listed here.symm

private theorem ended_buildLatex (found : (tree.perform (scan config)).1 = .ok sources)
    (nodup : (pages config sources).Nodup) (loaded : template config tree = .ok frame) :
    Ended (compiledPaper config) (·.withExtension "tex".toList) (PaperOutput config tree sources)
      tree (sources.map (entryOf config)) (tree.perform (buildLatex config)).1
      (tree.perform (buildLatex config)).2 := by
  have scanned : Scanned config tree sources := scanned_of_scan (Prod.ext found rfl)
  rw [perform_buildLatex found nodup]
  refine (writes_writeAll perform_compilePaper rfl).ended
    (naming_papers.apart scanned nodup tree.working) (.refl _ _) scanned.intact ?_
  intro entry member text answered
  obtain ⟨source, listed, rfl⟩ := List.mem_map.mp member
  exact paperOutput_of_answered loaded listed answered

/-- A build of papers that is refused its template has written nothing. -/
theorem buildLatex_of_refused_template (found : (tree.perform (scan config)).1 = .ok sources)
    (nodup : (pages config sources).Nodup)
    (other : ∀ path, config.latex.template = some path → ∀ source ∈ sources,
      (paperPath config source).place tree.working ≠ path.place tree.working)
    (failed : (tree.perform (buildLatex config)).1 = .error cause)
    (store : ∀ path why, cause ≠ .config (.unwritable path why)) :
    (tree.perform (buildLatex config)).2 = tree := by
  cases loaded : template config tree with
  | error cause => exact perform_buildLatex_of_template found nodup loaded
  | ok frame =>
    rcases (ended_buildLatex found nodup loaded).refused cause failed with
      ⟨path, why, same⟩ | ⟨entry, -, now, markdown, confined, -, refused⟩
    · exact absurd same (store path why)
    · rw [compiledPaper, template_of_confined loaded confined other] at refused
      cases refused

/-! ## Whatever the outcome -/

/-- The name of the manifest is the last part of its path. -/
theorem fileName?_manifestPath : (manifestPath config).fileName? = some manifestName :=
  Path.fileName?_push config.publicDir (by decide)

private theorem pageName_ne_manifestName (file : Text) : pageName file ≠ manifestName := by
  intro same
  have last := congrArg List.getLast? same
  rw [pageName, List.getLast?_append_of_ne_nil _ (show ".html".toList ≠ [] by simp)] at last
  exact absurd last (by decide)

/-- The manifest stands in the public directory. -/
theorem place_manifestPath (working : Location) :
    (manifestPath config).place working = config.publicDir.place working ++ [manifestName] :=
  Path.place_of_below (Path.components_push config.publicDir (by decide)) working

/-- The manifest is written to no page. -/
theorem place_ne_manifestPath (scanned : Scanned config tree sources) (listed : source ∈ sources)
    (working : Location) :
    (config.publicPath source).place working ≠ (manifestPath config).place working := by
  rcases scanned.placed with rfl | placed
  · rw [List.mem_singleton.mp listed, publicPath_sourceDir, place_manifestPath]
    simp
  · obtain ⟨names, file, -, page, -, last⟩ := naming_pages.exists_place_eq (placed source listed)
    intro same
    have ends := Path.getLast?_place last working
    rw [id, same, Path.getLast?_place fileName?_manifestPath, Option.some.injEq] at ends
    exact pageName_ne_manifestName file ends.symm

/-- What a build of pages keeps, whatever its outcome: it writes to places that are told
apart, and there whole pages or nothing. -/
structure KeepsPages (config : Config) (tree : FileTree) (sources : List Path) : Prop where
  distinct : ((manifestPath config).place tree.working ::
    sources.map fun source => (config.publicPath source).place tree.working).Nodup
  confined : Confined (PageOutput config tree sources) tree (tree.perform (buildHtml config)).2

/-- What a build of papers keeps, whatever its outcome. When it is refused a template that is
no paper itself, it leaves the tree as it was. -/
structure KeepsPapers (config : Config) (tree : FileTree) (sources : List Path) : Prop where
  distinct : (sources.map fun source => (paperPath config source).place tree.working).Nodup
  confined : Confined (PaperOutput config tree sources) tree (tree.perform (buildLatex config)).2
  template : ∀ path, config.latex.template = some path →
    (∀ source ∈ sources,
      (paperPath config source).place tree.working ≠ path.place tree.working) →
    ((∃ why, (tree.perform (buildLatex config)).1 = .error (.config (.unreadable path why))) ∨
      (tree.perform (buildLatex config)).1 = .error (.config (.missingPlaceholder path))) →
    (tree.perform (buildLatex config)).2 = tree

private theorem keepsPages (found : (tree.perform (scan config)).1 = .ok sources)
    (nodup : (pages config sources).Nodup) : KeepsPages config tree sources where
  distinct := by
    have scanned : Scanned config tree sources := scanned_of_scan (Prod.ext found rfl)
    refine List.nodup_cons.mpr ⟨fun member => ?_, naming_pages.nodup_places scanned nodup _⟩
    obtain ⟨source, listed, same⟩ := List.mem_map.mp member
    exact place_ne_manifestPath scanned listed _ same
  confined := confined_buildHtml found nodup

/-- Building papers keeps what is known of them. -/
theorem keepsPapers (found : (tree.perform (scan config)).1 = .ok sources)
    (nodup : (pages config sources).Nodup) : KeepsPapers config tree sources where
  distinct := naming_papers.nodup_places (scanned_of_scan (Prod.ext found rfl)) nodup _
  confined := by
    cases loaded : Library.template config tree with
    | error cause =>
      rw [perform_buildLatex_of_template found nodup loaded]
      exact .refl _ _
    | ok frame => exact (ended_buildLatex found nodup loaded).confined
  template path configured other refused := by
    have only : ∀ other, config.latex.template = some other → other = path := fun other same =>
      Option.some.inj (same.symm.trans configured)
    refine refused.elim (fun ⟨why, failed⟩ => ?_) fun failed => ?_ <;>
      exact buildLatex_of_refused_template found nodup (fun path' same => only path' same ▸ other)
        failed nofun

/-- **Failed builds damage nothing.** Where the scan fails, or two sources have one page, the
tree stays as it was; else files change only where a document or the manifest is written, and
there to the whole of it. -/
theorem builds_damage_nothing (config : Config) (tree : FileTree) :
    (∀ cause, (tree.perform (scan config)).1 = .error cause →
      tree.perform (buildHtml config) = (.error cause, tree) ∧
        tree.perform (buildLatex config) = (.error cause, tree)) ∧
      ∀ sources, (tree.perform (scan config)).1 = .ok sources →
        (¬ (pages config sources).Nodup → ∃ page first second,
          tree.perform (buildHtml config) =
              (.error (.duplicatePublicName page first second), tree) ∧
            tree.perform (buildLatex config) =
              (.error (.duplicatePublicName page first second), tree)) ∧
          ((pages config sources).Nodup →
            KeepsPages config tree sources ∧ KeepsPapers config tree sources) := by
  refine ⟨fun cause failed => perform_build_of_manifest (perform_manifest_of_error failed),
    fun sources found => ⟨fun repeated => ?_, fun nodup =>
      ⟨keepsPages found nodup, keepsPapers found nodup⟩⟩⟩
  obtain ⟨page, first, second, failed⟩ := perform_manifest_of_repeated found repeated
  exact ⟨page, first, second, perform_build_of_manifest failed⟩

/-! ## A small library -/

/-- A tree of text files. -/
def treeOf (files : List (String × String)) : FileTree :=
  files.foldl (fun tree file => (tree.replace ⟨file.1.toList⟩ (Utf8.encode file.2.toList)).2) .empty

/-- Two documents, one of them with a page from before, and a template without a place for the
body. -/
def sampleTree : FileTree :=
  treeOf [("library/One.md", "# One\n"), ("library/Part/Two.md", "# Two\n"),
    ("library/.public/one.html", "old"), ("frame.tex", "no place")]

/-- The documents of the small library. -/
def sampleSources : List Path :=
  [⟨"library/One.md".toList⟩, ⟨"library/Part/Two.md".toList⟩]

/-- Two documents with one page. -/
def twinTree : FileTree :=
  treeOf [("library/A B.md", ""), ("library/a-b.md", "")]

/-- Settings of papers with a template of their own. -/
def framedConfig : Config :=
  { Config.standard with latex := ⟨some ⟨"frame.tex".toList⟩⟩ }

/-- Builds of the empty tree, of two documents with one page, of this library, and of its papers
with a template that has no place for the body. -/
theorem builds_damage_nothing_sampleTree :
    (FileTree.empty.perform (buildHtml .standard)).2 = FileTree.empty ∧
    (∃ page first second, twinTree.perform (buildHtml .standard) =
      (.error (.duplicatePublicName page first second), twinTree)) ∧
    KeepsPages .standard sampleTree sampleSources ∧
    (sampleTree.perform (buildLatex framedConfig)).2 = sampleTree := by
  have unscanned := (builds_damage_nothing .standard .empty).1
    (.walk ⟨"library".toList⟩ .notFound) (by decide)
  obtain ⟨page, first, second, collided, -⟩ := ((builds_damage_nothing .standard twinTree).2
    [⟨"library/A B.md".toList⟩, ⟨"library/a-b.md".toList⟩] (by decide +kernel)).1
      (by decide +kernel)
  obtain ⟨pages, -⟩ := ((builds_damage_nothing .standard sampleTree).2 sampleSources
    (by decide +kernel)).2 (by decide +kernel)
  obtain ⟨-, papers⟩ := ((builds_damage_nothing framedConfig sampleTree).2 sampleSources
    (by decide +kernel)).2 (by decide +kernel)
  exact ⟨by rw [unscanned.1], ⟨page, first, second, collided⟩, pages,
    papers.template _ rfl (by decide +kernel) (.inr (by decide +kernel))⟩

end Scriptorium.Library
