import Scriptorium.Library.Check
import Scriptorium.Proofs.Library.Build
/-! # A build is clean

A build of pages that succeeds has left every page and the manifest in their places
(`Library.built_of_buildHtml`). It writes where no Markdown document stands, so the next scan
finds the same sources (`Library.Built.scan_eq`). Each of them has its page, and each page has
one of them (`Library.Built.exists_source`). So a check finds nothing,
and another build changes nothing (`Library.check_of_buildHtml`).
-/

namespace Scriptorium.Library

open FileTree (Grows Holds)
open Manifest (pages ofSources entryOf)

variable {config : Config} {tree middle after : FileTree} {sources : List Path} {source path : Path}
  {entries : List ManifestEntry} {manifest : Manifest} {found : List Found} {report : BuildReport}
  {place : Location}

/-! ## Checking -/

/-- No page is missing where each is published. -/
theorem run_missingAmong (published : ∀ entry ∈ entries, tree.kind? entry.page = some .file) :
    (missingAmong (m := StateM FileTree) entries).run tree = ([], tree) := by
  induction entries with
  | nil => rfl
  | cons entry entries ih =>
    obtain ⟨here, later⟩ := List.forall_mem_cons.mp published
    have first : (FileStore.isFile (m := StateM FileTree) entry.page).run tree = (true, tree) := by
      change (decide (tree.kind? entry.page = some .file), tree) = _
      rw [here]
      rfl
    rw [missingAmong, StateT.run_bind, first]
    change (do let missing ← missingAmong (m := StateM FileTree) entries; _).run tree = _
    rw [StateT.run_bind, ih later]
    rfl

/-- Where every page has a source there are no orphans. -/
theorem orphansAmong_eq_nil
    (seen : ∀ item ∈ found, ∃ kind, item.sight = .kind kind ∧
      (kind = .file → isPage (config.publicDir.join item.names) = true →
        (manifest.sourceFor? (config.publicDir.join item.names)).isSome = true)) :
    orphansAmong config manifest found = .ok [] := by
  induction found with
  | nil => rfl
  | cons item found ih =>
    obtain ⟨⟨kind, sight, here⟩, later⟩ := List.forall_mem_cons.mp seen
    rw [orphansAmong, sight]
    cases kind with
    | file =>
      have sourced : ¬ (isPage (config.publicDir.join item.names) &&
          (manifest.sourceFor? (config.publicDir.join item.names)).isNone) = true := by
        rw [Bool.and_eq_true, Option.isNone_iff_eq_none]
        rintro ⟨page, absent⟩
        have found := here rfl page
        rw [absent] at found
        cases found
      rw [if_neg sourced, ih later]
    | directory => exact ih later
    | other => exact ih later

/-- Orphans are looked for where the published tree is a directory. -/
theorem perform_orphans_eq (config : Config) (manifest : Manifest) :
    tree.perform (orphans config manifest) =
      (match tree.lookup config.publicDir with
        | .ok (_, .directory) =>
          match tree.walk config.publicDir with
          | .ok found => orphansAmong config manifest found
          | .error cause => .error (.walk config.publicDir cause)
        | _ => .ok [], tree) := by
  have published :
      tree.perform (liftM (FileStore.isDirectory (m := StateM FileTree) config.publicDir) :
        ExceptT Error (StateM FileTree) Bool) =
          (.ok (decide (tree.kind? config.publicDir = some .directory)), tree) := rfl
  rw [orphans, FileTree.perform_bind, published, FileTree.kind?]
  dsimp only
  rcases tree.lookup config.publicDir with _ | ⟨place, content | _⟩
  · rfl
  · rfl
  · change tree.perform (if true = true then _ else _) = _
    rw [if_pos rfl, FileTree.perform_bind, FileTree.perform_adapt, FileTree.perform_walk]
    cases tree.walk config.publicDir <;> rfl

/-- No page is an orphan where each comes from a source. -/
theorem perform_orphans
    (sourced : tree.get? (config.publicDir.place tree.working) = some .directory →
      ∀ names content,
        tree.get? (config.publicDir.place tree.working ++ names) = some (.file content) →
        isPage (config.publicDir.join names) = true →
          (manifest.sourceFor? (config.publicDir.join names)).isSome = true) :
    tree.perform (orphans config manifest) = (.ok [], tree) := by
  rw [perform_orphans_eq]
  refine Prod.ext ?_ rfl
  dsimp only
  split
  · rename_i place leads
    have here := (FileTree.lookup_eq_ok_iff.mp leads).2.2
    rw [FileTree.eq_place_of_lookup leads] at here
    split
    · rename_i found walked
      refine orphansAmong_eq_nil fun item member => ?_
      obtain ⟨node, there, sight⟩ := exists_of_mem_walk walked member
      refine ⟨node.kind, sight, fun kind page => ?_⟩
      cases node with
      | file content => exact sourced here item.names content there page
      | directory => cases kind
    · rename_i walked
      rw [FileTree.walk, leads] at walked
      cases walked
  · rfl

/-- A library whose pages all stand where they belong is found to be in order. -/
theorem perform_check (found : (tree.perform (scan config)).1 = .ok sources)
    (nodup : (pages config sources).Nodup)
    (published : ∀ source ∈ sources, tree.kind? (config.publicPath source) = some .file)
    (orphaned : tree.perform (orphans config (ofSources config sources)) = (.ok [], tree)) :
    tree.perform (check config) = (.ok ⟨[], []⟩, tree) := by
  have missing : (missingAmong (m := StateM FileTree) (ofSources config sources).entries).run tree =
      ([], tree) := by
    refine run_missingAmong fun entry member => ?_
    obtain ⟨source, listed, rfl⟩ := List.mem_map.mp member
    exact published source listed
  rw [check, FileTree.perform_bind, perform_manifest_of_ok found, Manifest.build_of_nodup nodup]
  dsimp only
  rw [FileTree.perform_bind, FileTree.perform_liftM, missing]
  dsimp only
  rw [FileTree.perform_bind, orphaned]
  rfl

/-! ## After a build -/

/-- Whether every page below the place of the published tree is that of a source. -/
def OnlyPages (config : Config) (tree : FileTree) : Prop :=
  ∀ names content, names ≠ [] →
    tree.get? (config.publicDir.place tree.working ++ names) = some (.file content) →
    isPage (config.publicDir.join names) = true →
      ∃ sources source, (tree.perform (scan config)).1 = .ok sources ∧ source ∈ sources ∧
        (config.publicPath source).same (config.publicDir.join names) = true

/-- What a build of pages has done when it succeeds. -/
structure Built (config : Config) (tree : FileTree) (sources : List Path) (report : BuildReport)
    (after : FileTree) : Prop where
  found : (tree.perform (scan config)).1 = .ok sources
  nodup : (pages config sources).Nodup
  report_eq : report = ⟨(sources.map (entryOf config)).map ManifestEntry.page, []⟩
  below : ∀ source ∈ sources, IsSource config source
  confined : Confined (PageOutput config tree sources) tree after
  page : ∀ source ∈ sources, ∃ markdown, tree.readText source = .ok markdown ∧
    Holds after (config.publicPath source) (Utf8.encode (compilePage config source markdown))
  manifest : Holds after (manifestPath config) (Utf8.encode (ofSources config sources).toJson)

/-- A build that succeeds has written all pages, and then the manifest. -/
theorem exists_of_perform_buildHtml
    (succeeds : tree.perform (buildHtml config) = (.ok report, after)) :
    ∃ sources middle, (tree.perform (scan config)).1 = .ok sources ∧ (pages config sources).Nodup ∧
      tree.perform (writePages config sources) = (.ok report, middle) ∧
      middle.perform (write (manifestPath config) (ofSources config sources).toJson) =
        (.ok (), after) := by
  cases found : (tree.perform (scan config)).1 with
  | error cause =>
    rw [(perform_build_of_manifest (perform_manifest_of_error found)).1] at succeeds
    cases succeeds
  | ok sources =>
    by_cases nodup : (pages config sources).Nodup
    · rw [perform_buildHtml found nodup] at succeeds
      rcases ran : tree.perform (writePages config sources) with ⟨_ | whole, middle⟩ <;>
        rw [ran] at succeeds
      · cases succeeds
      · dsimp only at succeeds
        rcases wrote : middle.perform
          (write (manifestPath config) (ofSources config sources).toJson) with ⟨_ | _, last⟩ <;>
          rw [wrote] at succeeds <;> cases succeeds
        exact ⟨sources, middle, rfl, nodup, ran, wrote⟩
    · obtain ⟨page, first, second, failed⟩ := perform_manifest_of_repeated found nodup
      rw [(perform_build_of_manifest failed).1] at succeeds
      cases succeeds

/-- The manifest cannot be put below a file. -/
theorem not_holds_manifestPath {page manifest : List UInt8}
    (holds : Holds tree config.publicDir page) : ¬ Holds tree (manifestPath config) manifest := by
  intro below
  have file := (FileTree.lookup_eq_ok_iff.mp holds.lookup_eq).2.2
  have there := (FileTree.lookup_eq_ok_iff.mp below.lookup_eq).2.2
  rw [place_manifestPath] at there
  rw [FileTree.get?_parent there] at file
  cases file

/-- A build that succeeds leaves a built site behind. -/
theorem built_of_buildHtml (succeeds : tree.perform (buildHtml config) = (.ok report, after)) :
    ∃ sources, Built config tree sources report after := by
  obtain ⟨sources, middle, found, nodup, ran, wrote⟩ := exists_of_perform_buildHtml succeeds
  have scanned : Scanned config tree sources := scanned_of_scan (Prod.ext found rfl)
  obtain ⟨confined, -, finished⟩ := ended_writePages scanned nodup ran
  obtain ⟨report_eq, pages⟩ := finished report rfl
  have manifest := FileTree.holds_replace (replace_of_perform_write wrote)
  have page : ∀ source ∈ sources, ∃ markdown, tree.readText source = .ok markdown ∧
      Holds after (config.publicPath source)
        (Utf8.encode (compilePage config source markdown)) := by
    intro source listed
    obtain ⟨text, ⟨now, markdown, -, read, answered⟩, held⟩ :=
      pages (entryOf config source) (List.mem_map_of_mem listed)
    have same : compilePage config source markdown = text := Except.ok.inj answered
    refine ⟨markdown, read, same ▸ held.grows (grows_write wrote) ?_⟩
    exact place_ne_manifestPath scanned listed middle.working
  have below : ∀ source ∈ sources, IsSource config source := by
    refine scanned.placed.resolve_left ?_
    rintro rfl
    obtain ⟨markdown, -, held⟩ := page config.sourceDir List.mem_cons_self
    rw [publicPath_sourceDir] at held
    exact not_holds_manifestPath held manifest
  exact ⟨sources, found, nodup, report_eq, below, confined.write .manifest wrote, page, manifest⟩

namespace Built

variable (built : Built config tree sources report after)
include built

/-- A build does not write where a Markdown document stands. -/
theorem other {path : Path} (markdown : isMarkdown path = true) :
    ¬ ∃ text, PageOutput config tree sources (path.place tree.working) text := by
  rintro ⟨text, written⟩
  generalize here : path.place tree.working = place at written
  cases written with
  | page listed =>
    exact naming_pages.place_ne_of_isMarkdown (built.below _ listed) markdown here.symm
  | manifest =>
    exact place_ne_of_isMarkdown markdown fileName?_manifestPath (by decide) here.symm

/-- A scan finds behind a build what it found before. -/
theorem scan_eq : (after.perform (scan config)).1 = .ok sources := by
  have found : tree.perform (scan config) = (.ok sources, tree) :=
    Prod.ext built.found (by rw [perform_scan])
  rw [perform_scan_of_grows built.confined.grows (fun path => built.other) found]

/-- A page of the published tree has a source: it was there before, or has been written. -/
theorem exists_source (only : OnlyPages config tree) {names : List Text} {content : List UInt8}
    (nonempty : names ≠ [])
    (there : after.get? (config.publicDir.place tree.working ++ names) = some (.file content))
    (page : isPage (config.publicDir.join names) = true) :
    ∃ source ∈ sources,
      (config.publicPath source).components = (config.publicDir.join names).components := by
  by_cases written : ∃ text,
      PageOutput config tree sources (config.publicDir.place tree.working ++ names) text
  · obtain ⟨text, written⟩ := written
    generalize here : config.publicDir.place tree.working ++ names = place at written
    cases written with
    | page listed =>
      refine ⟨_, listed, ?_⟩
      have parts := FileTree.isName_of_get? there
      obtain ⟨others, file, -, below, -⟩ := naming_pages.exists_place_eq (built.below _ listed)
      rw [Path.place_of_below below] at here
      rw [below, Path.components_join _ parts, List.append_cancel_left here]
    | manifest =>
      rw [place_manifestPath] at here
      rw [List.append_cancel_left here, isPage, Path.join, List.foldl_cons, List.foldl_nil,
        Path.extension?_push config.publicDir (by decide)] at page
      exact absurd page (by decide)
  · have was := built.confined.grows.elsewhere _ written
    rw [FileTree.file?_eq_some_iff.mpr there, eq_comm, FileTree.file?_eq_some_iff] at was
    obtain ⟨others, source, found, listed, same⟩ := only names content nonempty was page
    rw [built.found] at found
    cases found
    exact ⟨source, listed, beq_iff_eq.mp same⟩

/-- Checking after a build finds nothing. -/
theorem check_eq (only : OnlyPages config tree) :
    after.perform (check config) = (.ok ⟨[], []⟩, after) := by
  refine perform_check built.scan_eq built.nodup (fun source listed => ?_)
    (perform_orphans fun folder names content there page => ?_)
  · obtain ⟨markdown, -, held⟩ := built.page source listed
    rw [FileTree.kind?, held.lookup_eq]
    rfl
  · have nonempty : names ≠ [] := by
      rintro rfl
      rw [List.append_nil, folder] at there
      cases there
    rw [built.confined.working] at there
    obtain ⟨source, listed, same⟩ := built.exists_source only nonempty there page
    rw [ofSources, (Manifest.sourceFor?_eq_some_iff
      (Manifest.distinct_map_entryOf built.nodup)).mpr
        ⟨entryOf config source, List.mem_map_of_mem listed, same, rfl⟩]
    rfl

/-- Building again changes nothing. -/
theorem buildHtml_eq : after.perform (buildHtml config) = (.ok report, after) := by
  have scanned : Scanned config tree sources := scanned_of_scan (Prod.ext built.found rfl)
  have again : after.perform (writePages config sources) = (.ok report, after) := by
    rw [built.report_eq, List.map_map]
    refine (perform_writeAll_of_holds perform_compilePage fun entry member => ?_).trans ?_
    · obtain ⟨source, listed, rfl⟩ := List.mem_map.mp member
      obtain ⟨markdown, read, held⟩ := built.page source listed
      have still := built.confined.grows.readText
        (built.other (scanned.markdown source listed)) read
      exact ⟨markdown, _, still, rfl, held⟩
    · rw [List.map_map]
      rfl
  have manifest : after.perform (write (manifestPath config) (ofSources config sources).toJson) =
      (.ok (), after) := by
    rw [perform_write, built.manifest.replace_eq]
    rfl
  rw [perform_buildHtml built.scan_eq built.nodup, again]
  dsimp only
  rw [manifest]
  rfl

end Built

/-- **A build is clean.** When every page that is there already is that of a source, nothing is
missing after a build and nothing left over; and building again does the same and changes
nothing. -/
theorem check_of_buildHtml (only : OnlyPages config tree)
    (succeeds : tree.perform (buildHtml config) = (.ok report, after)) :
    after.perform (check config) = (.ok ⟨[], []⟩, after) ∧
      after.perform (buildHtml config) = (.ok report, after) := by
  obtain ⟨sources, built⟩ := built_of_buildHtml succeeds
  exact ⟨built.check_eq only, built.buildHtml_eq⟩

/-- All files of the published directory are pages. -/
theorem onlyPages_sampleTree : OnlyPages .standard sampleTree := by
  intro names content nonempty there page
  have published : sampleTree.nodes.filterMap (fun entry =>
      (Config.standard.publicDir.place sampleTree.working).isPrefixOf? entry.1) =
        [[], ["one.html".toList]] := by
    decide
  have listed : names ∈ [[], ["one.html".toList]] := by
    rw [← published]
    have held := (FileTree.get?_eq_some_iff (by simp [nonempty])).mp there
    exact List.mem_filterMap.mpr ⟨_, held, List.isPrefixOf?_eq_some_iff_append_eq.mpr rfl⟩
  rw [List.mem_cons, List.mem_singleton] at listed
  obtain rfl := listed.resolve_left nonempty
  exact ⟨sampleSources, ⟨"library/One.md".toList⟩, by decide +kernel, List.mem_cons_self,
    by decide +kernel⟩

/-- The site of this library is found to be in order, and is built again without a change. -/
theorem check_of_buildHtml_sampleTree :
    ∃ report after, OnlyPages .standard sampleTree ∧
      sampleTree.perform (buildHtml .standard) = (.ok report, after) ∧
      report.written.length = 2 ∧ after.perform (check .standard) = (.ok ⟨[], []⟩, after) ∧
        after.perform (buildHtml .standard) = (.ok report, after) := by
  have built : (sampleTree.perform (buildHtml .standard)).1 =
      .ok ⟨sampleSources.map Config.standard.publicPath, []⟩ := by
    decide +kernel
  have succeeds : sampleTree.perform (buildHtml .standard) =
      (.ok ⟨sampleSources.map Config.standard.publicPath, []⟩,
        (sampleTree.perform (buildHtml .standard)).2) :=
    Prod.ext built rfl
  exact ⟨_, _, onlyPages_sampleTree, succeeds, rfl,
    check_of_buildHtml onlyPages_sampleTree succeeds⟩

end Scriptorium.Library
