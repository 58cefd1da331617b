import Scriptorium.Library.Build
import Scriptorium.Proofs.Library.Scan
import Scriptorium.Proofs.Manifest
import Scriptorium.Proofs.Publication
/-! # What a build writes, and where

The page and the paper of a source lie in one folder below the published tree
(`Library.exists_publicPath_eq`). Their names tell sources with different pages apart, and
neither is that of a Markdown document (`Library.Naming`). So no two documents are written to
one place, and none is written over a source (`Library.Naming.apart`).
-/

namespace Scriptorium.Library

open Scriptorium.Path (Below IsName)
open Manifest (pages entryOf)

variable {config : Config} {tree : FileTree} {sources : List Path} {source path target : Path}
  {name file : Text} {working : Location} {targetOf : Path → Path} {nameOf : Text → Text}

/-! ## Folders and names -/

/-- The page of a source has its folder below the published tree. -/
theorem exists_publicPath_eq (isSource : IsSource config source) :
    ∃ folder names file, Below folder config.publicDir names ∧ '/' ∉ file ∧
      config.publicPath source = folder.push (pageName file) := by
  obtain ⟨names, file, below⟩ := isSource
  have found := Path.namesBelow_of_below below
  obtain ⟨folder, placed, same⟩ := Config.exists_publicPath_eq found
  exact ⟨folder, _, file, placed, Config.whole_of_names found, same⟩

/-- A source directory that is a document has the published tree for a page. -/
theorem publicPath_sourceDir : config.publicPath config.sourceDir = config.publicDir :=
  Config.publicPath_of_no_names (Path.namesBelow_self _)

/-- The name of the paper of a document. -/
def paperName (file : Text) : Text :=
  (Path.splitName (pageName file)).1 ++ ".tex".toList

/-- A way to name what is written for a document, in the folder of its page. -/
structure Naming (targetOf : Path → Path) (nameOf : Text → Text) : Prop where
  isName : ∀ file, '/' ∉ file → IsName (nameOf file)
  target_push : ∀ folder file, '/' ∉ file →
    targetOf (Path.push folder (pageName file)) = folder.push (nameOf file)
  page_eq : ∀ first second, nameOf first = nameOf second → pageName first = pageName second
  other : ∀ file, (Path.splitName (nameOf file)).2 ≠ some "md".toList

private theorem splitName_pageName (file : Text) :
    Path.splitName (pageName file) =
      if Name.publish (markdownStem file) = [] then (".html".toList, none)
      else (Name.publish (markdownStem file), some "html".toList) := by
  rw [pageName, show ".html".toList = '.' :: "html".toList from rfl]
  split
  · rename_i unnamed
    rw [unnamed, List.nil_append, Path.splitName_dot (by decide)]
  · rename_i named
    rw [Path.splitName_append named (by decide)]

/-- Pages are named for their documents. -/
theorem naming_pages : Naming id pageName where
  isName _ whole := isName_pageName whole
  target_push _ _ _ := rfl
  page_eq _ _ same := same
  other file := by
    rw [splitName_pageName]
    split <;> simp

/-- Papers are named for their documents. -/
theorem naming_papers : Naming (·.withExtension "tex".toList) paperName where
  isName file whole := by
    have plain := (isName_pageName whole).whole
    exact isName_append_extension
      (fun held => plain ((Path.prefix_splitName _).subset held)) (by decide) (by decide)
  target_push folder file whole :=
    Path.withExtension_push folder (isName_pageName whole) _ (by decide)
  page_eq first second same := by
    have stems := List.append_cancel_right same
    rw [splitName_pageName, splitName_pageName] at stems
    -- The stem of a page without a name holds a dot, and a published name holds none.
    have named (file : Text) : Name.publish (markdownStem file) ≠ ".html".toList := fun same =>
      Name.not_dot_publish (markdownStem file) (same ▸ List.mem_cons_self)
    rw [pageName, pageName]
    congr 1
    split at stems <;> split at stems
    · rename_i unnamed unnamed'
      rw [unnamed, unnamed']
    · exact absurd stems.symm (named second)
    · exact absurd stems (named first)
    · exact stems
  other file := by
    have long : (Path.splitName (pageName file)).1 ≠ [] := by
      rw [splitName_pageName]
      split
      · exact List.cons_ne_nil _ _
      · assumption
    rw [paperName, show ".tex".toList = '.' :: "tex".toList from rfl,
      Path.splitName_append long (by decide)]
    simp

/-! ## Places -/

/-- A Markdown document does not stand where there is a name of another kind. -/
theorem place_ne_of_isMarkdown (markdown : isMarkdown path = true)
    (last : target.fileName? = some name) (other : (Path.splitName name).2 ≠ some "md".toList) :
    target.place working ≠ path.place working := by
  intro same
  rw [isMarkdown, beq_iff_eq, Path.extension?, Option.bind_eq_some_iff] at markdown
  obtain ⟨found, named, extension⟩ := markdown
  have final := Path.getLast?_place named working
  rw [← same, Path.getLast?_place last] at final
  cases final
  exact other extension

/-- The place of what is written for a source. -/
theorem Naming.exists_place_eq (naming : Naming targetOf nameOf)
    (isSource : IsSource config source) :
    ∃ names file, '/' ∉ file ∧
      Below (config.publicPath source) config.publicDir (names ++ [pageName file]) ∧
      Below (targetOf (config.publicPath source)) config.publicDir (names ++ [nameOf file]) ∧
        (targetOf (config.publicPath source)).fileName? = some (nameOf file) := by
  obtain ⟨folder, names, file, below, whole, same⟩ := exists_publicPath_eq isSource
  have isName := naming.isName file whole
  refine ⟨names, file, whole, ?_, ?_, ?_⟩
  · rw [Below, same, Path.components_push folder (isName_pageName whole), below, List.append_assoc,
      List.map_append]
    rfl
  · rw [Below, same, naming.target_push folder file whole, Path.components_push folder isName,
      below, List.append_assoc, List.map_append]
    rfl
  · rw [same, naming.target_push folder file whole, Path.fileName?_push folder isName]

/-- Nothing is written for a source where a Markdown document stands. -/
theorem Naming.place_ne_of_isMarkdown (naming : Naming targetOf nameOf)
    (isSource : IsSource config source) (markdown : isMarkdown path = true) :
    (targetOf (config.publicPath source)).place working ≠ path.place working := by
  obtain ⟨names, file, -, -, -, last⟩ := naming.exists_place_eq isSource
  exact Library.place_ne_of_isMarkdown markdown last (naming.other file)

/-- What is written for an entry is written neither where a later entry is written nor where
its source stands. -/
def Apart (targetOf : Path → Path) (working : Location) (entries : List ManifestEntry) : Prop :=
  entries.Pairwise fun earlier later =>
    (targetOf earlier.page).place working ≠ (targetOf later.page).place working ∧
      (targetOf earlier.page).place working ≠ later.source.place working

/-- **Documents are written apart**, from each other and from the sources. -/
theorem Naming.apart (naming : Naming targetOf nameOf) (scanned : Scanned config tree sources)
    (nodup : (pages config sources).Nodup) (working : Location) :
    Apart targetOf working (sources.map (entryOf config)) := by
  rcases scanned.placed with rfl | placed
  · exact List.pairwise_singleton _ _
  · refine List.pairwise_map.mpr ((List.pairwise_map.mp nodup).imp_of_mem ?_)
    intro earlier later listed listedLater different
    refine ⟨fun same => different ?_, ?_⟩
    · obtain ⟨names, file, -, page, target, -⟩ := naming.exists_place_eq (placed earlier listed)
      obtain ⟨others, other, -, page', target', -⟩ :=
        naming.exists_place_eq (placed later listedLater)
      rw [entryOf, entryOf, Path.place_of_below target, Path.place_of_below target'] at same
      obtain ⟨rfl, last⟩ := List.append_inj' (List.append_cancel_left same) rfl
      rw [page, page', naming.page_eq file other (List.singleton_inj.mp last)]
    · exact naming.place_ne_of_isMarkdown (placed earlier listed)
        (scanned.markdown later listedLater)

/-- The places that documents are written to, each of which is that of one document. -/
theorem Naming.nodup_places {targetOf : Path → Path} {nameOf : Text → Text}
    (naming : Naming targetOf nameOf) (scanned : Scanned config tree sources)
    (nodup : (pages config sources).Nodup) (working : Location) :
    (sources.map fun source => (targetOf (config.publicPath source)).place working).Nodup :=
  List.pairwise_map.mpr
    ((List.pairwise_map.mp (naming.apart scanned nodup working)).imp fun apart => apart.1)

end Scriptorium.Library
