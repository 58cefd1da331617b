import Scriptorium.Proofs.Publication
import Scriptorium.Proofs.PublishedName
/-! # From a page to a source and back

Several sources have one page, so the source that a page suggests need not be the one that
it was made from. But it has the same page (`Config.publicPath_sourcePath`): its directories
are published names, which are published as they are, and its file is named for the page
(`Config.pageName_sourceName`).
-/

namespace Scriptorium.Config

open Scriptorium.Path (IsName Below)

variable {config : Config} {source page : Path} {names : List Text} {file : Text}

/-- The name of a source is one that may stand in a path. -/
theorem isName_sourceName (config : Config) (whole : '/' ∉ file) :
    IsName (config.sourceName file) := by
  have stem : '/' ∉ (Text.dropEnd? ".html".toList file).getD file := by
    cases cut : Text.dropEnd? ".html".toList file with
    | none => exact whole
    | some stem =>
      rw [Text.eq_of_dropEnd?_eq_some cut] at whole
      exact fun held => whole (List.mem_append_left _ held)
  unfold sourceName
  dsimp only
  split
  · have dotted : '/' ∉ '.' :: (Text.dropEnd? ".html".toList file).getD file := by
      simpa using stem
    exact isName_append_extension dotted (by decide) (by decide)
  · exact isName_append_extension stem (by decide) (by decide)

/-- The file that the page of a document suggests has the same page. -/
theorem pageName_sourceName (config : Config) (file : Text) :
    pageName (config.sourceName (pageName file)) = pageName file := by
  rw [sourceName, pageName, pageName, Text.dropEnd?_append, Option.getD_some]
  split
  · rw [markdownStem_append, Name.publish_dot_publish]
  · rw [markdownStem_append, Name.publish_publish]

/-- **Where a suggested source lies**: in the directories of the page. -/
theorem below_sourcePath (place : page.namesBelow config.publicDir = names ++ [file]) :
    Below (config.sourcePath page) config.sourceDir (names ++ [config.sourceName file]) := by
  have isName : ∀ name ∈ names ++ [file], IsName name :=
    fun name member => Path.isName_of_mem_namesBelow (place ▸ member)
  have whole := (isName file (List.mem_append_right names List.mem_cons_self)).whole
  have directories : ∀ name ∈ names, id name ≠ [] → IsName (id name) :=
    fun name member _ => isName name (List.mem_append_left [file] member)
  have below := below_placeBelow config.sourceDir directories (isName_sourceName config whole)
  rw [List.map_id, namedAmong_eq_self fun name member =>
    (isName name (List.mem_append_left [file] member)).nonempty] at below
  rwa [sourcePath, place]

/-- Published directories are published as they are. -/
theorem map_publish_namedAmong (directories : List Text) :
    (namedAmong (directories.map Name.publish)).map Name.publish =
      namedAmong (directories.map Name.publish) := by
  refine (List.map_congr_left fun name member => ?_).trans (List.map_id _)
  obtain ⟨directory, -, rfl⟩ := List.mem_map.mp (List.mem_filter.mp member).1
  exact Name.publish_publish directory

/-- **The source that a page suggests has that page**, whether or not the page was made from
it. -/
theorem publicPath_sourcePath (config : Config) (source : Path) :
    (config.publicPath (config.sourcePath (config.publicPath source))).components =
      (config.publicPath source).components := by
  rcases List.eq_nil_or_concat' (source.namesBelow config.sourceDir) with
    none | ⟨directory, file, names⟩
  · have root : config.sourcePath config.publicDir = config.sourceDir := by
      rw [sourcePath, Path.namesBelow_self]
      rfl
    rw [publicPath_of_no_names none, root, publicPath_of_no_names (Path.namesBelow_self _)]
  · have page := below_publicPath names
    have suggested := below_sourcePath (Path.namesBelow_of_below page)
    have again := below_publicPath (Path.namesBelow_of_below suggested)
    rw [map_publish_namedAmong, namedAmong_namedAmong, pageName_sourceName] at again
    rw [again, page]

end Scriptorium.Config
