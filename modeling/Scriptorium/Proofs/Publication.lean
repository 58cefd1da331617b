import Scriptorium.Proofs.Name
import Scriptorium.Proofs.Path
import Scriptorium.Publication
/-! # Where a page lies

The page of a document lies below the published tree, under those published names of its
directories that are not empty (`Config.below_publicPath`). Where all of them have one, it
lies as deep as the document lies below the source tree (`Config.components_publicPath`).
-/

namespace Scriptorium

namespace Name

/-- A name that is one segment and has a published form. -/
structure Publishable (name : Text) : Prop where
  whole : '/' ∉ name
  published : publish name ≠ []

instance (name : Text) : Decidable (Publishable name) :=
  decidable_of_iff ('/' ∉ name ∧ publish name ≠ [])
    ⟨fun ⟨whole, published⟩ => ⟨whole, published⟩, fun ⟨whole, published⟩ => ⟨whole, published⟩⟩

variable {name : Text}

/-- The published form of a name is a name again. -/
theorem Publishable.isName_publish (publishable : Publishable name) :
    Path.IsName (publish name) where
  nonempty := publishable.published
  not_current same := not_dot_publish name (same ▸ List.mem_cons_self)
  not_parent same := not_dot_publish name (same ▸ List.mem_cons_self)
  whole := not_slash_publish publishable.whole

/-- A name with a published form is none of the segments that have no name. -/
theorem Publishable.isName (publishable : Publishable name) : Path.IsName name := by
  have nameless : ∀ segment ∈ [[], ['.'], ['.', '.']], publish segment = [] := by decide +kernel
  refine ⟨?_, ?_, ?_, publishable.whole⟩ <;> rintro rfl <;>
    exact publishable.published (nameless _ (by simp))

end Name

/-- The name of the page of a document. -/
def pageName (file : Text) : Text :=
  Name.publish (markdownStem file) ++ ".html".toList

private theorem markdownStem_sublist (file : Text) : (markdownStem file).Sublist file := by
  unfold markdownStem
  cases cut : Text.dropEnd? ".md".toList file with
  | none => exact List.Sublist.refl file
  | some stem =>
    rw [Option.getD_some, Text.eq_of_dropEnd?_eq_some cut]
    exact List.sublist_append_left _ _

/-- The stem of a document is what stands before its extension. -/
theorem markdownStem_append (stem : Text) : markdownStem (stem ++ ".md".toList) = stem := by
  rw [markdownStem, Text.dropEnd?_append, Option.getD_some]

/-- What has an extension is a name. -/
theorem isName_append_extension {stem extension : Text} (whole : '/' ∉ stem)
    (long : 2 ≤ extension.length) (plain : '/' ∉ extension) :
    Path.IsName (stem ++ '.' :: extension) := by
  have length : 3 ≤ (stem ++ '.' :: extension).length := by
    rw [List.length_append, List.length_cons]
    exact Nat.le_trans (Nat.succ_le_succ long) (Nat.le_add_left _ _)
  refine ⟨fun same => ?_, fun same => ?_, fun same => ?_, fun member => ?_⟩
  iterate 3
    rw [same] at length
    exact absurd length (by decide)
  simp only [List.mem_append, List.mem_cons] at member
  rcases member with held | dot | held
  · exact whole held
  · exact absurd dot (by decide)
  · exact plain held

/-- A page is named even where its document has no published form. -/
theorem isName_pageName {file : Text} (whole : '/' ∉ file) : Path.IsName (pageName file) :=
  isName_append_extension
    (Name.not_slash_publish fun held => whole ((markdownStem_sublist file).subset held))
    (by decide) (by decide)

namespace Config

open Scriptorium.Path (IsName Below)

/-- The directories that have names. -/
def namedAmong (directories : List Text) : List Text :=
  directories.filter (!·.isEmpty)

/-- Directories that all have a name are named among themselves. -/
theorem namedAmong_eq_self {directories : List Text} (named : ∀ name ∈ directories, name ≠ []) :
    namedAmong directories = directories :=
  List.filter_eq_self.mpr fun name member => by simpa using named name member

/-- The named ones among named directories are all of them. -/
theorem namedAmong_namedAmong (directories : List Text) :
    namedAmong (namedAmong directories) = namedAmong directories :=
  namedAmong_eq_self fun name member => by simpa using (List.mem_filter.mp member).2

/-- Names lead to a file in a folder below the base. Directories without a name are left
out. -/
theorem exists_folder (base : Path) {directory : Text → Text} (file : Text → Text)
    {names : List Text} (last : Text)
    (named : ∀ name ∈ names, directory name ≠ [] → IsName (directory name)) :
    ∃ folder, Below folder base (namedAmong (names.map directory)) ∧
      placeBelow base directory file (names ++ [last]) = folder.push (file last) := by
  induction names generalizing base with
  | nil => exact ⟨base, (List.append_nil _).symm, rfl⟩
  | cons name names ih =>
    obtain ⟨here, later⟩ := List.forall_mem_cons.mp named
    obtain ⟨folder, below, same⟩ := ih (base.push (directory name)) later
    have step : placeBelow base directory file (name :: names ++ [last]) =
        placeBelow (base.push (directory name)) directory file (names ++ [last]) := by
      cases names <;> rfl
    refine ⟨folder, ?_, step.trans same⟩
    rw [Below, namedAmong] at below ⊢
    rw [below, List.map_cons]
    by_cases unnamed : directory name = []
    · rw [List.filter_cons_of_neg (by rw [unnamed]; decide), unnamed, Path.components_push_nil]
    · rw [List.filter_cons_of_pos (by simpa using unnamed),
        Path.components_push base (here unnamed), List.append_assoc]
      rfl

/-- Names put behind a base give one component each. -/
theorem below_placeBelow (base : Path) {directory file : Text → Text} {names : List Text}
    {last : Text} (directories : ∀ name ∈ names, directory name ≠ [] → IsName (directory name))
    (named : IsName (file last)) :
    Below (placeBelow base directory file (names ++ [last])) base
      (namedAmong (names.map directory) ++ [file last]) := by
  obtain ⟨folder, below, same⟩ := exists_folder base file last directories
  rw [Below] at below ⊢
  rw [same, Path.components_push folder named, below, List.append_assoc, List.map_append,
    List.map_singleton]

variable {config : Config} {source page : Path} {directory : List Text} {file : Text}

private theorem isName_publish_of_mem
    (names : source.namesBelow config.sourceDir = directory ++ [file]) :
    ∀ name ∈ directory, Name.publish name ≠ [] → IsName (Name.publish name) := by
  intro name member published
  have isName := Path.isName_of_mem_namesBelow (names ▸ List.mem_append_left [file] member)
  exact Name.Publishable.isName_publish ⟨isName.whole, published⟩

/-- The name of a file below the sources holds no slash. -/
theorem whole_of_names (names : source.namesBelow config.sourceDir = directory ++ [file]) :
    '/' ∉ file :=
  (Path.isName_of_mem_namesBelow
    (names ▸ List.mem_append_right directory List.mem_cons_self)).whole

/-- A document without a name has the published tree itself for a page. -/
theorem publicPath_of_no_names (none : source.namesBelow config.sourceDir = []) :
    config.publicPath source = config.publicDir := by
  rw [publicPath, none]
  rfl

/-- The folder of a page. -/
theorem exists_publicPath_eq (names : source.namesBelow config.sourceDir = directory ++ [file]) :
    ∃ folder, Below folder config.publicDir (namedAmong (directory.map Name.publish)) ∧
      config.publicPath source = folder.push (pageName file) := by
  rw [publicPath, names]
  exact exists_folder config.publicDir pageName file (isName_publish_of_mem names)

/-- **Where a page lies.** The page of a document lies below the published tree, in the
published directories of the document. -/
theorem below_publicPath (names : source.namesBelow config.sourceDir = directory ++ [file]) :
    Below (config.publicPath source) config.publicDir
      (namedAmong (directory.map Name.publish) ++ [pageName file]) := by
  rw [publicPath, names]
  exact below_placeBelow config.publicDir (isName_publish_of_mem names)
    (isName_pageName (whole_of_names names))

/-- A page lies as deep as its document where all directories have published names. -/
theorem components_publicPath (config : Config) {source : Path} {directory : List Text}
    {file : Text} (place : Below source config.sourceDir (directory ++ [file]))
    (named : ∀ name ∈ directory, Name.publish name ≠ []) :
    Below (config.publicPath source) config.publicDir
      (directory.map Name.publish ++ [pageName file]) := by
  have below := below_publicPath (Path.namesBelow_of_below place)
  rwa [namedAmong_eq_self (List.forall_mem_map.mpr named)] at below

end Config

end Scriptorium
