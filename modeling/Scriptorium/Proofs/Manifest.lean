import Mathlib.Data.List.Induction
import Mathlib.Data.List.Nodup
import Scriptorium.Manifest
import Scriptorium.Proofs.Json
import Scriptorium.Proofs.Places
/-! # The manifest as an inverse

Two sources are told apart by the components of their pages. Adding a source whose page is
free lists it at the end, and adding one whose page is taken fails
(`Manifest.insert_of_free`, `Manifest.insert_of_taken`). So a manifest can be built exactly
when no two pages are the same; it then leads from each page back to its source, and so does
what is read from its record (`Manifest.build_inverts`).
-/

namespace Scriptorium.Manifest

variable {config : Config} {entries : List ManifestEntry} {source first page : Path}
  {sources before after : List Path}

/-- No two entries have the same page. -/
def Distinct (entries : List ManifestEntry) : Prop :=
  (entries.map fun entry => entry.page.components).Nodup

/-- The entry of a source. -/
def entryOf (config : Config) (source : Path) : ManifestEntry :=
  ⟨source, config.publicPath source⟩

/-! ## One more source -/

/-- The source of a page is that of the entry with this page, path by path. -/
theorem sourceFor?_eq_some_iff (distinct : Distinct entries) :
    (ofEntries entries).sourceFor? page = some source ↔
      ∃ entry ∈ entries, entry.page.components = page.components ∧ entry.source = source := by
  rw [sourceFor?, Option.map_eq_some_iff]
  constructor
  · rintro ⟨entry, found, same⟩
    obtain ⟨member, here⟩ := (Places.getElem?_lookup_eq_some_iff distinct).mp found
    exact ⟨entry, member, here, same⟩
  · rintro ⟨entry, member, here, same⟩
    exact ⟨entry, (Places.getElem?_lookup_eq_some_iff distinct).mpr ⟨member, here⟩, same⟩

private theorem sourceFor?_eq_none_iff (distinct : Distinct entries) :
    (ofEntries entries).sourceFor? page = none ↔
      ∀ entry ∈ entries, entry.page.components ≠ page.components := by
  rw [Option.eq_none_iff_forall_ne_some]
  constructor
  · intro absent entry member same
    exact absent entry.source ((sourceFor?_eq_some_iff distinct).mpr ⟨entry, member, same, rfl⟩)
  · intro absent source found
    obtain ⟨entry, member, same, -⟩ := (sourceFor?_eq_some_iff distinct).mp found
    exact absent entry member same

/-- A page that an entry has is refused, with the source of this entry. -/
theorem insert_of_taken {entry : ManifestEntry} (distinct : Distinct entries)
    (member : entry ∈ entries) (same : entry.page.components = page.components) :
    (ofEntries entries).insert source page =
      .error (.duplicatePublicName page entry.source source) := by
  rw [insert, (sourceFor?_eq_some_iff distinct).mpr ⟨entry, member, same, rfl⟩]

/-- An entry whose page is free is added to the manifest. -/
theorem insert_of_free (distinct : Distinct entries)
    (free : ∀ entry ∈ entries, entry.page.components ≠ page.components) :
    (ofEntries entries).insert source page = .ok (ofEntries (entries ++ [⟨source, page⟩])) := by
  rw [insert, (sourceFor?_eq_none_iff distinct).mpr free]
  have places : placesOf (entries ++ [⟨source, page⟩]) =
      (page.components, entries.length) :: placesOf entries := by
    rw [placesOf, List.map_append, List.map_singleton, Places.concat, List.length_map]
    rfl
  rw [ofEntries, ofEntries, places]

/-! ## All sources -/

/-- The pages of sources, by what they are compared by. -/
def pages (config : Config) (sources : List Path) : List (List Path.Component) :=
  sources.map fun source => (config.publicPath source).components

/-- The manifest that lists sources in order. -/
def ofSources (config : Config) (sources : List Path) : Manifest :=
  ofEntries (sources.map (entryOf config))

/-- Entries of distinct pages are distinct. -/
theorem distinct_map_entryOf (nodup : (pages config sources).Nodup) :
    Distinct (sources.map (entryOf config)) := by
  rw [Distinct, List.map_map]
  exact nodup

private theorem nodup_pages_concat : (pages config (sources ++ [source])).Nodup ↔
    (config.publicPath source).components ∉ pages config sources ∧
      (pages config sources).Nodup := by
  rw [pages, List.map_append, List.map_singleton, ← List.concat_eq_append]
  exact List.nodup_concat _ _

private theorem insert_publicPath_of_not_mem (nodup : (pages config (sources ++ [source])).Nodup) :
    (ofSources config sources).insert source (config.publicPath source) =
      .ok (ofSources config (sources ++ [source])) := by
  obtain ⟨new, nodup⟩ := nodup_pages_concat.mp nodup
  have free : ∀ entry ∈ sources.map (entryOf config),
      entry.page.components ≠ (config.publicPath source).components := by
    intro entry member same
    obtain ⟨other, listed, rfl⟩ := List.mem_map.mp member
    exact new (List.mem_map.mpr ⟨other, listed, same⟩)
  rw [ofSources, insert_of_free (distinct_map_entryOf nodup) free, ofSources, List.map_append]
  rfl

private theorem insert_publicPath_of_mem (nodup : (pages config sources).Nodup)
    (listed : first ∈ sources)
    (same : (config.publicPath first).components = (config.publicPath source).components) :
    (ofSources config sources).insert source (config.publicPath source) =
      .error (.duplicatePublicName (config.publicPath source) first source) :=
  insert_of_taken (distinct_map_entryOf nodup) (List.mem_map_of_mem listed) same

private theorem insertAll_append (manifest : Manifest) (before after : List Path) :
    insertAll config manifest (before ++ after) =
      match insertAll config manifest before with
      | .error cause => .error cause
      | .ok manifest => insertAll config manifest after := by
  induction before generalizing manifest with
  | nil => rfl
  | cons source before ih =>
    rw [List.cons_append, insertAll, insertAll]
    cases manifest.insert source (config.publicPath source) with
    | error cause => rfl
    | ok manifest => exact ih manifest

/-- Where no page comes twice a manifest is made. -/
theorem build_of_nodup (nodup : (pages config sources).Nodup) :
    build config sources = .ok (ofSources config sources) := by
  induction sources using List.reverseRecOn with
  | nil => rfl
  | append_singleton sources source ih =>
    have sofar := ih (nodup_pages_concat.mp nodup).2
    rw [build] at sofar
    rw [build, insertAll_append, sofar]
    dsimp only
    rw [insertAll, insert_publicPath_of_not_mem nodup]
    rfl

/-- The first source whose page is taken stops the building. -/
theorem build_of_duplicate (nodup : (pages config before).Nodup) (listed : first ∈ before)
    (same : (config.publicPath first).components = (config.publicPath source).components) :
    build config (before ++ source :: after) =
      .error (.duplicatePublicName (config.publicPath source) first source) := by
  have sofar := build_of_nodup nodup
  rw [build] at sofar
  rw [build, insertAll_append, sofar]
  dsimp only
  rw [insertAll, insert_publicPath_of_mem nodup listed same]

/-- Where two pages are the same, there is a first source whose page is taken. -/
theorem exists_first_duplicate (repeated : ¬ (pages config sources).Nodup) :
    ∃ before first source after, sources = before ++ source :: after ∧
      (pages config before).Nodup ∧ first ∈ before ∧
        (config.publicPath first).components = (config.publicPath source).components := by
  induction sources using List.reverseRecOn with
  | nil => exact absurd List.nodup_nil repeated
  | append_singleton sources source ih =>
    by_cases nodup : (pages config sources).Nodup
    · have taken : (config.publicPath source).components ∈ pages config sources := by
        by_contra new
        exact repeated (nodup_pages_concat.mpr ⟨new, nodup⟩)
      obtain ⟨first, listed, same⟩ := List.mem_map.mp taken
      exact ⟨sources, first, source, [], rfl, nodup, listed, same⟩
    · obtain ⟨before, first, again, after, rfl, distinct, listed, same⟩ := ih nodup
      exact ⟨before, first, again, after ++ [source], by rw [List.append_assoc]; rfl, distinct,
        listed, same⟩

/-! ## The record of a manifest -/

private theorem writable_record (entries : List ManifestEntry) :
    (Json.object [("entries".toList, .array (entries.map entryToJson))]).Writable := by
  refine .object fun member listed => ?_
  rw [List.mem_singleton.mp listed]
  refine .array fun item listed => ?_
  obtain ⟨entry, -, rfl⟩ := List.mem_map.mp listed
  refine .object fun member listed => ?_
  rcases List.mem_cons.mp listed with rfl | last
  · exact .string _
  · rw [List.mem_singleton.mp last]
    exact .string _

private theorem entryOfJson?_entryToJson (entry : ManifestEntry) :
    entryOfJson? (entryToJson entry) = some entry :=
  rfl

private theorem mapM_entryOfJson? (entries : List ManifestEntry) :
    (entries.map entryToJson).mapM entryOfJson? = some entries := by
  induction entries with
  | nil => rfl
  | cons entry entries ih =>
    rw [List.map_cons, List.mapM_cons, entryOfJson?_entryToJson, ih]
    rfl

/-- **A manifest is read back** from its record. -/
theorem fromJson_toJson (entries : List ManifestEntry) :
    fromJson (ofEntries entries).toJson = .ok (ofEntries entries) := by
  have listed : ofJson? (.object [("entries".toList, .array (entries.map entryToJson))]) =
      ((entries.map entryToJson).mapM entryOfJson?).map ofEntries := rfl
  have recorded : (ofEntries entries).toJson =
      (Json.object [("entries".toList, .array (entries.map entryToJson))]).pretty := rfl
  rw [fromJson, recorded, (writable_record entries).parse?_pretty, Option.bind_some, listed,
    mapM_entryOfJson?]
  rfl

/-! ## What a manifest records -/

/-- What a manifest of sources is: it lists them in order and leads from their pages, and
from no others, back to them; a page is resolved to the source that was recorded for it, or
else to the one that it suggests; and its record is read back as the same manifest. -/
structure Inverts (manifest : Manifest) (config : Config) (sources : List Path) : Prop where
  entries_eq : manifest.entries = sources.map fun source => ⟨source, config.publicPath source⟩
  sourceFor?_publicPath : ∀ source ∈ sources,
    manifest.sourceFor? (config.publicPath source) = some source
  sourceFor?_other : ∀ page : Path,
    (∀ source ∈ sources, (config.publicPath source).components ≠ page.components) →
      manifest.sourceFor? page = none
  resolveSource_recorded : ∀ page source, manifest.sourceFor? page = some source →
    manifest.resolveSource config page = source
  resolveSource_other : ∀ page, manifest.sourceFor? page = none →
    manifest.resolveSource config page = config.sourcePath page
  fromJson_toJson : fromJson manifest.toJson = .ok manifest

/-- The manifest of sources with distinct pages inverts their paths. -/
theorem inverts_ofSources (nodup : (pages config sources).Nodup) :
    (ofSources config sources).Inverts config sources := by
  have distinct := distinct_map_entryOf nodup
  constructor
  · rfl
  · intro source listed
    exact (sourceFor?_eq_some_iff distinct).mpr
      ⟨entryOf config source, List.mem_map_of_mem listed, rfl, rfl⟩
  · intro page other
    refine (sourceFor?_eq_none_iff distinct).mpr fun entry member => ?_
    obtain ⟨source, listed, rfl⟩ := List.mem_map.mp member
    exact other source listed
  · intro page source found
    rw [resolveSource, found, Option.getD_some]
  · intro page absent
    rw [resolveSource, absent, Option.getD_none]
  · exact fromJson_toJson _

/-- **The manifest is an exact inverse.** It can be built exactly when the pages of the sources
are pairwise distinct. If it cannot, the error names the first source whose page was taken and
the earlier source that took it; if it can, it leads from each page back to its source. -/
theorem build_inverts (config : Config) (sources : List Path) :
    ((∃ manifest, build config sources = .ok manifest) ↔ (pages config sources).Nodup) ∧
      (∀ error, build config sources = .error error → ∃ before first source after,
        sources = before ++ source :: after ∧ (pages config before).Nodup ∧ first ∈ before ∧
          (config.publicPath first).components = (config.publicPath source).components ∧
            error = .duplicatePublicName (config.publicPath source) first source) ∧
      ∀ manifest, build config sources = .ok manifest → manifest.Inverts config sources := by
  by_cases nodup : (pages config sources).Nodup
  · have built := build_of_nodup nodup
    refine ⟨iff_of_true ⟨_, built⟩ nodup, fun error failed => ?_, fun manifest same => ?_⟩
    · rw [built] at failed
      cases failed
    · rw [built] at same
      cases same
      exact inverts_ofSources nodup
  · obtain ⟨before, first, source, after, rfl, distinct, listed, same⟩ :=
      exists_first_duplicate nodup
    have failed : build config (before ++ source :: after) =
        .error (.duplicatePublicName (config.publicPath source) first source) :=
      build_of_duplicate distinct listed same
    refine ⟨iff_of_false ?_ nodup, fun error read => ?_, fun manifest built => ?_⟩
    · rintro ⟨manifest, built⟩
      rw [failed] at built
      cases built
    · rw [failed] at read
      cases read
      exact ⟨before, first, source, after, rfl, distinct, listed, same, rfl⟩
    · rw [failed] at built
      cases built

end Scriptorium.Manifest
