import Scriptorium.Error
import Scriptorium.Json
import Scriptorium.Publication
/-! # The manifest of a build

The documents of a build with their pages. Building it fails when two documents
have the same page, so the page of a built manifest leads back to its one source
(`Manifest.sourceFor?`).
-/

namespace Scriptorium

/-- A published document. -/
structure ManifestEntry where
  source : Path
  page : Path
  deriving DecidableEq, Repr

/-- The documents of a build, in order. -/
structure Manifest where
  entries : List ManifestEntry
  /-- The place of each entry by the components of its page, the last one first. -/
  places : List (List Path.Component × Nat)
  deriving DecidableEq, Repr

namespace Manifest

/-- The manifest without documents. -/
def empty : Manifest := ⟨[], []⟩

/-- The places of entries by the components of their pages. Of two entries with one page
the later one is found. -/
def placesOf (entries : List ManifestEntry) : List (List Path.Component × Nat) :=
  (entries.map fun entry => entry.page.components).zipIdx.reverse

/-- The manifest of the given entries. -/
def ofEntries (entries : List ManifestEntry) : Manifest :=
  ⟨entries, placesOf entries⟩

/-- The source that has the given page. -/
def sourceFor? (manifest : Manifest) (page : Path) : Option Path :=
  ((manifest.places.lookup page.components).bind fun place => manifest.entries[place]?).map
    ManifestEntry.source

/-- The source of a page: the recorded one, or the one that the page suggests. -/
def resolveSource (manifest : Manifest) (config : Config) (page : Path) : Path :=
  (manifest.sourceFor? page).getD (config.sourcePath page)

/-- A manifest with one more document, unless its page is taken. -/
def insert (manifest : Manifest) (source page : Path) : Except Error Manifest :=
  match manifest.sourceFor? page with
  | some first => .error (.duplicatePublicName page first source)
  | none =>
    .ok ⟨manifest.entries ++ [⟨source, page⟩],
      (page.components, manifest.entries.length) :: manifest.places⟩

/-- A manifest with the given documents added in order. -/
def insertAll (config : Config) (manifest : Manifest) : List Path → Except Error Manifest
  | [] => .ok manifest
  | source :: sources =>
    match manifest.insert source (config.publicPath source) with
    | .error cause => .error cause
    | .ok manifest => insertAll config manifest sources

/-- The manifest of the given documents. -/
def build (config : Config) (sources : List Path) : Except Error Manifest :=
  insertAll config empty sources

/-- The JSON value of an entry. -/
def entryToJson (entry : ManifestEntry) : Json :=
  .object [("source".toList, .string entry.source.text), ("public".toList, .string entry.page.text)]

/-- A manifest as JSON text. -/
def toJson (manifest : Manifest) : Text :=
  (Json.object [("entries".toList, .array (manifest.entries.map entryToJson))]).pretty

/-- The one value of a key, when the key comes exactly once. -/
def member? (key : Text) (members : List (Text × Json)) : Option Json :=
  match members.filter (·.1 == key) with
  | [(_, value)] => some value
  | _ => none

/-- The entry that a JSON value stands for: an object with both paths, besides
which it may have other members, or an array of the two. -/
def entryOfJson? : Json → Option ManifestEntry
  | .object members =>
    match member? "source".toList members, member? "public".toList members with
    | some (.string source), some (.string page) => some ⟨⟨source⟩, ⟨page⟩⟩
    | _, _ => none
  | .array [.string source, .string page] => some ⟨⟨source⟩, ⟨page⟩⟩
  | _ => none

/-- The manifest that a JSON value stands for. -/
def ofJson? : Json → Option Manifest
  | .object members =>
    match member? "entries".toList members with
    | some (.array items) => (items.mapM entryOfJson?).map ofEntries
    | _ => none
  | .array [.array items] => (items.mapM entryOfJson?).map ofEntries
  | _ => none

/-- The manifest that a JSON text records. -/
def fromJson (text : Text) : Except Error Manifest :=
  match (Json.parse? text).bind ofJson? with
  | some manifest => .ok manifest
  | none => .error .invalidManifest

end Manifest

end Scriptorium
