import Scriptorium.Name
/-! # The citations of a document

The definitions of a document in the order in which they are first seen. Each has
an anchor of its own: when two names would have the same anchor, the later one gets
a number behind it.
-/

namespace Scriptorium

/-- A citation of a document. -/
structure Citation where
  id : Text
  /-- The end of the names of its elements on the page, unlike that of any other
  citation of the document. -/
  anchor : Text
  rawContent : Text
  /-- Its place in the table, from zero on. -/
  index : Nat
  /-- The content as HTML, once it has been formatted. -/
  formattedHtml : Option Text
  deriving DecidableEq, Repr

/-- The citations of a document, in order. -/
structure CitationTable where
  entries : List Citation
  /-- The place of each citation by its name, the last one first. -/
  places : List (Text × Nat)
  deriving DecidableEq, Repr

namespace CitationTable

/-- The table without citations. -/
def empty : CitationTable := ⟨[], []⟩

/-- Whether a table has no citations. -/
def isEmpty (table : CitationTable) : Bool :=
  table.entries.isEmpty

/-- The citation with the given name. -/
def get? (table : CitationTable) (id : Text) : Option Citation :=
  (table.places.lookup id).bind fun place => table.entries[place]?

/-- The anchor that is tried at the given turn: first the plain one, then with the
numbers from two on. -/
def numberedAnchor (base : Text) : Nat → Text
  | 0 => base
  | n + 1 => base ++ '-' :: Text.ofNat (n + 2)

/-- The first of the numbered anchors that is not taken. One more of them than there
are taken ones is tried, so one is free. -/
def freeAnchor (taken : List Text) (base : Text) : Text :=
  (((List.range (taken.length + 1)).map (numberedAnchor base)).find? (!taken.contains ·)).getD base

/-- Adds a citation and says whether it is new. The first definition of a name
stays. -/
def insert (table : CitationTable) (id raw : Text) : Bool × CitationTable :=
  if (table.places.lookup id).isSome then (false, table)
  else
    let place := table.entries.length
    let anchor := freeAnchor (table.entries.map Citation.anchor) (Anchor.ofText id)
    (true, ⟨table.entries ++ [⟨id, anchor, raw, place, none⟩], (id, place) :: table.places⟩)

/-- The table after the given definitions, in order. -/
def insertAll (table : CitationTable) (definitions : List (Text × Text)) : CitationTable :=
  definitions.foldl (fun table definition => (table.insert definition.1 definition.2).2) table

end CitationTable

end Scriptorium
