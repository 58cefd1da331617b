import Scriptorium.Text.Basic
/-! # Values of a TOML document

The values of the TOML format, and the rules by which a document builds its tables: a
table is defined once, by a header or by dotted keys, and a header may come after those
of its subtables.
-/

namespace Scriptorium.Toml

/-- What a table was made by. -/
inductive Origin where
  /-- A header of its own, or the document itself. -/
  | header
  /-- The header of a table inside of it. -/
  | implied
  /-- A key with dots. -/
  | dotted
  deriving DecidableEq, Repr

/-- A table of values. -/
structure TableOf (α : Type) where
  origin : Origin
  entries : List (Text × α)

/-- A value. Numbers and points in time keep their spelling. -/
inductive Value where
  | string (value : Text)
  | boolean (value : Bool)
  | number (literal : Text)
  | moment (literal : Text)
  | array (items : List Value)
  /-- A table in braces, which is complete. -/
  | braced (entries : List (Text × Value))
  | table (table : TableOf Value)
  /-- An array of tables with a header each. It is never empty. -/
  | tables (before : List (TableOf Value)) (last : TableOf Value)

/-- A table of values. -/
abbrev Table := TableOf Value

namespace Table

/-- The table without entries that a header makes. -/
def empty : Table := ⟨.header, []⟩

/-- The value of a key. -/
def get? (table : Table) (key : Text) : Option Value :=
  (table.entries.find? (·.1 == key)).map Prod.snd

/-- A table with a value for a key. -/
def set (table : Table) (key : Text) (value : Value) : Table :=
  ⟨table.origin, table.entries.filter (·.1 != key) ++ [(key, value)]⟩

/-- A table with the table changed that a path of keys leads to. Missing ones are made
with the given origin. Dotted keys lead into no table that has a header; an array of
tables is entered at its last one. -/
def modify (origin : Origin) (change : Table → Option Table) :
    List Text → Table → Option Table
  | [], table => change table
  | key :: path, table =>
    match table.get? key with
    | none => (modify origin change path ⟨origin, []⟩).map fun child => table.set key (.table child)
    | some (.table child) =>
      if origin = .dotted && child.origin = .header then none
      else (modify origin change path child).map fun child => table.set key (.table child)
    | some (.tables before last) =>
      (modify origin change path last).map fun last => table.set key (.tables before last)
    | some _ => none

/-- A table with a value for a dotted key, of which the path leads to the last part. No
key has two values, and dotted keys add to no table that they have not made. -/
def add (path : List Text) (key : Text) (value : Value) (table : Table) : Option Table :=
  modify .dotted (fun table =>
    if (table.origin == .dotted) == path.isEmpty || (table.get? key).isSome then none
    else some (table.set key value)) path table

/-- A document with a table that a header opens at a path and a key. -/
def openTable (path : List Text) (key : Text) (document : Table) : Option Table :=
  modify .implied (fun parent =>
    match parent.get? key with
    | none => some (parent.set key (.table empty))
    | some (.table child) =>
      if child.origin = .implied then some (parent.set key (.table ⟨.header, child.entries⟩))
      else none
    | some _ => none) path document

/-- A document with one more table in the array of tables at a path and a key. -/
def openNext (path : List Text) (key : Text) (document : Table) : Option Table :=
  modify .implied (fun parent =>
    match parent.get? key with
    | none => some (parent.set key (.tables [] empty))
    | some (.tables before last) => some (parent.set key (.tables (before ++ [last]) empty))
    | some _ => none) path document

end Table

end Scriptorium.Toml
