import Scriptorium.Config
import Scriptorium.Error
import Scriptorium.Toml.Document
/-! # Configurations in TOML

The configuration that a TOML document describes (`Config.fromToml`). What it leaves out
has its standard value, and what it says beyond the settings is passed over. A value of
the wrong kind makes the whole document invalid.
-/

namespace Scriptorium.Toml

/-- The fields of a record: the value, if any, of the field with the given place and
name. -/
abbrev Fields := Nat → Text → Option Value

/-- The fields of a table, by their names. -/
def Table.fields (table : Table) : Fields :=
  fun _ name => table.get? name

/-- The fields of a value: by name for a table, by place for an array. A point in time
has the form of a record without any of the fields. -/
def Value.fields? : Value → Option Fields
  | .table named => some (Table.fields named)
  | .braced entries => some (Table.fields ⟨.header, entries⟩)
  | .array items => some fun place _ => items[place]?
  | .tables before last => some fun place _ => ((before ++ [last])[place]?).map .table
  | .moment _ => some fun _ _ => none
  | _ => none

/-- A string. -/
def Value.text? : Value → Option Text
  | .string value => some value
  | _ => none

/-- The items of an array. -/
def Value.items? : Value → Option (List Value)
  | .array items => some items
  | .tables before last => some ((before ++ [last]).map .table)
  | _ => none

/-- A field read by `read`, or a value in its place where it is left out. Nothing when it
is there but cannot be read. -/
def field? {α : Type} (fields : Fields) (place : Nat) (name : String) (read : Value → Option α)
    (standard : α) : Option α :=
  match fields place name.toList with
  | some value => read value
  | none => some standard

/-- The settings of the repository. -/
def repository? (value : Value) : Option Repository := do
  let fields ← value.fields?
  let url ← field? fields 0 "url" Value.text? Repository.standard.url
  let branch ← field? fields 1 "branch" Value.text? Repository.standard.branch
  some ⟨url, branch⟩

/-- A literal replacement, which has both its fields. -/
def replacement? (value : Value) : Option Replacement := do
  let fields ← value.fields?
  let old ← (fields 0 "from".toList).bind Value.text?
  let new ← (fields 1 "to".toList).bind Value.text?
  some ⟨old, new⟩

/-- The settings of the pages. -/
def html? (value : Value) : Option HtmlSettings := do
  let fields ← value.fields?
  let siteTitle ← field? fields 0 "site_title" Value.text? HtmlSettings.standard.siteTitle
  let replacements ← field? fields 1 "literal_rewrites" (fun value => do
    (← value.items?).mapM replacement?) HtmlSettings.standard.replacements
  some ⟨siteTitle, replacements⟩

/-- The settings of the papers. -/
def latex? (value : Value) : Option LatexSettings := do
  let fields ← value.fields?
  let template ← field? fields 0 "template" (fun value => value.text?.map fun path => some ⟨path⟩)
    none
  some ⟨template⟩

/-- The configuration that fields describe. -/
def config? (fields : Fields) : Option Config := do
  let standard := Config.standard
  let sourceDir ← field? fields 0 "source_dir" Value.text? standard.sourceDir.text
  let publicDir ← field? fields 1 "public_dir" Value.text? standard.publicDir.text
  let repository ← field? fields 2 "repository" repository? standard.repository
  let siteBaseUrl ← field? fields 3 "site_base_url" Value.text? standard.siteBaseUrl
  let indices ← field? fields 4 "collection_indices" (fun value => do
    (← value.items?).mapM Value.text?) standard.collectionIndices
  let html ← field? fields 5 "html" html? standard.html
  let latex ← field? fields 6 "latex" latex? standard.latex
  some ⟨⟨sourceDir⟩, ⟨publicDir⟩, repository, siteBaseUrl, indices, html, latex⟩

end Scriptorium.Toml

namespace Scriptorium

/-- The configuration that a TOML text describes. -/
def Config.fromToml (text : Text) : Except ConfigError Config :=
  match (Toml.parse? text).bind fun document => Toml.config? (Toml.Table.fields document) with
  | some config => .ok config
  | none => .error .invalid

end Scriptorium
