import Scriptorium.Page
import Scriptorium.Proofs.Math.Markup
/-! # The outline of a page

The outline of a text are the signs in it that end tags and the values of attributes
(`Html.outline`). What is escaped adds nothing to it (`Html.outline_escape`), and all text
from the metadata is. So two pages around one fragment have one outline when the same parts
of their metadata are there (`Page.outline_render`): no text closes a value that it stands
in, or opens a tag.
-/

namespace Scriptorium

namespace Html

/-- The signs of a text that end tags and the values of attributes, in order. -/
def outline (s : Text) : Text :=
  s.filter isSign

@[simp]
theorem outline_append (front back : Text) :
    outline (front ++ back) = outline front ++ outline back :=
  List.filter_append front back

/-- **What is escaped has no outline.** -/
@[simp]
theorem outline_escape (s : Text) : outline (escape s) = [] := by
  rw [outline, escape, List.filter_flatMap]
  exact List.flatMap_eq_nil_iff.mpr fun c _ => Math.isSign_escapeChar c

variable {α : Type} {write write' : α → Text}

/-- A part that may be missing. -/
theorem outline_optional (same : ∀ a b, outline (write a) = outline (write' b))
    {part part' : Option α} (there : part.isSome = part'.isSome) :
    outline ((part.map write).getD []) = outline ((part'.map write').getD []) := by
  cases part <;> cases part'
  · rfl
  · cases there
  · cases there
  · exact same _ _

/-- A part that comes several times. -/
theorem outline_flatMap (same : ∀ a b, outline (write a) = outline (write b))
    {parts parts' : List α} (many : parts.length = parts'.length) :
    outline (parts.flatMap write) = outline (parts'.flatMap write) := by
  induction parts generalizing parts' with
  | nil => rw [List.length_eq_zero_iff.mp many.symm]
  | cons part parts ih =>
    cases parts' with
    | nil => cases many
    | cons part' parts' =>
      rw [List.flatMap_cons, List.flatMap_cons, outline_append, outline_append, same part part',
        ih (Nat.succ.inj many)]

end Html

/-- Metadata in which the same parts are there, and as many of each. -/
structure Metadata.SameShape (metadata metadata' : Metadata) : Prop where
  title : metadata.title.isSome = metadata'.title.isSome
  collection : metadata.collection.isSome = metadata'.collection.isSome
  subject : metadata.subject.isSome = metadata'.subject.isSome
  previous : metadata.previous.isSome = metadata'.previous.isSome
  next : metadata.next.isSome = metadata'.next.isSome
  related : metadata.related.length = metadata'.related.length
  notes : metadata.notes.length = metadata'.notes.length

namespace Page

open Html (outline outline_optional outline_flatMap)

variable {metadata metadata' : Metadata}

/-! ## Parts of a page -/

@[simp]
theorem outline_linkHref (link : MetaLink) : outline (linkHref link) = [] :=
  Html.outline_escape _

private theorem outline_originBlock (label : Text) (origin origin' : MetaLink) :
    outline (originBlock (label, origin)) = outline (originBlock (label, origin')) := by
  unfold originBlock
  simp only [Html.outline_append, outline_linkHref, Html.outline_escape]

private theorem outline_previousLink (previous previous' : MetaLink) :
    outline (previousLink previous) = outline (previousLink previous') := by
  unfold previousLink
  simp only [Html.outline_append, outline_linkHref, Html.outline_escape]

private theorem outline_nextLink (next next' : MetaLink) :
    outline (nextLink next) = outline (nextLink next') := by
  unfold nextLink
  simp only [Html.outline_append, outline_linkHref, Html.outline_escape]

private theorem outline_relatedLink (related related' : MetaLink) :
    outline (relatedLink related) = outline (relatedLink related') := by
  unfold relatedLink
  simp only [Html.outline_append, outline_linkHref, Html.outline_escape]

private theorem outline_titleHeading (config : Config) (source source' : Option Path)
    (title title' : MetaLink) :
    outline (titleHeading config source title) = outline (titleHeading config source' title') := by
  unfold titleHeading
  simp only [Html.outline_append, Html.outline_escape]

private theorem isEmpty_eq_of_length {α : Type} {parts parts' : List α}
    (many : parts.length = parts'.length) : parts.isEmpty = parts'.isEmpty := by
  rw [Bool.eq_iff_iff, List.isEmpty_iff_length_eq_zero, List.isEmpty_iff_length_eq_zero, many]

/-- The window of thoughts has the same outline for as many notes. -/
theorem outline_thoughtsWindow {notes notes' : List Text}
    (many : notes.length = notes'.length) :
    outline (thoughtsWindow notes) = outline (thoughtsWindow notes') := by
  have same : ∀ note note' : Text,
      outline ("\n        <li>".toList ++ Html.escape note ++ "</li>".toList) =
        outline ("\n        <li>".toList ++ Html.escape note' ++ "</li>".toList) := by
    intro note note'
    simp only [Html.outline_append, Html.outline_escape]
  have items := outline_flatMap same many
  unfold thoughtsWindow
  rw [isEmpty_eq_of_length many]
  split
  · rfl
  · simp only [Html.outline_append, items]

private theorem outline_relatedSection {related related' : List MetaLink}
    (many : related.length = related'.length) :
    outline (relatedSection related) = outline (relatedSection related') := by
  unfold relatedSection
  rw [isEmpty_eq_of_length many]
  split
  · rfl
  · simp only [Html.outline_append, outline_flatMap outline_relatedLink many]

section

variable (shape : metadata.SameShape metadata')
include shape

private theorem isSome_origin? : (origin? metadata).isSome = (origin? metadata').isSome := by
  have collection := shape.collection
  have subject := shape.subject
  unfold origin?
  generalize metadata.collection = given, metadata'.collection = given' at collection ⊢
  cases given <;> cases given'
  · rwa [Option.isSome_map, Option.isSome_map]
  · cases collection
  · cases collection
  · rfl

/-- The word in front of what a page belongs to is the same, for it tells a collection from
a subject. -/
theorem outline_origin : outline (((origin? metadata).map originBlock).getD []) =
    outline (((origin? metadata').map originBlock).getD []) := by
  have collection := shape.collection
  have subject := shape.subject
  unfold origin?
  generalize metadata.collection = given, metadata'.collection = given' at collection ⊢
  cases given <;> cases given'
  · rw [Option.map_map, Option.map_map]
    exact outline_optional (outline_originBlock _) subject
  · cases collection
  · cases collection
  · exact outline_originBlock _ _ _

private theorem hasHeader_eq : hasHeader metadata = hasHeader metadata' := by
  rw [hasHeader, hasHeader, isSome_origin? shape, shape.previous, shape.next,
    isEmpty_eq_of_length shape.notes]

private theorem outline_header : outline (header metadata) = outline (header metadata') := by
  unfold header
  rw [hasHeader_eq shape]
  split
  · simp only [Html.outline_append, outline_origin shape,
      outline_optional outline_previousLink shape.previous,
      outline_optional outline_nextLink shape.next, isEmpty_eq_of_length shape.notes]
  · rfl

private theorem outline_preamble (config : Config) (source source' : Option Path) :
    outline (preamble config source metadata) = outline (preamble config source' metadata') := by
  unfold preamble
  simp only [Html.outline_append, outline_header shape, outline_thoughtsWindow shape.notes,
    outline_optional (outline_titleHeading config source source') shape.title]

private theorem outline_footer (config : Config) :
    outline (footer config metadata) = outline (footer config metadata') := by
  unfold footer
  rw [isEmpty_eq_of_length shape.related, isEmpty_eq_of_length shape.notes]
  split
  · rfl
  · simp only [Html.outline_append, outline_relatedSection shape.related]

end

/-- **Metadata cannot change the structure of a page.** Where the same parts of the metadata
are there, two pages around a fragment have one outline, whatever the titles, links, thoughts
and source paths are, and whether or not there is a source path. -/
theorem outline_render (config : Config) (source source' : Option Path) (fragment : Text)
    (shape : metadata.SameShape metadata') :
    outline (render config source metadata fragment) =
      outline (render config source' metadata' fragment) := by
  unfold render
  simp only [Html.outline_append, Html.outline_escape, outline_preamble shape config source source',
    outline_footer shape]

/-- The metadata of a note in a book. -/
def plainNote : Metadata where
  title := some ⟨"On Truth".toList, "on-truth.md".toList⟩
  collection := some ⟨"Essays".toList, "../.books.md".toList⟩
  subject := none
  previous := none
  next := some ⟨"Meaning".toList, "meaning.md".toList⟩
  related := [⟨"Proof".toList, "proof.md".toList⟩]
  notes := ["Is truth a property?".toList]

/-- The same parts, with texts that try to close what they stand in. -/
def hostileNote : Metadata where
  title := some ⟨"</title><script>".toList, "\"><b>".toList⟩
  collection := some ⟨"</a>".toList, "x\" onclick=\"y.md#\">".toList⟩
  subject := none
  previous := none
  next := some ⟨"\"><i title=\"".toList, "a&\".md".toList⟩
  related := [⟨"<".toList, "http://x/\">".toList⟩]
  notes := ["</li></ul>".toList]

/-- A hostile note, from a hostile path, beside a plain one. -/
theorem outline_render_hostileNote : plainNote.SameShape hostileNote ∧
    outline (render .standard (some ⟨"library/on-truth.md".toList⟩) plainNote "<p>x</p>".toList) =
      outline (render .standard (some ⟨"library/\"><b>.md".toList⟩) hostileNote
        "<p>x</p>".toList) :=
  have shape : plainNote.SameShape hostileNote := ⟨rfl, rfl, rfl, rfl, rfl, rfl, rfl⟩
  ⟨shape, outline_render .standard _ _ _ shape⟩

end Page

end Scriptorium
