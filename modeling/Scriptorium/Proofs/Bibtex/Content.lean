import Mathlib.Data.List.Forall2
import Scriptorium.Bibtex
import Scriptorium.Proofs.Text.Words
/-! # What the fields of an entry say

Of a value count its words, without the braces in it (`Bibtex.IsCleaned`), of a list of authors
the parts around the word between them in which something is left (`Bibtex.ListsAuthors`), and of
the fields of one name, up to case, the last (`Bibtex.LastValue`). This leaves one entry that
tells its fields (`Bibtex.Tells`), and it is the one that is made of them (`Bibtex.tells_iff`).
-/

namespace Scriptorium

namespace Bibtex

variable {value cleaned text : Text} {found : Option Text} {authors : List Text}
  {fields : List (Text × Text)} {name : String} {entry : BibEntry}

/-! ## Values -/

/-- A value is cleaned to its words, with one space between each two. The braces in it are no
part of its words and keep none of them apart. -/
def IsCleaned (value cleaned : Text) : Prop :=
  ∃ words, Text.Worded (value.filter fun c => c ≠ '\x7b' ∧ c ≠ '\x7d') words ∧
    cleaned = [' '].intercalate words

/-- **A value is cleaned to one text**, the one that is computed. -/
theorem isCleaned_iff : IsCleaned value cleaned ↔ cleaned = cleanValue value := by
  have braceless : (value.filter fun c => c ≠ '\x7b' ∧ c ≠ '\x7d') =
      value.filter fun c => c != '\x7b' && c != '\x7d' :=
    List.filter_congr fun c _ => Bool.eq_iff_iff.mpr (by simp)
  rw [IsCleaned, braceless]
  constructor
  · rintro ⟨words, worded, rfl⟩
    rw [Text.worded_iff.mp worded]
    rfl
  · rintro rfl
    exact ⟨_, Text.worded_iff.mpr rfl, rfl⟩

/-! ## Authors -/

/-- The authors that a text lists: its parts around `and`, trimmed, without the empty ones. -/
def ListsAuthors (text : Text) (authors : List Text) : Prop :=
  ∃ parts trimmed, Text.PartsAround " and ".toList text parts ∧
    List.Forall₂ Text.IsTrimmed parts trimmed ∧ authors = trimmed.filter (· ≠ [])

private theorem forall₂_isTrimmed_iff {parts trimmed : List Text} :
    List.Forall₂ Text.IsTrimmed parts trimmed ↔ trimmed = parts.map Text.trim := by
  induction parts generalizing trimmed with
  | nil => exact List.forall₂_nil_left_iff
  | cons part parts ih =>
    simp only [List.forall₂_cons_left_iff, Text.isTrimmed_iff, ih, List.map_cons]
    constructor
    · rintro ⟨_, _, rfl, rfl, rfl⟩
      rfl
    · rintro rfl
      exact ⟨_, _, rfl, rfl, rfl⟩

/-- **A text lists its authors in one way**, the one that is computed. -/
theorem listsAuthors_iff : ListsAuthors text authors ↔ authors = splitAuthors text := by
  have kept (trimmed : List Text) : trimmed.filter (· ≠ []) = trimmed.filter (!·.isEmpty) :=
    List.filter_congr fun part _ => by cases part <;> rfl
  constructor
  · rintro ⟨parts, trimmed, around, trims, rfl⟩
    rw [kept, forall₂_isTrimmed_iff.mp trims, (Text.partsAround_iff (by decide)).mp around]
    rfl
  · rintro rfl
    exact ⟨_, _, (Text.partsAround_iff (by decide)).mpr rfl, forall₂_isTrimmed_iff.mpr rfl,
      (kept _).symm⟩

/-- Without a list of authors there are none. -/
inductive HasAuthors : Option Text → List Text → Prop
  | none : HasAuthors none []
  | listed {text : Text} {authors : List Text} : ListsAuthors text authors →
      HasAuthors (some text) authors

private theorem hasAuthors_iff :
    HasAuthors found authors ↔ authors = (found.map splitAuthors).getD [] := by
  constructor
  · rintro (- | listed)
    · rfl
    · exact listsAuthors_iff.mp listed
  · rintro rfl
    cases found with
    | none => exact .none
    | some text => exact .listed (listsAuthors_iff.mpr rfl)

/-! ## The last field of a name -/

/-- The value of the last field of a name, up to case, if there is such a field. -/
inductive LastValue (name : Text) (fields : List (Text × Text)) : Option Text → Prop
  | absent : (∀ field ∈ fields, field.1.toLower ≠ name) → LastValue name fields none
  | present (front : List (Text × Text)) {behind : List (Text × Text)} {field : Text × Text} :
      fields = front ++ field :: behind → field.1.toLower = name →
      (∀ other ∈ behind, other.1.toLower ≠ name) → LastValue name fields (some field.2)

/-- A field counts where no later one has its name. -/
theorem lookup?_cons (field : Text × Text) (fields : List (Text × Text)) (name : String) :
    lookup? (field :: fields) name =
      (lookup? fields name).or (if field.1.toLower = name.toList then some field.2 else none) := by
  rw [lookup?, lookup?, List.reverse_cons, List.find?_append, Option.map_or]
  by_cases same : field.1.toLower = name.toList <;> simp [same]

private theorem lookup?_eq_none (absent : ∀ field ∈ fields, field.1.toLower ≠ name.toList) :
    lookup? fields name = none := by
  rw [lookup?, Option.map_eq_none_iff, List.find?_eq_none]
  intro field member
  simpa using absent field (List.mem_reverse.mp member)

/-- The last value of a name is the one that is looked up. -/
theorem lastValue_iff : LastValue name.toList fields found ↔ found = lookup? fields name := by
  constructor
  · rintro (absent | ⟨front, rfl, same, last⟩)
    · exact (lookup?_eq_none absent).symm
    · induction front with
      | nil => rw [List.nil_append, lookup?_cons, lookup?_eq_none last, if_pos same]; rfl
      | cons _ front ih => rw [List.cons_append, lookup?_cons, ← ih]; rfl
  · rintro rfl
    induction fields with
    | nil => exact .absent (List.forall_mem_nil _)
    | cons field fields ih =>
      rw [lookup?_cons]
      generalize lookup? fields name = found at ih ⊢
      cases ih with
      | present front split same last =>
        exact .present (field :: front) (congrArg (field :: ·) split) same last
      | absent none =>
        rw [Option.none_or]
        split
        case isTrue same => exact .present [] rfl same none
        case isFalse other => exact .absent (List.forall_mem_cons.mpr ⟨other, none⟩)

/-! ## The entry that tells its fields -/

/-- The fields that an entry keeps as they are. -/
def knownFields : List (String × (BibEntry → Option Text)) :=
  [("title", BibEntry.title), ("year", BibEntry.year), ("journal", BibEntry.journal),
    ("booktitle", BibEntry.booktitle), ("publisher", BibEntry.publisher),
    ("volume", BibEntry.volume), ("number", BibEntry.number), ("pages", BibEntry.pages),
    ("doi", BibEntry.doi), ("url", BibEntry.url)]

/-- An entry tells fields: it has the key and, in lower case, the type that are written with
them, of each field it knows the last value, and the authors of the last list of authors. -/
structure Tells (entryType key : Text) (fields : List (Text × Text)) (entry : BibEntry) :
    Prop where
  key : entry.key = key
  entryType : entry.entryType = entryType.toLower
  known : ∀ known ∈ knownFields, LastValue known.1.toList fields (known.2 entry)
  authors : ∃ found, LastValue "author".toList fields found ∧ HasAuthors found entry.authors

/-- **One entry tells given fields**, the one that is made of them. -/
theorem tells_iff {entryType key : Text} :
    Tells entryType key fields entry ↔ entry = ofFields entryType key fields := by
  constructor
  · rintro ⟨sameKey, sameType, known, found, last, listed⟩
    simp only [knownFields, List.forall_mem_cons, lastValue_iff] at known
    obtain ⟨title, year, journal, booktitle, publisher, volume, number, pages, doi, url, -⟩ := known
    rw [lastValue_iff.mp last, hasAuthors_iff] at listed
    cases entry
    simp_all [ofFields]
  · rintro rfl
    refine ⟨rfl, rfl, ?_, _, lastValue_iff.mpr rfl, hasAuthors_iff.mpr rfl⟩
    simp only [knownFields, List.forall_mem_cons]
    simp only [ofFields, lastValue_iff, List.not_mem_nil, false_implies, implies_true, and_self]

end Bibtex

end Scriptorium
