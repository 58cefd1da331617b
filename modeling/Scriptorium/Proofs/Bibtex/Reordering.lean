import Scriptorium.Proofs.Bibtex.Written
/-! # The order of the fields

Fields of distinct names may change places (`Bibtex.Reordered`), since only the order of those of
one name tells which counts; and where no name comes twice the fields may stand in any order
(`Bibtex.Reordered.of_perm`). What an entry says follows from how it is written, and stays the
same when its fields are reordered (`Bibtex.parse?_written`).
-/

namespace Scriptorium

namespace Bibtex

variable {fields others : List (Text × Text)}

/-! ## Fields that change places -/

/-- Fields in another order, where only those of distinct names, up to case, change places. -/
inductive Reordered : List (Text × Text) → List (Text × Text) → Prop
  | nil : Reordered [] []
  | cons (field : Text × Text) {fields others : List (Text × Text)} :
      Reordered fields others → Reordered (field :: fields) (field :: others)
  | swap {first second : Text × Text} (fields : List (Text × Text)) :
      first.1.toLower ≠ second.1.toLower →
      Reordered (first :: second :: fields) (second :: first :: fields)
  | trans {fields others last : List (Text × Text)} :
      Reordered fields others → Reordered others last → Reordered fields last

/-- Where no name comes twice, the fields may stand in any order. -/
theorem Reordered.of_perm (perm : fields.Perm others)
    (distinct : (fields.map fun field => field.1.toLower).Nodup) : Reordered fields others := by
  induction perm with
  | nil => exact .nil
  | cons field perm ih => exact .cons field (ih (List.nodup_cons.mp distinct).2)
  | swap first second fields =>
    exact .swap fields fun same =>
      (List.nodup_cons.mp distinct).1 (List.mem_cons.mpr (.inl same))
  | trans front _ ihFront ihBehind =>
    exact .trans (ihFront distinct) (ihBehind ((front.map _).nodup_iff.mp distinct))

/-- Reordering keeps the last field of each name. -/
theorem Reordered.lookup?_eq (reordered : Reordered fields others) (name : String) :
    lookup? fields name = lookup? others name := by
  induction reordered with
  | nil => rfl
  | cons field _ ih => rw [lookup?_cons, lookup?_cons, ih]
  | swap fields distinct =>
    simp only [lookup?_cons, Option.or_assoc]
    congr 1
    -- At most one of the two has the name.
    split
    case isTrue same => rw [if_neg (same ▸ distinct)]; rfl
    case isFalse => rw [Option.or_none, Option.none_or]
  | trans _ _ ihFront ihBehind => exact ihFront.trans ihBehind

private theorem ofFields_eq_of_reordered (entryType key : Text)
    (reordered : Reordered fields others) :
    ofFields entryType key fields = ofFields entryType key others := by
  simp only [ofFields, reordered.lookup?_eq]

/-! ## What an entry says -/

/-- An entry says what is written: it tells the fields with what their values say. -/
def Says (source : Source) (entry : BibEntry) : Prop :=
  ∃ said, source.fields.Says said ∧ Tells source.entryType.text source.key.text said entry

/-- Two entries are written with the same type and key, and their fields say the same in another
order. -/
structure Source.Reorders (source other : Source) : Prop where
  entryType : other.entryType.text = source.entryType.text
  key : other.key.text = source.key.text
  fields : ∃ said again, source.fields.Says said ∧ other.fields.Says again ∧ Reordered again said

/-- **Entries are read as they are written.** From the text of an entry, whatever follows it, the
reader gets the one entry that says what is written, and gets the same one when fields of
distinct names change places. -/
theorem parse?_written (source : Source) (behind : Text) :
    ∃ entry, parse? (source.written ++ behind) = some entry ∧ Says source entry ∧
      (∀ other, Says source other → other = entry) ∧
      ∀ (other : Source) (rest : Text), source.Reorders other →
        parse? (other.written ++ rest) = some entry := by
  obtain ⟨said, read, told⟩ := parse?_source source behind
  refine ⟨_, read, ⟨said, told, tells_iff.mpr rfl⟩, ?_, ?_⟩
  · rintro other ⟨again, toldAgain, tells⟩
    rw [tells_iff.mp tells, told.unique toldAgain]
  · intro other rest same
    obtain ⟨first, second, toldFirst, toldSecond, reordered⟩ := same.fields
    obtain ⟨again, readAgain, toldAgain⟩ := parse?_source other rest
    rw [readAgain, same.entryType, same.key, toldAgain.unique toldSecond,
      told.unique toldFirst, ofFields_eq_of_reordered _ _ reordered]

namespace Book

/-- A field of a book, in a line of its own. -/
def line (name : Word fun c => isAlphanumeric c = true ∨ c ∈ nameSigns) (value : Value) :
    Field where
  before := .ofText ['\r', '\n'] (by decide)
  name := name
  afterName := .ofText [' '] (by decide)
  beforeValue := .ofText ['\t'] (by decide)
  value := value
  behind := .ofText [] (by decide)

/-- The title of a book, its first letter in braces of its own. -/
def shortTitle : Field :=
  line (.ofText "Title".toList (by decide) (by decide))
    (.braced ('\x7b' :: (['T'] ++ '\x7d' :: ['e', 'X']))
      (.group (.plain (by decide) (by decide) .nil)
        (.plain (by decide) (by decide) (.plain (by decide) (by decide) .nil))))

/-- The year of a book, in digits. -/
def year : Field :=
  line (.ofText "year".toList (by decide) (by decide))
    (.number (.ofText "1984".toList (by decide) (by decide)))

/-- The authors of a book, in quotes. -/
def authors : Field :=
  line (.ofText "author".toList (by decide) (by decide))
    (.quoted "Knuth\r\n and  others".toList (by decide))

/-- The title of a book, written in another way. -/
def longTitle : Field :=
  line (.ofText "title".toList (by decide) (by decide))
    (.quoted " The\n\x7bTeX\x7dbook".toList (by decide))

/-- A book with the given fields. -/
def source (fields : Fields) : Source where
  indent := .ofText ['\n'] (by decide)
  entryType := .ofText "Book".toList (by decide) (by decide)
  afterType := .ofText [] (by decide)
  beforeKey := .ofText [' '] (by decide)
  key := .ofText "tex:84".toList (by decide) (by decide)
  afterKey := .ofText ['\t'] (by decide)
  fields := fields

/-- A book with two titles and a comma behind its last field. -/
def twoTitles : Source :=
  source (.more authors (.more shortTitle (.more year (.more longTitle
    (.none (.ofText ['\n'] (by decide)))))))

/-- The same book with the year at its end, and no comma behind it. -/
def yearLast : Source :=
  source (.more authors (.more shortTitle (.more longTitle (.last year))))

/-- The book as it is read, its second title counting. -/
def entry : BibEntry where
  key := "tex:84".toList
  entryType := "book".toList
  title := some "The TeXbook".toList
  authors := ["Knuth".toList, "others".toList]
  year := some "1984".toList
  journal := none
  booktitle := none
  publisher := none
  volume := none
  number := none
  pages := none
  doi := none
  url := none

/-- What the fields of the book say, its title in two ways. -/
def said : List (Text × Text) :=
  [("author".toList, "Knuth and others".toList), ("Title".toList, "TeX".toList),
    ("year".toList, "1984".toList), ("title".toList, "The TeXbook".toList)]

/-- What they say where the year stands last. -/
def saidLast : List (Text × Text) :=
  [("author".toList, "Knuth and others".toList), ("Title".toList, "TeX".toList),
    ("title".toList, "The TeXbook".toList), ("year".toList, "1984".toList)]

private theorem says_twoTitles : twoTitles.fields.Says said :=
  .more (isCleaned_iff.mpr (by decide)) (.more (isCleaned_iff.mpr rfl)
    (.more rfl (.more (isCleaned_iff.mpr (by decide)) (.none _))))

private theorem says_yearLast : yearLast.fields.Says saidLast :=
  .more (isCleaned_iff.mpr (by decide)) (.more (isCleaned_iff.mpr rfl)
    (.more (isCleaned_iff.mpr (by decide)) (.last rfl)))

private theorem tells_said : Tells "Book".toList "tex:84".toList said entry where
  key := rfl
  entryType := by decide
  known := by
    simp only [knownFields, List.forall_mem_cons, lastValue_iff]
    decide
  authors := by
    refine ⟨some "Knuth and others".toList, lastValue_iff.mpr (by decide), .listed ?_⟩
    have split : "Knuth and others".toList =
        "Knuth".toList ++ (" and ".toList ++ "others".toList) := by decide
    have parts : Text.PartsAround " and ".toList "Knuth and others".toList
        ["Knuth".toList, "others".toList] := by
      rw [split]
      exact .cut (by simp [List.infix_cons_iff]) (.last (by simp [List.infix_cons_iff]))
    exact ⟨_, entry.authors, parts, .cons (Text.isTrimmed_iff.mpr (by decide))
      (.cons (Text.isTrimmed_iff.mpr (by decide)) .nil), by decide⟩

end Book

/-- A book is read from its text, and read the same where the year stands last. -/
theorem parse?_written_twoTitles :
    Book.twoTitles.written = "\n@Book\x7b tex:84\t,".toList ++
      "\r\nauthor =\t\"Knuth\r\n and  others\",".toList ++
      "\r\nTitle =\t\x7b\x7bT\x7deX\x7d,".toList ++ "\r\nyear =\t1984,".toList ++
      "\r\ntitle =\t\" The\n\x7bTeX\x7dbook\",\n\x7d".toList ∧
    Book.twoTitles.Reorders Book.yearLast ∧ Says Book.twoTitles Book.entry ∧
    parse? (Book.twoTitles.written ++ " and more".toList) = some Book.entry ∧
    parse? (Book.yearLast.written ++ []) = some Book.entry := by
  have yearBehind : Reordered Book.saidLast Book.said :=
    .cons _ (.cons _ (.of_perm (List.Perm.swap _ _ []) (by decide)))
  have reorders : Book.twoTitles.Reorders Book.yearLast :=
    ⟨rfl, rfl, _, _, Book.says_twoTitles, Book.says_yearLast, yearBehind⟩
  have stated : Says Book.twoTitles Book.entry := ⟨_, Book.says_twoTitles, Book.tells_said⟩
  obtain ⟨entry, read, -, only, same⟩ := parse?_written Book.twoTitles " and more".toList
  rw [← only _ stated] at read
  exact ⟨by decide, reorders, stated, read, (same Book.yearLast [] reorders).trans
    (congrArg some (only _ stated).symm)⟩

end Bibtex

end Scriptorium
