import Scriptorium.Proofs.Entry
import Scriptorium.Section
/-! # What becomes of the lines of a body

Cutting a body into sections accounts for each of its lines that says something
(`Document.build_accounts`). The lines that are passed over are told by the sections that
do so (`Document.passedOverIn`): those of an abstract, of keywords and of a bibliography.
-/

namespace Scriptorium

/-! ## Places -/

/-- The keywords and the comments among them. -/
def Keywords.entries (keywords : Keywords) : List Entry :=
  keywords.annotations.map .note ++ keywords.keywords.map .keyword

/-- The places of a section. -/
def Section.entries : Section → List Entry
  | .title front => .title front.text front.link :: front.paragraphs.flatMap Paragraph.entries
  | .abstract paragraphs lists =>
    paragraphs.flatMap Paragraph.entries ++ lists.flatMap Keywords.entries
  | .keywords list => list.entries
  | .bibliography paragraphs => paragraphs.flatMap Paragraph.entries
  | .content heading paragraphs =>
    (heading.toList.map fun heading => .heading heading.text) ++
      paragraphs.flatMap Paragraph.entries

/-- The places of a document. -/
def Document.entries (document : Document) : List Entry :=
  document.sections.flatMap Section.entries

/-! ## Sections -/

namespace Document

open Paragraph (split remarks)

variable {chunk lines : List Text} {metadata : Metadata} {citations : CitationTable}

/-- The lines of a body that say something: those that are neither blank nor fences, nor
dividers outside of fences, which `inFence` says the first line is in. -/
def contentLines (inFence : Bool) : List Text → List Text
  | [] => []
  | line :: lines =>
    if Line.isFence line.trimStart then contentLines (!inFence) lines
    else if line.isAllBlank || !inFence && Line.isDivider line then contentLines inFence lines
    else line.withoutReturns :: contentLines inFence lines

/-- The line of the first heading in a chunk. -/
def headingLine (chunk : List Text) : List Text :=
  (chunk.find? fun line => (Line.headingText? line).isSome).toList

/-- Whether a line is neither a comment nor a keyword. -/
def isUnlisted (line : Text) : Bool :=
  !Line.isComment line.trim && (Line.keyword? line).isNone

/-- The lines of a later chunk that its section may lack: the headings of abstracts,
keywords and bibliographies, the lines among keywords that are neither keywords nor
comments, and the blocks of comments in a bibliography. -/
def passedOverIn (chunk : List Text) : List Text :=
  match firstHeading? chunk with
  | none => []
  | some ((depth, text), others) =>
    let rest := (Text.joinLines others).lines
    Line.contents <|
      if text.toLower.startsWith "abstract".toList then headingLine chunk
      else if text.toLower.startsWith "keywords".toList then
        headingLine chunk ++ rest.filter isUnlisted
      else if depth = 2 && text = "Bibliography".toList then headingLine chunk ++ remarks rest
      else []

/-- The lines of a body that its document may lack. -/
def passedOver (body : Text) : List Text :=
  (chunks false body.lines).tail.flatMap passedOverIn

/-- A line that parts no sections has its contents in front of those behind it. -/
theorem contentLines_cons (inFence : Bool) {line : Text}
    (other : ¬ (!inFence && !Line.isFence line.trimStart && Line.isDivider line) = true) :
    contentLines inFence (line :: lines) =
      Line.contents [line] ++ contentLines (inFence != Line.isFence line.trimStart) lines := by
  rw [contentLines]
  by_cases fence : Line.isFence line.trimStart = true
  · rw [if_pos fence, Line.contents_of_isFence fence, fence, Bool.bne_true, List.nil_append]
  · have noFence := Bool.eq_false_iff.mpr fence
    rw [noFence, Bool.not_false, Bool.and_true] at other
    rw [if_neg fence, noFence, Bool.bne_false, Bool.eq_false_iff.mpr other, Bool.or_false]
    by_cases blank : line.isAllBlank = true
    · rw [if_pos blank, Line.contents_of_isAllBlank blank, List.nil_append]
    · have spoken : Line.isContent line = true := by
        rw [Line.isContent, noFence, Bool.eq_false_iff.mpr blank]
        rfl
      rw [if_neg blank, Line.contents_of_isContent spoken, List.singleton_append]

/-- The chunks of lines hold what the lines say. -/
theorem contents_chunks (inFence : Bool) (lines : List Text) :
    Line.contents (chunks inFence lines).flatten = contentLines inFence lines := by
  fun_induction chunks inFence lines with
  | case1 => rfl
  | case2 inFence line lines divider ih =>
    simp only [Bool.and_eq_true, Bool.not_eq_eq_eq_not, Bool.not_true] at divider
    obtain ⟨⟨rfl, noFence⟩, divider⟩ := divider
    rw [List.flatten_cons, List.nil_append, ih, contentLines, noFence, divider, Bool.not_false,
      Bool.and_true, Bool.or_true, if_neg Bool.false_ne_true, if_pos rfl]
  | case3 inFence line lines other none ih =>
    rw [none] at ih
    rw [contentLines_cons inFence other, ← ih]
    exact (List.append_nil _).symm
  | case4 inFence line lines other chunk rest cut ih =>
    rw [cut, List.flatten_cons] at ih
    rw [contentLines_cons inFence other, ← ih, List.flatten_cons, List.cons_append,
      Line.contents_cons]

/-- What is in chunks is in the lines that they were cut from. -/
theorem flatten_chunks_subset (inFence : Bool) (lines : List Text) :
    (chunks inFence lines).flatten ⊆ lines := by
  fun_induction chunks inFence lines with
  | case1 => exact List.nil_subset _
  | case2 inFence line lines divider ih => exact List.Subset.trans ih (List.subset_cons_self _ _)
  | case3 inFence line lines other none ih =>
    exact List.cons_subset_cons _ (List.nil_subset _)
  | case4 inFence line lines other chunk rest cut ih =>
    rw [cut, List.flatten_cons] at ih
    exact List.cons_subset_cons _ ih

/-- The first heading of a chunk is one of its lines, and the others stand around it. -/
theorem exists_of_firstHeading? {depth : Nat} {text : Text} {others : List Text}
    (read : firstHeading? chunk = some ((depth, text), others)) :
    ∃ front line behind, chunk = front ++ line :: behind ∧ others = front ++ behind ∧
      Line.headingText? line = some text ∧ headingLine chunk = [line] := by
  induction chunk generalizing others with
  | nil => cases read
  | cons line lines ih =>
    unfold firstHeading? at read
    cases isHeading : Line.heading? line.trim with
    | some found =>
      obtain ⟨heading, rest⟩ := found
      rw [isHeading] at read
      cases read
      have named : Line.headingText? line = some text := by
        rw [Line.headingText?, isHeading]
        rfl
      refine ⟨[], line, lines, rfl, rfl, named, ?_⟩
      rw [headingLine, List.find?_cons_of_pos (by rw [named]; rfl)]
      rfl
    | none =>
      rw [isHeading] at read
      simp only [Option.map_eq_some_iff, Prod.mk.injEq, Prod.exists] at read
      obtain ⟨_, _, later, found, ⟨rfl, rfl⟩, rfl⟩ := read
      obtain ⟨front, heading, behind, rfl, rfl, named, first⟩ := ih found
      refine ⟨line :: front, heading, behind, rfl, rfl, named, ?_⟩
      have unnamed : ¬ (Line.headingText? line).isSome = true := by
        rw [Line.headingText?, isHeading]
        exact Bool.false_ne_true
      rw [headingLine, List.find?_cons_of_neg (by exact unnamed)]
      exact first

/-- A chunk says what its heading and its other lines say. -/
theorem contents_perm_of_firstHeading? {depth : Nat} {text : Text} {others : List Text}
    (whole : ∀ line ∈ chunk, '\n' ∉ line)
    (read : firstHeading? chunk = some ((depth, text), others)) :
    ∃ line, headingLine chunk = [line] ∧ Line.headingText? line = some text ∧
      (Line.contents chunk).Perm
        (Line.contents [line] ++ Line.contents (Text.joinLines others).lines) := by
  obtain ⟨front, line, behind, rfl, rfl, named, first⟩ := exists_of_firstHeading? read
  refine ⟨line, first, named, ?_⟩
  have others : ∀ line ∈ front ++ behind, '\n' ∉ line := by
    intro line member
    apply whole line
    rcases List.mem_append.mp member with before | after
    · exact List.mem_append_left _ before
    · exact List.mem_append_right _ (List.mem_cons_of_mem _ after)
  rw [Line.contents_joinLines others, Line.contents_append, Line.contents_append,
    Line.contents_cons line]
  exact List.perm_append_comm_assoc _ _ _

/-- **The title section** holds every line of the first chunk. -/
theorem accounts_titleSection (metadata : Metadata) (whole : ∀ line ∈ chunk, '\n' ∉ line) :
    Accounts (Line.contents chunk) (Section.title (titleSection metadata chunk)).entries [] := by
  cases read : firstHeading? chunk with
  | none =>
    have paragraphs := Paragraph.accounts_split (Text.joinLines chunk)
    rw [Line.contents_joinLines whole] at paragraphs
    refine paragraphs.mono ?_
    rw [titleSection, read]
    dsimp only
    split <;> exact (List.sublist_cons_self _ _).subperm
  | some found =>
    obtain ⟨⟨depth, text⟩, others⟩ := found
    obtain ⟨line, -, named, perm⟩ := contents_perm_of_firstHeading? whole read
    have paragraphs := Paragraph.accounts_split (Text.joinLines others)
    have heading := (Line.headingText?_withoutReturns line).trans named
    rw [titleSection, read]
    dsimp only
    split
    · rename_i name link isLink
      have stands : Entry.Stands line.withoutReturns (.title name (some link)) := by
        rw [Entry.Stands, heading]
        exact isLink
      exact ((Accounts.ofLine stands).append paragraphs).perm perm
    · have stands : Entry.Stands line.withoutReturns (.title text none) := heading
      exact ((Accounts.ofLine stands).append paragraphs).perm perm

/-- A comment among keywords annotates them. -/
theorem keywordsOf_of_comment {line : Text} (comment : Line.isComment line.trim = true)
    (lines : List Text) : keywordsOf (line :: lines) =
      ⟨(keywordsOf lines).keywords, line.trim :: (keywordsOf lines).annotations⟩ := by
  rw [keywordsOf, List.map_cons, List.filterMap_cons_none (by rw [if_pos comment]),
    List.filter_cons_of_pos comment]
  rfl

/-- A line that is no comment is a keyword, if there is one on it. -/
theorem keywordsOf_of_plain {line : Text} (plain : ¬ Line.isComment line.trim = true)
    (lines : List Text) : keywordsOf (line :: lines) =
      ⟨(Line.keyword? line).toList ++ (keywordsOf lines).keywords,
        (keywordsOf lines).annotations⟩ := by
  rw [keywordsOf, List.map_cons, List.filterMap_cons, if_neg plain,
    List.filter_cons_of_neg plain, Line.keyword?]
  rcases Line.listMarker? line.trim with _ | ⟨_ | _, item⟩ <;> rfl

/-- **Keywords and comments** stand among the keywords, and the other lines are passed
over. -/
theorem accounts_keywordsOf (lines : List Text) :
    Accounts (Line.contents lines) (keywordsOf lines).entries
      (Line.contents (lines.filter isUnlisted)) := by
  induction lines with
  | nil => exact .nil
  | cons line lines ih =>
    rw [Line.contents_cons]
    by_cases comment : Line.isComment line.trim = true
    · have listed : ¬ isUnlisted line = true := by
        rw [isUnlisted, comment]
        exact Bool.false_ne_true
      have stands : Entry.Stands line.withoutReturns (.note line.trim) :=
        (Text.trim_withoutReturns line).symm
      rw [List.filter_cons_of_neg listed, keywordsOf_of_comment comment]
      exact (Accounts.ofLine stands).append ih
    · rw [keywordsOf_of_plain comment]
      cases item : Line.keyword? line with
      | some keyword =>
        have listed : ¬ isUnlisted line = true := by
          rw [isUnlisted, item, Option.isNone_some, Bool.and_false]
          exact Bool.false_ne_true
        have stands : Entry.Stands line.withoutReturns (.keyword keyword) :=
          (Line.keyword?_withoutReturns line).trans item
        rw [List.filter_cons_of_neg listed]
        have moved : (.keyword keyword :: (keywordsOf lines).entries).Perm (Keywords.entries
            ⟨keyword :: (keywordsOf lines).keywords, (keywordsOf lines).annotations⟩) :=
          List.perm_middle.symm
        exact ((Accounts.ofLine stands).append ih).mono moved.subperm
      | none =>
        have unlisted : isUnlisted line = true := by
          rw [isUnlisted, item, Bool.eq_false_iff.mpr comment]
          rfl
        rw [List.filter_cons_of_pos unlisted, Line.contents_cons line (lines.filter isUnlisted)]
        exact (Accounts.pass _).append ih

/-- **A later section** holds every line of its chunk that is not passed over. -/
theorem accounts_sectionOf (citations : CitationTable) (whole : ∀ line ∈ chunk, '\n' ∉ line) :
    Accounts (Line.contents chunk) (sectionOf citations chunk).entries (passedOverIn chunk) := by
  unfold sectionOf passedOverIn
  generalize "abstract".toList = abstract, "keywords".toList = keywords,
    "Bibliography".toList = bibliography
  cases read : firstHeading? chunk with
  | none =>
    have paragraphs := Paragraph.accounts_split (Text.joinLines chunk)
    rwa [Line.contents_joinLines whole] at paragraphs
  | some found =>
    obtain ⟨⟨depth, text⟩, others⟩ := found
    obtain ⟨line, first, named, perm⟩ := contents_perm_of_firstHeading? whole read
    have paragraphs := Paragraph.accounts_split (Text.joinLines others)
    refine Accounts.perm ?_ perm
    dsimp only
    rw [first]
    by_cases isAbstract : text.toLower.startsWith abstract = true
    · have all := (Accounts.pass (Line.contents [line])).append paragraphs
      rw [List.append_nil] at all
      rw [if_pos isAbstract, if_pos isAbstract, Section.entries, List.flatMap_nil, List.append_nil]
      exact all
    · rw [if_neg isAbstract, if_neg isAbstract]
      by_cases isKeywords : text.toLower.startsWith keywords = true
      · rw [if_pos isKeywords, if_pos isKeywords, Line.contents_append]
        exact (Accounts.pass _).append (accounts_keywordsOf _)
      · rw [if_neg isKeywords, if_neg isKeywords]
        split
        · rw [Line.contents_append, Section.entries, List.flatMap_append]
          refine (Accounts.pass (Line.contents [line])).append ?_
          exact (Paragraph.accounts_remarks _).mono (List.sublist_append_left _ _).subperm
        · have stands : Entry.Stands line.withoutReturns (.heading text) :=
            (Line.headingText?_withoutReturns line).trans named
          exact (Accounts.ofLine stands).append paragraphs

section

variable {α : Type} {view : Section → List α} {added : Keywords}

/-- What a view shows of keywords it shows of the abstract that they are added to. -/
theorem perm_attachKeywords? {sections sections' : List Section}
    (abstract : ∀ items lists added, (view (.abstract items (lists ++ [added]))).Perm
      (view (.abstract items lists) ++ view (.keywords added)))
    (attached : attachKeywords? added sections = some sections') :
    (sections'.flatMap view).Perm (sections.flatMap view ++ view (.keywords added)) := by
  induction sections generalizing sections' with
  | nil => cases attached
  | cons first rest ih =>
    unfold attachKeywords? at attached
    cases later : attachKeywords? added rest with
    | some found =>
      rw [later] at attached
      cases attached
      rw [List.flatMap_cons, List.flatMap_cons, List.append_assoc]
      exact (ih later).append_left (view first)
    | none =>
      rw [later] at attached
      dsimp only at attached
      split at attached
      · cases attached
        rw [List.flatMap_cons, List.flatMap_cons]
        refine ((abstract _ _ added).append_right _).trans ?_
        rw [List.append_assoc, List.append_assoc]
        exact List.perm_append_comm.append_left _
      · cases attached

/-- Adding sections adds what a view shows of them. -/
theorem perm_foldl_addSection (abstract : ∀ items lists added,
      (view (.abstract items (lists ++ [added]))).Perm
        (view (.abstract items lists) ++ view (.keywords added)))
    (sections added : List Section) :
    ((added.foldl addSection sections).flatMap view).Perm
      (sections.flatMap view ++ added.flatMap view) := by
  have single : ∀ sections added, ((addSection sections added).flatMap view).Perm
      (sections.flatMap view ++ view added) := by
    intro sections added
    have behind : (sections ++ [added]).flatMap view = sections.flatMap view ++ view added := by
      rw [List.flatMap_append, List.flatMap_singleton]
    unfold addSection
    split
    · rename_i keywords
      cases attached : attachKeywords? keywords sections with
      | none => exact .of_eq behind
      | some sections' => exact perm_attachKeywords? abstract attached
    · exact .of_eq behind
  induction added generalizing sections with
  | nil => exact .of_eq (List.append_nil _).symm
  | cons first added ih =>
    refine (ih _).trans ?_
    rw [List.flatMap_cons, ← List.append_assoc]
    exact (single sections first).append_right _

end

private theorem entries_foldl_addSection (sections added : List Section) :
    ((added.foldl addSection sections).flatMap Section.entries).Perm
      (sections.flatMap Section.entries ++ added.flatMap Section.entries) := by
  refine perm_foldl_addSection (fun items lists added => .of_eq ?_) sections added
  simp only [Section.entries, List.flatMap_append, List.flatMap_singleton, List.append_assoc]

/-- The lines of a document account for the entries of its sections. -/
theorem accounts_sectionsOf (metadata : Metadata) (citations : CitationTable)
    {parts : List (List Text)} (whole : ∀ chunk ∈ parts, ∀ line ∈ chunk, '\n' ∉ line) :
    Accounts (Line.contents parts.flatten)
      ((sectionsOf metadata citations parts).flatMap Section.entries)
      (parts.tail.flatMap passedOverIn) := by
  cases parts with
  | nil => exact .nil
  | cons first others =>
    obtain ⟨here, later⟩ := List.forall_mem_cons.mp whole
    have sections := Accounts.flatMap fun chunk member =>
      accounts_sectionOf citations (later chunk member)
    rw [List.flatten_cons, Line.contents_append, Line.contents_flatten, List.tail_cons, sectionsOf]
    refine ((accounts_titleSection metadata here).append sections).mono ?_
    have all := (entries_foldl_addSection [.title (titleSection metadata first)]
      (others.map (sectionOf citations))).symm.subperm
    rwa [List.flatMap_singleton, List.flatMap_map] at all

/-- **Nothing is dropped without saying so.** -/
theorem build_accounts (metadata : Metadata) (citations : CitationTable) (body : Text) :
    Accounts (contentLines false body.lines) (build metadata citations body).entries
      (passedOver body) := by
  have whole : ∀ chunk ∈ chunks false body.lines, ∀ line ∈ chunk, '\n' ∉ line :=
    fun chunk member line inside => Text.not_mem_of_mem_lines
      (flatten_chunks_subset _ _ (List.mem_flatten_of_mem member inside))
  have sections := accounts_sectionsOf metadata citations whole
  rw [contents_chunks] at sections
  refine sections.mono ?_
  rw [build, entries]
  split
  · exact .refl _
  · rw [List.flatMap_append]
    exact (List.sublist_append_left _ _).subperm

/-- Whether a line is the heading of an abstract, of keywords or of a bibliography. -/
def isNamedHeading (line : Text) : Bool :=
  (Line.headingText? line).any fun text =>
    ["abstract".toList, "keywords".toList, "bibliography".toList].contains text.toLower

/-- A bibliography with a comment in it. -/
def remarkInBibliography : Text :=
  "# T\n---\n## Bibliography\n% note".toList

/-- The comment is passed over, for the paragraphs of a bibliography that are comments are
left out of it. -/
theorem not_stands_remarkInBibliography :
    ¬ ∀ line ∈ contentLines false remarkInBibliography.lines, isNamedHeading line = true ∨
      ∃ entry ∈ (build .empty .empty remarkInBibliography).entries, Entry.Stands line entry := by
  decide

end Document

end Scriptorium
