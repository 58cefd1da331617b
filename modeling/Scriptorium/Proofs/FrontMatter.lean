import Scriptorium.Proofs.Body
/-! # Where the front matter is read

The fields of a document are set by the entries that a reader comes across while it is in a
header block, in their order (`MatterReader.front_readLines`). A block that a heading ends is
left at the body. One that no heading ends is never left, so all entries of the body are read
as well (`MatterReader.BlockIsOpen`). Which lines set the fields of a document, and when none of
its body does, is `ParsedDocument.front_parse`.
-/

namespace Scriptorium

/-! ## Fields -/

namespace Metadata

/-- What the front matter says, without what the back matter says. -/
def front (metadata : Metadata) : Metadata :=
  { metadata with related := [], notes := [] }

/-- The metadata after some entries, given as their keys and links. -/
def setEntries (metadata : Metadata) (entries : List (Text × MetaLink)) : Metadata :=
  entries.foldl (fun metadata entry => metadata.setEntry entry.1 entry.2) metadata

/-- The keys that name a field. -/
def fieldKeys : List Text :=
  ["title".toList, "collection".toList, "book".toList, "subject".toList, "previous".toList,
    "next".toList]

variable {metadata : Metadata} {key : Text}

private theorem front_setEntry (metadata : Metadata) (key : Text) (link : MetaLink) :
    (metadata.setEntry key link).front = metadata.front.setEntry key link := by
  unfold setEntry
  generalize "title".toList = title, "collection".toList = collection, "book".toList = book,
    "subject".toList = subject, "previous".toList = previous, "next".toList = next
  split_ifs <;> rfl

private theorem front_setEntries (metadata : Metadata) (entries : List (Text × MetaLink)) :
    (metadata.setEntries entries).front = metadata.front.setEntries entries := by
  induction entries generalizing metadata with
  | nil => rfl
  | cons entry entries ih =>
    rw [setEntries, List.foldl_cons, ← setEntries, ih, front_setEntry]
    rfl

private theorem setEntries_append (metadata : Metadata) (first second : List (Text × MetaLink)) :
    metadata.setEntries (first ++ second) = (metadata.setEntries first).setEntries second :=
  List.foldl_append

/-- Other keys set nothing. -/
theorem setEntry_of_not_mem (unknown : key ∉ fieldKeys) (link : MetaLink) :
    metadata.setEntry key link = metadata := by
  simp only [fieldKeys, List.mem_cons, List.not_mem_nil, or_false, not_or] at unknown
  obtain ⟨title, collection, book, subject, previous, next⟩ := unknown
  rw [setEntry, if_neg title, if_neg collection, if_neg book, if_neg subject, if_neg previous,
    if_neg next]

end Metadata

/-- The key and the link of a line that is an entry of the front matter and names a field. -/
def fieldNamed? (raw : Text) : Option (Text × MetaLink) :=
  match (Text.dropStart? "- ".toList raw.trim).bind fun entry => Line.entry? entry.trim with
  | some ((key, some (text, link)), _) =>
    if key ∈ Metadata.fieldKeys then some (key, ⟨text, link⟩) else none
  | _ => none

private theorem fieldNamed?_of_endsHeader {raw : Text} (ends : endsHeader raw = true) :
    fieldNamed? raw = none := by
  have noItem : Text.dropStart? "- ".toList raw.trim = none := by
    unfold endsHeader at ends
    cases start : raw.trim with
    | nil => rfl
    | cons c rest =>
      rw [start] at ends
      have sign : '#' = c := by simpa [Text.startsWith] using ends
      subst sign
      rfl
  rw [fieldNamed?, noItem]
  rfl

private theorem endsHeader_of_opensFooter {raw : Text} (opens : opensFooter raw = true) :
    endsHeader raw = true := by
  unfold opensFooter Line.isFooterMarker at opens
  unfold endsHeader
  split at opens
  · rename_i start
    rw [start]
    rfl
  · rename_i start
    rw [start]
    rfl
  · cases opens

/-- An item of the header sets the field that it names, if it names one. -/
theorem readEntry_eq_setEntries {raw entry : Text} (metadata : Metadata)
    (item : Text.dropStart? "- ".toList raw.trim = some entry) :
    metadata.readEntry entry = metadata.setEntries (fieldNamed? raw).toList := by
  rw [fieldNamed?, item, Option.bind_some, Metadata.readEntry]
  rcases Line.entry? entry.trim with _ | ⟨⟨key, _ | ⟨text, link⟩⟩, rest⟩
  · rfl
  · rfl
  · dsimp only
    by_cases known : key ∈ Metadata.fieldKeys
    · rw [if_pos known]
      rfl
    · rw [if_neg known]
      exact Metadata.setEntry_of_not_mem known _

/-! ## Readers -/

namespace MatterReader

variable {reader : MatterReader} {index : Nat} {raw : Text} {lines : List Text}

/-- The entry that a reader takes a line for, if it is in a header block and the line names a
field. -/
def entryRead? (reader : MatterReader) (raw : Text) : Option (Text × MetaLink) :=
  if reader.region = .header then fieldNamed? raw else none

/-- The entries that a reader comes across in lines, the first of which has the given number. -/
def entriesRead (reader : MatterReader) (index : Nat) : List Text → List (Text × MetaLink)
  | [] => []
  | line :: lines =>
    (reader.entryRead? line).toList ++ (reader.readLine index line).entriesRead (index + 1) lines

private theorem entriesRead_append (reader : MatterReader) (index : Nat)
    (front behind : List Text) :
    reader.entriesRead index (front ++ behind) = reader.entriesRead index front ++
      (reader.readLines index front).entriesRead (index + front.length) behind := by
  induction front generalizing reader index with
  | nil => rfl
  | cons line front ih =>
    rw [List.cons_append, entriesRead, ih, entriesRead, readLines, List.length_cons,
      List.append_assoc, Nat.add_assoc, Nat.add_comm 1]

private theorem entryRead?_of_endsHeader (ends : endsHeader raw = true) :
    reader.entryRead? raw = none := by
  rw [entryRead?, fieldNamed?_of_endsHeader ends, ite_self]

/-- A line of the back matter changes no field of the front matter. -/
theorem front_readFooterLine (reader : MatterReader) (raw line : Text) :
    (reader.readFooterLine raw line).metadata.front = reader.metadata.front := by
  have related : (reader.metadata.readRelated raw).front = reader.metadata.front := by
    unfold Metadata.readRelated
    dsimp only
    split
    · rfl
    · split <;> rfl
  have thought : (reader.metadata.readThought raw).front = reader.metadata.front := by
    unfold Metadata.readThought
    split <;> rfl
  unfold readFooterLine
  split_ifs
  · rfl
  · rfl
  · exact related
  · exact thought
  · rfl

/-- A line of a header block sets the field that it names, and no other. -/
theorem front_readHeaderLine (reader : MatterReader) (index : Nat) (raw : Text) :
    (reader.readHeaderLine index raw.trim).metadata.front =
      reader.metadata.front.setEntries (fieldNamed? raw).toList := by
  cases ends : endsHeader raw with
  | true =>
    rw [readHeaderLine_of_endsHeader ends, fieldNamed?_of_endsHeader ends]
    rfl
  | false =>
    unfold endsHeader at ends
    rw [readHeaderLine, ends, if_neg Bool.false_ne_true]
    split
    · rename_i entry item
      rw [readEntry_eq_setEntries _ item]
      exact Metadata.front_setEntries _ _
    · rename_i noItem
      rw [fieldNamed?, noItem]
      rfl

/-- **One line** sets the field of the entry that it is read as, and no other one. -/
theorem front_readLine (reader : MatterReader) (index : Nat) (raw : Text) :
    (reader.readLine index raw).metadata.front =
      reader.metadata.front.setEntries (reader.entryRead? raw).toList := by
  cases footer : opensFooter raw with
  | true =>
    rw [readLine_of_opensFooter reader index footer,
      entryRead?_of_endsHeader (endsHeader_of_opensFooter footer)]
    rfl
  | false =>
    by_cases marked : opensHeader raw = true ∧ (reader.region = .body ∨ reader.region = .header)
    · obtain ⟨header, region⟩ := marked
      rw [readLine_of_opensHeader footer header region,
        entryRead?_of_endsHeader (endsHeader_of_opensHeader header)]
      rfl
    · cases region : reader.region with
      | body =>
        have other : opensHeader raw = false :=
          Bool.eq_false_iff.mpr fun header => marked ⟨header, .inl region⟩
        rw [readLine_of_body footer other region, entryRead?, if_neg (by rw [region]; nofun)]
        rfl
      | header =>
        have other : opensHeader raw = false :=
          Bool.eq_false_iff.mpr fun header => marked ⟨header, .inr region⟩
        rw [readLine_of_header footer other region, entryRead?, if_pos region]
        exact front_readHeaderLine reader index raw
      | footer | related | thoughts =>
        unfold opensFooter at footer
        rw [entryRead?, if_neg (by rw [region]; nofun), MatterReader.readLine]
        simp only [footer, region, Bool.false_eq_true, if_false, reduceCtorEq, decide_false,
          Bool.or_self, Bool.and_false]
        exact front_readFooterLine reader raw raw.trim

/-- **All lines** set the fields of the entries that the reader comes across, in order. -/
theorem front_readLines (reader : MatterReader) (index : Nat) (lines : List Text) :
    (reader.readLines index lines).metadata.front =
      reader.metadata.front.setEntries (reader.entriesRead index lines) := by
  induction lines generalizing reader index with
  | nil => rfl
  | cons line lines ih =>
    rw [readLines, ih, front_readLine, entriesRead, Metadata.setEntries_append]

/-! ## Regions -/

/-- Without a header block, no entry is read. -/
theorem entriesRead_of_body (region : reader.region = .body)
    (plain : ∀ line ∈ lines, opensFooter line = false)
    (other : ∀ line ∈ lines, opensHeader line = false) : reader.entriesRead index lines = [] := by
  induction lines generalizing index with
  | nil => rfl
  | cons line lines ih =>
    obtain ⟨footer, plain⟩ := List.forall_mem_cons.mp plain
    obtain ⟨header, other⟩ := List.forall_mem_cons.mp other
    rw [entriesRead, readLine_of_body footer header region, ih plain other, entryRead?,
      if_neg (by rw [region]; nofun)]
    rfl

/-- In a header block that no heading ends, all entries are read. -/
theorem entriesRead_of_header (index : Nat) (region : reader.region = .header)
    (block : ∀ line ∈ lines, endsHeader line = false) :
    reader.entriesRead index lines = lines.filterMap fieldNamed? ∧
      (reader.readLines index lines).region = .header := by
  induction lines generalizing reader index with
  | nil => exact ⟨rfl, region⟩
  | cons line lines ih =>
    obtain ⟨here, later⟩ := List.forall_mem_cons.mp block
    have footer : opensFooter line = false := Bool.eq_false_iff.mpr fun opens =>
      Bool.false_ne_true (here.symm.trans (endsHeader_of_opensFooter opens))
    have header : opensHeader line = false := Bool.eq_false_iff.mpr fun opens =>
      Bool.false_ne_true (here.symm.trans (endsHeader_of_opensHeader opens))
    obtain ⟨metadata, read⟩ : ∃ metadata, reader.readHeaderLine index line.trim =
        { reader with metadata := metadata } := exists_readHeaderLine_eq here
    have next : (reader.readLine index line).region = .header := by
      rw [readLine_of_header footer header region, read]
      exact region
    obtain ⟨entries, last⟩ := ih (index + 1) next later
    refine ⟨?_, last⟩
    rw [entriesRead, entries, entryRead?, if_pos region, List.filterMap_cons]
    cases fieldNamed? line <;> rfl

/-- A heading ends the header block, and no entry behind it is read. -/
theorem entriesRead_of_heading (region : reader.region = .header)
    (heading : ∀ line ∈ lines.head?, endsHeader line = true)
    (plain : ∀ line ∈ lines, opensFooter line = false)
    (other : ∀ line ∈ lines, opensHeader line = false) : reader.entriesRead index lines = [] := by
  cases lines with
  | nil => rfl
  | cons line lines =>
    have ends := heading line rfl
    obtain ⟨footer, plain⟩ := List.forall_mem_cons.mp plain
    obtain ⟨header, other⟩ := List.forall_mem_cons.mp other
    rw [entriesRead, entryRead?_of_endsHeader ends, readLine_of_header footer header region,
      readHeaderLine_of_endsHeader ends]
    exact entriesRead_of_body rfl plain other

/-- The back matter holds no entries of the front matter. -/
theorem IsBehind.entriesRead (behind : reader.IsBehind) (index : Nat) (lines : List Text) :
    reader.entriesRead index lines = [] := by
  induction lines generalizing reader index with
  | nil => rfl
  | cons line lines ih =>
    rw [MatterReader.entriesRead, ih (behind.readLine index line).1, entryRead?,
      if_neg behind.header]
    rfl

private theorem entriesRead_of_footer (footer : ∀ line ∈ lines.head?, opensFooter line = true) :
    reader.entriesRead index lines = [] := by
  cases lines with
  | nil => rfl
  | cons line lines =>
    have opens := footer line rfl
    have behind : (reader.readLine index line).IsBehind := by
      rw [readLine_of_opensFooter reader index opens]
      refine ⟨nofun, nofun, ?_⟩
      cases reader.footerAt <;> rfl
    rw [entriesRead, behind.entriesRead,
      entryRead?_of_endsHeader (endsHeader_of_opensFooter opens)]
    rfl

end MatterReader

/-! ## Documents -/

/-- A list cut behind the longest front part that satisfies `p`. -/
theorem of_eq_takeWhile_append {α : Type} {p : α → Bool} {front behind : List α}
    (cut : front = (front ++ behind).takeWhile p) :
    (∀ x ∈ front, p x = true) ∧ ∀ x ∈ behind.head?, p x = false := by
  have inside : ∀ x ∈ front, p x = true := fun x member => by
    rw [cut] at member
    exact List.mem_takeWhile_imp member
  refine ⟨inside, ?_⟩
  rw [List.takeWhile_append_of_pos inside, List.self_eq_append_right] at cut
  cases behind with
  | nil => exact fun x first => nomatch first
  | cons y behind =>
    rintro x ⟨⟩
    by_contra holds
    rw [List.takeWhile_cons_of_pos (by simpa using holds)] at cut
    exact List.cons_ne_nil _ _ cut

/-- The header block above a body is not ended by a heading. -/
def BlockIsOpen (above body : List Text) : Prop :=
  above ≠ [] ∧ ∀ line ∈ body.head?, endsHeader line = false

instance (above body : List Text) : Decidable (BlockIsOpen above body) :=
  inferInstanceAs (Decidable (_ ∧ _))

namespace BodyCut

open MatterReader

variable {lines above body behind : List Text}

/-- A reader is in the region of the body or of a header as long as no line opens the back
matter. -/
theorem region_readLines (plain : ∀ line ∈ lines, opensFooter line = false) :
    (start.readLines 0 lines).region = .body ∨ (start.readLines 0 lines).region = .header := by
  have tracks := (tracks_start.readLines plain).1
  rw [List.nil_append] at tracks
  exact tracks.region

/-- **What is read in the body**: nothing, or all its entries where the header block above is
open. -/
theorem entriesRead_body (cut : BodyCut lines above body behind) :
    (start.readLines 0 above).entriesRead above.length body =
      if BlockIsOpen above body then body.filterMap fieldNamed? else [] := by
  rcases cut.header with ⟨rfl, none⟩ | ⟨front, marker, block, rfl, opens, none, part⟩
  · rw [if_neg fun isOpen => isOpen.1 rfl]
    exact entriesRead_of_body rfl cut.not_opensFooter none
  · obtain ⟨plain, -⟩ := List.forall_mem_append.mp cut.no_footer
    obtain ⟨plain, markerPlain⟩ := List.forall_mem_append.mp plain
    have inBlock : ((start.readLines 0 front).readLine (0 + front.length) marker).region =
        .header := by
      rw [readLine_of_opensHeader (markerPlain marker List.mem_cons_self) opens
        (region_readLines plain)]
    rw [readLines_append, readLines]
    generalize (start.readLines 0 front).readLine (0 + front.length) marker = reader at inBlock ⊢
    generalize 0 + front.length + 1 = index
    by_cases ended : (block ++ body).any endsHeader = true
    · rw [isHeaderPart, if_pos ended] at part
      obtain ⟨inside, stops⟩ := of_eq_takeWhile_append part
      have region := (entriesRead_of_header index inBlock fun line member => by
        simpa using inside line member).2
      have heading : ∀ line ∈ body.head?, endsHeader line = true := fun line first => by
        simpa using stops line first
      rw [entriesRead_of_heading region heading cut.not_opensFooter cut.not_opensHeader]
      cases body with
      | nil => rw [List.filterMap_nil, ite_self]
      | cons line body =>
        exact (if_neg fun isOpen => Bool.false_ne_true
          ((isOpen.2 line rfl).symm.trans (heading line rfl))).symm
    · have noHeading : ∀ line ∈ block ++ body, endsHeader line = false := fun line member =>
        Bool.eq_false_iff.mpr fun ends => ended (List.any_eq_true.mpr ⟨line, member, ends⟩)
      obtain ⟨blockPlain, bodyPlain⟩ := List.forall_mem_append.mp noHeading
      have isOpen : BlockIsOpen (front ++ marker :: block) body :=
        ⟨by simp, fun line first => bodyPlain line (List.mem_of_mem_head? first)⟩
      have region := (entriesRead_of_header index inBlock blockPlain).2
      rw [if_pos isOpen]
      exact (entriesRead_of_header _ region bodyPlain).1

/-- The entries of a document stand above its body, or in it where the header block above is
open. -/
theorem entriesRead_eq (cut : BodyCut lines above body behind) :
    start.entriesRead 0 lines = start.entriesRead 0 above ++
      (start.readLines 0 above).entriesRead above.length body := by
  rw [cut.whole, entriesRead_append, entriesRead_of_footer cut.footer, List.append_nil,
    entriesRead_append, Nat.zero_add]

end BodyCut

open MatterReader in
/-- **Which lines set the fields of a document.** The fields are those that the entries above
the body set, and behind them the entries of the body where the header block above it is open,
that is where no heading ends it; a title that no entry sets is the one of the body. So no line
of the body sets a field exactly when it names none or the block is not open. -/
theorem ParsedDocument.front_parse (markdown : Text) :
    ∃ above body behind, BodyCut markdown.lines above body behind ∧
      (parse markdown).body = Text.joinLines body ∧
      (let inBody := (start.readLines 0 above).entriesRead above.length body
       let front := Metadata.empty.setEntries (start.entriesRead 0 above ++ inBody)
       (parse markdown).metadata.front =
          { front with title := front.title <|> titleFromBody? (parse markdown).body } ∧
        inBody = (if BlockIsOpen above body then body.filterMap fieldNamed? else []) ∧
        (inBody = [] ↔
          (∀ line ∈ body, fieldNamed? line = none) ∨ ¬ BlockIsOpen above body)) := by
  obtain ⟨above, behind, cut⟩ := exists_cut markdown.lines
  refine ⟨above, _, behind, cut, rfl, ?_, cut.entriesRead_body, ?_⟩
  · have fields := front_readLines start 0 markdown.lines
    rw [cut.entriesRead_eq] at fields
    have title := congrArg Metadata.title fields
    rw [show Metadata.empty = start.metadata.front from rfl, ← fields]
    rfl
  · rw [cut.entriesRead_body]
    by_cases isOpen : BlockIsOpen above
      (bodyLines markdown.lines (start.readLines 0 markdown.lines))
    · rw [if_pos isOpen, List.filterMap_eq_nil_iff]
      exact ⟨.inl, fun either => either.resolve_right (not_not_intro isOpen)⟩
    · rw [if_neg isOpen]
      exact ⟨fun _ => .inr isOpen, fun _ => rfl⟩

/-- An entry in the body, below a header block that no heading ends. -/
def entryInBody : Text :=
  "# Header\n- title: [T](t.md)\nIntro.\n- next: [N](n.md)".toList

/-- The entry is a line of the body and sets the next document, which no other line names. -/
theorem next_entryInBody :
    "- next: [N](n.md)".toList ∈ Text.splitOn '\n' (ParsedDocument.parse entryInBody).body ∧
      (ParsedDocument.parse entryInBody).metadata.next =
        some ⟨"N".toList, "n.md".toList⟩ ∧
      ∀ line ∈ entryInBody.lines, line ≠ "- next: [N](n.md)".toList →
        (fieldNamed? line).all (·.1 != "next".toList) = true := by
  decide

end Scriptorium
