import Mathlib.Data.List.TakeWhile
import Scriptorium.Metadata
import Scriptorium.Proofs.Text.Lines
/-! # What is left of a document without its matter

A header block reaches from its marker to the next heading or, when none follows before the
back matter, over the blank lines and the entries behind the marker. The body of a document
are the lines above the back matter that belong to no header block and have none below them
(`ParsedDocument.body_parse`): lines between two header blocks, or above the first one, are
dropped with the blocks.
-/

namespace Scriptorium

/-! ## Lines outside of header blocks -/

/-- Whether a line opens the front matter. -/
def opensHeader (raw : Text) : Bool :=
  Line.isHeaderMarker raw.trim

/-- Whether a line opens the back matter. -/
def opensFooter (raw : Text) : Bool :=
  Line.isFooterMarker raw.trim

/-- Whether a line ends the front matter. -/
def endsHeader (raw : Text) : Bool :=
  raw.trim.startsWith ['#']

/-- The lines above the first one that opens the back matter. -/
def linesAboveFooter (lines : List Text) : List Text :=
  lines.takeWhile (!opensFooter ·)

/-- Which lines directly behind a header marker belong to its block, given all that follow:
those above the next heading or, where there is none, blank lines and entries. -/
def isHeaderPart (below : List Text) : Text → Bool :=
  if below.any endsHeader then (!endsHeader ·) else isHeaderFiller

/-- A line of a document with the lines below it. -/
structure PlacedLine where
  line : Text
  below : List Text

/-- Whether a header block is below a line. -/
def PlacedLine.hasHeaderBelow (place : PlacedLine) : Bool :=
  place.below.any opensHeader

/-- The lines that belong to no header block. The first lines belong to the one above as
long as `inHeader` holds of them. -/
def linesOutside (inHeader : Text → Bool) : List Text → List PlacedLine
  | [] => []
  | line :: below =>
    if opensHeader line then linesOutside (isHeaderPart below) below
    else if inHeader line then linesOutside inHeader below
    else ⟨line, below⟩ :: linesOutside (fun _ => false) below

variable {inHeader : Text → Bool} {lines front behind : List Text} {marker raw : Text}

/-- A line that opens a header block is one that ends a header block. -/
theorem endsHeader_of_opensHeader (opens : opensHeader raw = true) : endsHeader raw = true := by
  unfold opensHeader Line.isHeaderMarker at opens
  unfold endsHeader
  split at opens
  · rename_i rest start
    rw [start]
    rfl
  · cases opens

private theorem not_isHeaderFiller_of_opensFooter (opens : opensFooter raw = true) :
    isHeaderFiller raw = false := by
  unfold opensFooter Line.isFooterMarker at opens
  unfold isHeaderFiller
  split at opens
  · rename_i start
    rw [start]
    rfl
  · rename_i start
    rw [start]
    rfl
  · cases opens

/-- Without a header block, the lines from the first one on that `inHeader` does not hold of
are outside. -/
theorem map_linesOutside (none : ∀ line ∈ lines, opensHeader line = false) :
    (linesOutside inHeader lines).map PlacedLine.line = lines.dropWhile inHeader := by
  induction lines generalizing inHeader with
  | nil => rfl
  | cons line below ih =>
    obtain ⟨here, later⟩ := List.forall_mem_cons.mp none
    rw [linesOutside, if_neg (Bool.eq_false_iff.mp here)]
    by_cases inside : inHeader line = true
    · rw [if_pos inside, List.dropWhile_cons_of_pos inside, ih later]
    · rw [if_neg inside, List.dropWhile_cons_of_neg inside, List.map_cons, ih later]
      cases below <;> rfl

/-- Where no header block opens, none is opened below a line. -/
theorem not_hasHeaderBelow_of_none (none : ∀ line ∈ lines, opensHeader line = false) :
    ∀ place ∈ linesOutside inHeader lines, place.hasHeaderBelow = false := by
  induction lines generalizing inHeader with
  | nil => exact List.forall_mem_nil _
  | cons line below ih =>
    obtain ⟨here, later⟩ := List.forall_mem_cons.mp none
    rw [linesOutside, if_neg (Bool.eq_false_iff.mp here)]
    split
    · exact ih later
    · refine List.forall_mem_cons.mpr ⟨?_, ih later⟩
      exact List.any_eq_false.mpr fun line member => Bool.eq_false_iff.mp (later line member)

/-- The lines above a header marker have it below them. -/
theorem exists_linesOutside_append (inHeader : Text → Bool)
    (opens : opensHeader marker = true) (front behind : List Text) : ∃ above,
      linesOutside inHeader (front ++ marker :: behind) =
        above ++ linesOutside (isHeaderPart behind) behind ∧
      ∀ place ∈ above, place.hasHeaderBelow = true := by
  induction front generalizing inHeader with
  | nil =>
    refine ⟨[], ?_, List.forall_mem_nil _⟩
    rw [List.nil_append, linesOutside, if_pos opens, List.nil_append]
  | cons line front ih =>
    rw [List.cons_append, linesOutside]
    split
    · exact ih _
    · split
      · exact ih _
      · obtain ⟨above, places, lost⟩ := ih fun _ => false
        refine ⟨⟨line, front ++ marker :: behind⟩ :: above, ?_, ?_⟩
        · rw [places, List.cons_append]
        · have here : (front ++ marker :: behind).any opensHeader = true :=
            List.any_eq_true.mpr ⟨marker, by simp, opens⟩
          exact List.forall_mem_cons.mpr ⟨here, lost⟩

/-! ## How far a reader has come -/

namespace MatterReader

variable {reader : MatterReader} {index : Nat}

/-- A line of the body that opens no block changes nothing. -/
theorem readLine_of_body (plain : opensFooter raw = false) (other : opensHeader raw = false)
    (region : reader.region = .body) : reader.readLine index raw = reader := by
  unfold opensFooter at plain
  unfold opensHeader at other
  unfold readLine
  simp only [plain, other, region, Bool.false_and, if_neg Bool.false_ne_true]

/-- A line of a header block that opens no other one is read as its entry. -/
theorem readLine_of_header (plain : opensFooter raw = false) (other : opensHeader raw = false)
    (region : reader.region = .header) :
    reader.readLine index raw = reader.readHeaderLine index raw.trim := by
  unfold opensFooter at plain
  unfold opensHeader at other
  unfold readLine
  simp only [plain, other, region, Bool.false_and, if_neg Bool.false_ne_true]

/-- A line that opens a header block starts one there. -/
theorem readLine_of_opensHeader (plain : opensFooter raw = false)
    (opens : opensHeader raw = true) (region : reader.region = .body ∨ reader.region = .header) :
    reader.readLine index raw =
      { reader with headerAt := some index, headerEnd := none, region := .header } := by
  unfold opensFooter at plain
  unfold opensHeader at opens
  unfold readLine
  simp only [plain, opens, region, Bool.true_and, Bool.or_eq_true, decide_eq_true_eq,
    if_neg Bool.false_ne_true, if_true]

/-- The line that ends a header block takes the reader into the body. -/
theorem readHeaderLine_of_endsHeader (ends : endsHeader raw = true) :
    reader.readHeaderLine index raw.trim =
      { reader with headerEnd := some index, region := .body } := by
  unfold readHeaderLine
  exact if_pos ends

/-- A line that ends no header block changes nothing but the metadata. -/
theorem exists_readHeaderLine_eq (other : endsHeader raw = false) :
    ∃ metadata, reader.readHeaderLine index raw.trim = { reader with metadata := metadata } := by
  unfold endsHeader at other
  unfold readHeaderLine
  rw [if_neg (Bool.eq_false_iff.mp other)]
  split
  · exact ⟨_, rfl⟩
  · exact ⟨reader.metadata, rfl⟩

/-- Where a reader is behind lines none of which opens the back matter: above all header
blocks, inside of the last one so far, or behind the heading that ended it. -/
inductive Tracks : List Text → MatterReader → Prop
  | above {lines : List Text} {reader : MatterReader}
      (none : ∀ line ∈ lines, opensHeader line = false)
      (region : reader.region = .body)
      (headerAt : reader.headerAt = .none)
      (headerEnd : reader.headerEnd = .none) : Tracks lines reader
  | inside {front entries : List Text} {marker : Text} {reader : MatterReader}
      (opens : opensHeader marker = true)
      (block : ∀ line ∈ entries, endsHeader line = false)
      (region : reader.region = .header)
      (headerAt : reader.headerAt = some front.length)
      (headerEnd : reader.headerEnd = .none) : Tracks (front ++ marker :: entries) reader
  | below {front entries behind : List Text} {marker heading : Text} {reader : MatterReader}
      (opens : opensHeader marker = true)
      (block : ∀ line ∈ entries, endsHeader line = false)
      (ends : endsHeader heading = true)
      (none : ∀ line ∈ heading :: behind, opensHeader line = false)
      (region : reader.region = .body)
      (headerEnd : reader.headerEnd = some (front.length + 1 + entries.length)) :
      Tracks (front ++ marker :: (entries ++ heading :: behind)) reader

/-- In front of all lines the reader stands where it starts. -/
theorem tracks_start : Tracks [] start :=
  .above (List.forall_mem_nil _) rfl rfl rfl

/-- Above the footer the reader is in the body or in a header block. -/
theorem Tracks.region (tracks : Tracks lines reader) :
    reader.region = .body ∨ reader.region = .header := by
  cases tracks with
  | above _ region => exact .inl region
  | inside _ _ region => exact .inr region
  | below _ _ _ _ region => exact .inl region

/-- A line that does not open the back matter keeps track. -/
theorem Tracks.readLine (tracks : Tracks lines reader) (plain : opensFooter raw = false) :
    Tracks (lines ++ [raw]) (reader.readLine lines.length raw) := by
  cases opening : opensHeader raw with
  | true =>
    -- All lines so far are in front of the new block, wherever the reader was.
    rw [readLine_of_opensHeader plain opening tracks.region]
    exact .inside opening (List.forall_mem_nil _) rfl rfl rfl
  | false =>
    cases tracks with
    | above none region headerAt headerEnd =>
      rw [readLine_of_body plain opening region]
      refine .above (List.forall_mem_append.mpr ⟨none, ?_⟩) region headerAt headerEnd
      exact List.forall_mem_singleton.mpr opening
    | inside opens block region headerAt headerEnd =>
      rw [readLine_of_header plain opening region, List.append_assoc, List.cons_append]
      cases ends : endsHeader raw with
      | true =>
        rw [readHeaderLine_of_endsHeader ends]
        refine .below opens block ends (List.forall_mem_singleton.mpr opening) rfl ?_
        rw [List.length_append, List.length_cons, Nat.add_assoc, Nat.add_comm 1]
      | false =>
        obtain ⟨metadata, read⟩ := exists_readHeaderLine_eq ends
        rw [read]
        refine .inside opens (List.forall_mem_append.mpr ⟨block, ?_⟩) region headerAt headerEnd
        exact List.forall_mem_singleton.mpr ends
    | below opens block ends none region headerEnd =>
      rw [readLine_of_body plain opening region, List.append_assoc, List.cons_append,
        List.append_assoc, List.cons_append]
      refine .below opens block ends ?_ region headerEnd
      rw [← List.cons_append]
      exact List.forall_mem_append.mpr ⟨none, List.forall_mem_singleton.mpr opening⟩

private theorem Tracks.footerAt_readLine (tracks : Tracks lines reader)
    (plain : opensFooter raw = false) :
    (reader.readLine index raw).footerAt = reader.footerAt := by
  cases opening : opensHeader raw with
  | true => rw [readLine_of_opensHeader plain opening tracks.region]
  | false =>
    rcases tracks.region with region | region
    · rw [readLine_of_body plain opening region]
    · rw [readLine_of_header plain opening region, readHeaderLine]
      repeat' split
      all_goals rfl

/-- Lines that do not open the back matter keep track, and no footer is found. -/
theorem Tracks.readLines {done : List Text} (tracks : Tracks done reader)
    (plain : ∀ line ∈ lines, opensFooter line = false) :
    Tracks (done ++ lines) (reader.readLines done.length lines) ∧
      (reader.readLines done.length lines).footerAt = reader.footerAt := by
  induction lines generalizing done reader with
  | nil =>
    rw [List.append_nil]
    exact ⟨tracks, rfl⟩
  | cons line lines ih =>
    obtain ⟨here, later⟩ := List.forall_mem_cons.mp plain
    obtain ⟨ahead, footerAt⟩ := ih (tracks.readLine here) later
    rw [List.append_assoc, List.singleton_append, List.length_append, List.length_singleton]
      at ahead
    rw [List.length_append, List.length_singleton] at footerAt
    exact ⟨ahead, footerAt.trans (tracks.footerAt_readLine here)⟩

/-- The lines that bound the body so far. -/
def bounds (reader : MatterReader) : Option Nat × Option Nat × Option Nat :=
  (reader.headerAt, reader.headerEnd, reader.footerAt)

/-- The reader is in the back matter. -/
structure IsBehind (reader : MatterReader) : Prop where
  body : reader.region ≠ .body
  header : reader.region ≠ .header
  footerAt : reader.footerAt.isSome = true

/-- A line of the back matter leaves the reader there, and moves none of the bounds. -/
theorem IsBehind.readFooterLine (behind : reader.IsBehind) (raw line : Text) :
    (reader.readFooterLine raw line).IsBehind ∧
      (reader.readFooterLine raw line).bounds = reader.bounds := by
  unfold MatterReader.readFooterLine
  generalize "- related:".toList = related, "### Thoughts".toList = thoughts
  split
  · exact ⟨⟨nofun, nofun, behind.footerAt⟩, rfl⟩
  · split
    · exact ⟨⟨nofun, nofun, behind.footerAt⟩, rfl⟩
    · split
      · exact ⟨⟨behind.body, behind.header, behind.footerAt⟩, rfl⟩
      · split
        · exact ⟨⟨behind.body, behind.header, behind.footerAt⟩, rfl⟩
        · exact ⟨behind, rfl⟩

/-- In the back matter the bounds of the body stay. -/
theorem IsBehind.readLine (behind : reader.IsBehind) (index : Nat) (raw : Text) :
    (reader.readLine index raw).IsBehind ∧
      (reader.readLine index raw).bounds = reader.bounds := by
  obtain ⟨first, footer⟩ := Option.isSome_iff_exists.mp behind.footerAt
  unfold MatterReader.readLine
  dsimp only
  split
  · refine ⟨⟨nofun, nofun, ?_⟩, ?_⟩
    · rw [footer]
      rfl
    · rw [bounds, bounds, footer]
      rfl
  · split
    · rename_i opens
      simp [behind.body, behind.header] at opens
    · split
      · exact absurd ‹_› behind.body
      · exact absurd ‹_› behind.header
      all_goals exact behind.readFooterLine raw raw.trim

private theorem IsBehind.bounds_readLines (behind : reader.IsBehind) (index : Nat)
    (lines : List Text) :
    (reader.readLines index lines).bounds = reader.bounds := by
  induction lines generalizing reader index with
  | nil => rfl
  | cons line lines ih =>
    obtain ⟨step, same⟩ := behind.readLine index line
    exact (ih step (index + 1)).trans same

/-- Lines are read one part behind the other. -/
theorem readLines_append (reader : MatterReader) (index : Nat) (front behind : List Text) :
    reader.readLines index (front ++ behind) =
      (reader.readLines index front).readLines (index + front.length) behind := by
  induction front generalizing reader index with
  | nil => rfl
  | cons line front ih =>
    rw [List.cons_append, readLines, ih, readLines, List.length_cons, Nat.add_assoc,
      Nat.add_comm 1]

/-- The line that opens the footer block is where the body ends. -/
theorem readLine_of_opensFooter (reader : MatterReader) (index : Nat)
    (opens : opensFooter raw = true) : reader.readLine index raw =
    { reader with footerAt := reader.footerAt <|> some index, region := .footer } := by
  unfold opensFooter at opens
  unfold MatterReader.readLine
  exact if_pos opens

/-- The back matter tells where the body ends and nothing else. -/
theorem bounds_readLines {tail : List Text} (index : Nat) (none : reader.footerAt = none)
    (footer : ∀ line ∈ tail.head?, opensFooter line = true) :
    (reader.readLines index tail).headerAt = reader.headerAt ∧
      (reader.readLines index tail).headerEnd = reader.headerEnd ∧
      (reader.readLines index tail).footerAt.getD (index + tail.length) = index := by
  cases tail with
  | nil => exact ⟨rfl, rfl, by rw [readLines, none]; rfl⟩
  | cons line tail =>
    have opens := readLine_of_opensFooter reader index (footer line rfl)
    rw [none] at opens
    have behind : (reader.readLine index line).IsBehind := by
      rw [opens]
      exact ⟨nofun, nofun, rfl⟩
    have same := behind.bounds_readLines (index + 1) tail
    rw [opens] at same
    simp only [bounds, Prod.mk.injEq] at same
    obtain ⟨headerAt, headerEnd, footerAt⟩ := same
    rw [readLines, opens]
    exact ⟨headerAt, headerEnd, by rw [footerAt]; rfl⟩

end MatterReader

/-! ## The body -/

private theorem takeWhile_append_of_head {α : Type} {p : α → Bool} {tail : List α}
    (stops : ∀ first ∈ tail.head?, p first = false) (xs : List α) :
    (xs ++ tail).takeWhile p = xs.takeWhile p := by
  have none : tail.takeWhile p = [] := by
    cases tail with
    | nil => rfl
    | cons first rest => exact List.takeWhile_cons_of_neg (Bool.eq_false_iff.mp (stops first rfl))
  rw [List.takeWhile_append, none, List.append_nil]
  split
  · rename_i whole
    exact ((List.takeWhile_prefix p).eq_of_length whole).symm
  · rfl

private theorem drop_length_takeWhile {α : Type} (p : α → Bool) (xs : List α) :
    xs.drop (xs.takeWhile p).length = xs.dropWhile p := by
  have whole := List.takeWhile_append_dropWhile (p := p) (l := xs)
  calc xs.drop (xs.takeWhile p).length
      = (xs.takeWhile p ++ xs.dropWhile p).drop (xs.takeWhile p).length := by rw [whole]
    _ = xs.dropWhile p := List.drop_left

/-- From `start` on stand the lines outside of header blocks that have none below them. -/
structure StartsBody (above : List Text) (start : Nat) : Prop where
  le_length : start ≤ above.length
  exists_outside : ∃ lost kept, linesOutside (fun _ => false) above = lost ++ kept ∧
    (∀ place ∈ lost, place.hasHeaderBelow = true) ∧
    (∀ place ∈ kept, place.hasHeaderBelow = false) ∧
    kept.map PlacedLine.line = above.drop start

private theorem startsBody_zero (none : ∀ line ∈ lines, opensHeader line = false) :
    StartsBody lines 0 := by
  refine ⟨Nat.zero_le _, [], _, rfl, List.forall_mem_nil _, not_hasHeaderBelow_of_none none, ?_⟩
  rw [map_linesOutside none]
  cases lines <;> rfl

private theorem drop_marker (front : List Text) (marker : Text) (behind : List Text) :
    (front ++ marker :: behind).drop (front.length + 1) = behind := by
  rw [← List.drop_drop, List.drop_left, List.drop_one, List.tail_cons]

/-- The body starts behind the last header block. -/
theorem startsBody_behind (front : List Text) (opens : opensHeader marker = true)
    (none : ∀ line ∈ behind, opensHeader line = false) :
    StartsBody (front ++ marker :: behind)
      (front.length + 1 + (behind.takeWhile (isHeaderPart behind)).length) := by
  obtain ⟨lost, places, above⟩ := exists_linesOutside_append (fun _ => false) opens front behind
  refine ⟨?_, lost, _, places, above, not_hasHeaderBelow_of_none none, ?_⟩
  · have := (List.takeWhile_prefix (l := behind) (isHeaderPart behind)).length_le
    rw [List.length_append, List.length_cons]
    omega
  · rw [map_linesOutside none, ← List.drop_drop, drop_marker, drop_length_takeWhile]

private theorem not_opensHeader_of_not_endsHeader
    (block : ∀ line ∈ lines, endsHeader line = false) :
    ∀ line ∈ lines, opensHeader line = false := by
  intro line member
  refine Bool.eq_false_iff.mpr fun opens => ?_
  exact Bool.false_ne_true ((block line member).symm.trans (endsHeader_of_opensHeader opens))

/-- Where a reader that keeps track puts the start of the body. -/
theorem MatterReader.Tracks.startsBody {above tail : List Text} {reader : MatterReader}
    (tracks : Tracks above reader) (footer : ∀ line ∈ tail.head?, opensFooter line = true) :
    StartsBody above (bodyStart (above ++ tail) reader) := by
  cases tracks with
  | above none region headerAt headerEnd =>
    rw [bodyStart, headerEnd, headerAt]
    exact startsBody_zero none
  | @inside front entries marker _ opens block region headerAt headerEnd =>
    -- The fillers are looked up in the whole document, but they end above the back matter.
    have fillers : (entries ++ tail).takeWhile isHeaderFiller =
        entries.takeWhile isHeaderFiller :=
      takeWhile_append_of_head (fun line first =>
        not_isHeaderFiller_of_opensFooter (footer line first)) entries
    have part : isHeaderPart entries = isHeaderFiller := by
      have noHeading : ¬ entries.any endsHeader = true :=
        Bool.eq_false_iff.mp (List.any_eq_false.mpr fun line member =>
          Bool.eq_false_iff.mp (block line member))
      rw [isHeaderPart, if_neg noHeading]
    have start := startsBody_behind front opens
      (not_opensHeader_of_not_endsHeader block)
    rw [bodyStart, headerEnd, headerAt]
    dsimp only
    rwa [List.append_assoc, List.cons_append, drop_marker, fillers, ← part]
  | @below front entries behind marker heading _ opens block ends none region headerEnd =>
    have part : isHeaderPart (entries ++ heading :: behind) = (!endsHeader ·) := by
      rw [isHeaderPart, if_pos (List.any_eq_true.mpr ⟨heading, by simp, ends⟩)]
    have length : (entries ++ heading :: behind).takeWhile (!endsHeader ·) = entries := by
      rw [List.takeWhile_append_of_pos fun line member => by rw [block line member]; rfl,
        List.takeWhile_cons_of_neg (by rw [ends]; exact Bool.false_ne_true), List.append_nil]
    have start := startsBody_behind front opens (List.forall_mem_append.mpr
      ⟨not_opensHeader_of_not_endsHeader block, none⟩)
    rw [bodyStart, headerEnd]
    rwa [part, length] at start

/-- No line above the footer opens one. -/
theorem not_opensFooter_of_mem (lines : List Text) :
    ∀ line ∈ linesAboveFooter lines, opensFooter line = false := by
  intro line member
  have passed : (!opensFooter line) = true :=
    List.mem_takeWhile_imp (p := (!opensFooter ·)) member
  rwa [Bool.not_eq_true'] at passed

/-- The other lines start with one that opens the back matter. -/
theorem exists_eq_linesAboveFooter_append (lines : List Text) :
    ∃ tail, lines = linesAboveFooter lines ++ tail ∧
      ∀ line ∈ tail.head?, opensFooter line = true := by
  refine ⟨lines.dropWhile (!opensFooter ·), List.takeWhile_append_dropWhile.symm, ?_⟩
  exact fun line first => by simpa using eq_false_of_mem_head?_dropWhile first

/-- The lines of the body are those above the footer, from a place where a body may start. -/
theorem exists_bodyLines_eq (lines : List Text) :
    ∃ start, StartsBody (linesAboveFooter lines) start ∧
      bodyLines lines (MatterReader.start.readLines 0 lines) =
        (linesAboveFooter lines).drop start := by
  obtain ⟨tail, whole, footer⟩ := exists_eq_linesAboveFooter_append lines
  have plain := not_opensFooter_of_mem lines
  generalize linesAboveFooter lines = above at *
  subst whole
  obtain ⟨tracks, unbounded⟩ := MatterReader.tracks_start.readLines plain
  rw [List.nil_append] at tracks
  rw [MatterReader.readLines_append]
  rw [List.length_nil] at tracks unbounded
  generalize MatterReader.start.readLines 0 above = reader at *
  obtain ⟨headerAt, headerEnd, footerAt⟩ :=
    MatterReader.bounds_readLines (0 + above.length) unbounded footer
  have same : bodyStart (above ++ tail) (reader.readLines (0 + above.length) tail) =
      bodyStart (above ++ tail) reader := by
    rw [bodyStart, headerAt, headerEnd, bodyStart]
  have starts := tracks.startsBody footer
  refine ⟨_, starts, ?_⟩
  rw [Nat.zero_add] at *
  rw [bodyLines, List.length_append, footerAt, same,
    List.drop_append_of_le_length starts.le_length]
  exact List.take_left' (List.length_drop ..)

/-- The lines of a document above the back matter that belong to no header block. -/
def outsideLines (markdown : Text) : List PlacedLine :=
  linesOutside (fun _ => false) (linesAboveFooter markdown.lines)

/-- **The body of a document.** The lines above the back matter that belong to no header block
and have none below them make up the body, in order. They are the last ones of those that
belong to no header block, and they are all of them exactly when no such line stands above a
header block. -/
theorem ParsedDocument.body_parse (markdown : Text) :
    let outside := outsideLines markdown
    let kept := outside.filter (!·.hasHeaderBelow)
    (parse markdown).body = Text.joinLines (kept.map PlacedLine.line) ∧
      (kept ≠ [] → Text.splitOn '\n' (parse markdown).body = kept.map PlacedLine.line) ∧
      kept <:+ outside ∧
      ((outside.map PlacedLine.line).Sublist (kept.map PlacedLine.line) ↔
        ∀ place ∈ outside, place.hasHeaderBelow = false) := by
  intro outside kept
  obtain ⟨start, starts, body⟩ := exists_bodyLines_eq markdown.lines
  obtain ⟨lost, last, places, above, below, lines⟩ := starts.exists_outside
  have split : kept = last := by
    have dropped : lost.filter (!·.hasHeaderBelow) = [] :=
      List.filter_eq_nil_iff.mpr fun place member => by rw [above place member]; nofun
    have whole : last.filter (!·.hasHeaderBelow) = last :=
      List.filter_eq_self.mpr fun place member => by rw [below place member]; rfl
    calc kept = (lost ++ last).filter (!·.hasHeaderBelow) := by rw [← places]; rfl
      _ = last := by rw [List.filter_append, dropped, whole, List.nil_append]
  have read : bodyLines markdown.lines (MatterReader.start.readLines 0 markdown.lines) =
      kept.map PlacedLine.line := by rw [body, split, lines]
  have joined : (parse markdown).body = Text.joinLines (kept.map PlacedLine.line) := by
    rw [parse, ← read]
  refine ⟨joined, fun nonempty => ?_, ⟨lost, by rw [split]; exact places.symm⟩, ?_⟩
  · rw [joined]
    refine Text.splitOn_join (mt List.map_eq_nil_iff.mp nonempty) fun line member => ?_
    rw [← read] at member
    exact Text.not_mem_of_mem_lines (List.mem_of_mem_drop (List.mem_of_mem_take member))
  · have whole : kept = outside ↔ ∀ place ∈ outside, place.hasHeaderBelow = false := by
      simp only [kept, List.filter_eq_self, Bool.not_eq_true']
    rw [← whole]
    refine ⟨fun all => List.filter_sublist.eq_of_length_le ?_, fun same => ?_⟩
    · simpa only [List.length_map] using all.length_le
    · simp only [same, List.Sublist.refl]

/-- A line above a header block. -/
def introAboveHeader : Text :=
  "Intro.\n# Header\n- title: [T](t.md)\n# Body".toList

/-- The line is in no header block, but it is not in the body. -/
theorem not_mem_body_introAboveHeader :
    "Intro.".toList ∈ (outsideLines introAboveHeader).map PlacedLine.line ∧
      "Intro.".toList ∉ Text.splitOn '\n' (ParsedDocument.parse introAboveHeader).body := by
  decide

end Scriptorium
