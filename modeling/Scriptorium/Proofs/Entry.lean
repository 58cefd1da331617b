import Mathlib.Data.List.Perm.Subperm
import Mathlib.Data.List.TakeWhile
import Scriptorium.Proofs.Paragraph
import Scriptorium.Proofs.Text.Lines
/-! # The places of a document

A line of a body stands in a document as the title, as a heading, as a line of a paragraph's
content, as an annotation or as a keyword (`Entry.Stands`). Lines are accounted for when
each of them has a place of its own, apart from those that are passed over (`Accounts`); a
line that is written twice then stands there twice. Cutting a text into paragraphs accounts
for all its lines that say something (`Paragraph.accounts_split`).
-/

namespace Scriptorium

/-! ## Fences -/

namespace Line

variable {s behind : Text}

/-- A fence is three backquotes or three tildes, whatever stands behind them. -/
theorem isFence_iff : isFence s = true ↔
    ['\x60', '\x60', '\x60'] <+: s ∨ ['~', '~', '~'] <+: s := by
  unfold isFence fence?
  split
  · simp
  · simp
  · rename_i backquotes tildes
    simp only [Option.isSome_none, Bool.false_eq_true, false_iff, not_or]
    exact ⟨fun ⟨rest, whole⟩ => backquotes rest whole.symm,
      fun ⟨rest, whole⟩ => tildes rest whole.symm⟩

/-- What stands behind a line makes it no fence. -/
theorem isFence_append (backquote : '\x60' ∉ behind) (tilde : '~' ∉ behind) (s : Text) :
    isFence (s ++ behind) = isFence s := by
  have same : ∀ c, c ∉ behind → ([c, c, c] <+: s ++ behind ↔ [c, c, c] <+: s) := by
    intro c absent
    refine ⟨fun start => ?_, fun start => start.trans (List.prefix_append _ _)⟩
    rcases List.prefix_or_prefix_of_prefix start (List.prefix_append s behind) with
      inside | ⟨part, whole⟩
    · exact inside
    · rw [← whole, List.prefix_append_right_inj] at start
      have signs : ∀ d ∈ part, d = c := fun d member => by
        have inside : d ∈ [c, c, c] := whole ▸ List.mem_append_right s member
        simpa using inside
      cases part with
      | nil =>
        exact ⟨[], (List.append_nil _).trans (whole.symm.trans (List.append_nil s))⟩
      | cons d part =>
        rw [signs d List.mem_cons_self] at start
        exact absurd (start.subset List.mem_cons_self) absent
  rw [Bool.eq_iff_iff, isFence_iff, isFence_iff, same _ backquote, same _ tilde]

/-- Blank characters at its end do not make a line a fence, nor keep it from being one. -/
theorem isFence_trimStart (line : Text) : isFence line.trimStart = isFence line.trim := by
  have split := Text.dropEndWhile_append_takeWhile isBlank line.trimStart
  have blank : ∀ c ∈ ((line.trimStart).reverse.takeWhile isBlank).reverse, isBlank c = true :=
    fun c member => List.all_eq_true.mp List.all_takeWhile c (List.mem_reverse.mp member)
  rw [← split]
  exact isFence_append (fun member => absurd (blank _ member) (by decide))
    (fun member => absurd (blank _ member) (by decide)) _

/-- Carriage returns at its end do not make a line a fence, nor keep it from being one. -/
theorem isFence_withoutReturns (line : Text) :
    isFence line.withoutReturns.trimStart = isFence line.trimStart := by
  rw [isFence_trimStart, isFence_trimStart, Text.trim_withoutReturns]

/-- The text of the heading that a line is. -/
def headingText? (line : Text) : Option Text :=
  (heading? line.trim).map fun found => found.1.2

/-- The item of an unordered list that a line is, as a keyword. -/
def keyword? (line : Text) : Option Text :=
  match listMarker? line.trim with
  | some (false, item) => some item.trim
  | _ => none

/-- Carriage returns at the end of a line are no part of its heading. -/
theorem headingText?_withoutReturns (line : Text) :
    headingText? line.withoutReturns = headingText? line := by
  rw [headingText?, headingText?, Text.trim_withoutReturns]

/-- Carriage returns at the end of a line are no part of its keyword. -/
theorem keyword?_withoutReturns (line : Text) :
    keyword? line.withoutReturns = keyword? line := by
  rw [keyword?, keyword?, Text.trim_withoutReturns]

/-- Whether a line says something: it is not blank, and no code fence. -/
def isContent (line : Text) : Bool :=
  !isFence line.trimStart && !line.isAllBlank

private theorem isContent_withoutReturns (line : Text) :
    isContent line.withoutReturns = isContent line := by
  rw [isContent, isContent, isFence_withoutReturns, Text.isAllBlank_withoutReturns]

/-- The lines that say something, without the carriage returns at their ends. -/
def contents (lines : List Text) : List Text :=
  (lines.map Text.withoutReturns).filter isContent

/-- The contents of lines are those of some of them and of those behind them. -/
theorem contents_append (front behind : List Text) :
    contents (front ++ behind) = contents front ++ contents behind := by
  rw [contents, List.map_append, List.filter_append, contents, contents]

/-- The contents of lines are those of the first and of those behind it. -/
theorem contents_cons (line : Text) (lines : List Text) :
    contents (line :: lines) = contents [line] ++ contents lines :=
  contents_append [line] lines

/-- The contents of groups of lines are those of each group. -/
theorem contents_flatten (parts : List (List Text)) :
    contents parts.flatten = parts.flatMap contents := by
  induction parts with
  | nil => rfl
  | cons part parts ih => rw [List.flatten_cons, contents_append, ih, List.flatMap_cons]

/-- A line with content is its own, without the carriage returns at its end. -/
theorem contents_of_isContent {line : Text} (spoken : isContent line = true) :
    contents [line] = [line.withoutReturns] := by
  rw [contents, List.map_singleton, List.filter_cons_of_pos
    ((isContent_withoutReturns line).trans spoken), List.filter_nil]

private theorem contents_of_not {line : Text} (silent : isContent line = false) :
    contents [line] = [] := by
  rw [contents, List.map_singleton, List.filter_cons_of_neg, List.filter_nil]
  rw [isContent_withoutReturns, silent]
  exact Bool.false_ne_true

/-- A fence has no contents. -/
theorem contents_of_isFence {line : Text} (fence : isFence line.trimStart = true) :
    contents [line] = [] :=
  contents_of_not (by rw [isContent, fence]; rfl)

/-- A blank line has no contents. -/
theorem contents_of_isAllBlank {line : Text} (blank : line.isAllBlank = true) :
    contents [line] = [] :=
  contents_of_not (by rw [isContent, blank, Bool.not_true, Bool.and_false])

/-- Lines that are put together and read again say the same. -/
theorem contents_joinLines {lines : List Text} (whole : ∀ line ∈ lines, '\n' ∉ line) :
    contents (Text.joinLines lines).lines = contents lines := by
  induction lines with
  | nil => rfl
  | cons line lines ih =>
    obtain ⟨first, later⟩ := List.forall_mem_cons.mp whole
    cases lines with
    | nil =>
      by_cases empty : line = []
      · subst empty
        rfl
      · rw [Text.joinLines, Text.join, List.intercalate_singleton,
          Text.lines_of_not_mem first empty]
    | cons next rest =>
      rw [Text.lines_joinLines_cons first, contents_cons, ih later, contents_cons line]
      congr 1
      rw [contents, contents, List.map_singleton, List.map_singleton,
        Text.withoutReturns_withoutReturn]

end Line

/-! ## Entries -/

/-- A place of a document where a line of its body may stand. -/
inductive Entry where
  /-- The title, with the destination of its link if it has one. -/
  | title (text : Text) (link : Option Text)
  /-- The heading of a section. -/
  | heading (text : Text)
  /-- A line of the content of a paragraph. -/
  | line (text : Text)
  | note (text : Text)
  | keyword (text : Text)
  deriving DecidableEq, Repr

/-- A line stands at a place. Headings, annotations and keywords stand there without the
signs and blank characters around them. -/
def Entry.Stands (line : Text) : Entry → Prop
  | .title text none => Line.headingText? line = some text
  | .title text (some link) =>
    (Line.headingText? line).bind Line.link? = some ((text, link), [])
  | .heading text => Line.headingText? line = some text
  | .line text => text.withoutReturns = line
  | .note text => text = line.trim
  | .keyword text => Line.keyword? line = some text

instance (line : Text) : DecidablePred (Entry.Stands line)
  | .title _ none => inferInstanceAs (Decidable (_ = _))
  | .title _ (some _) => inferInstanceAs (Decidable (_ = _))
  | .heading _ => inferInstanceAs (Decidable (_ = _))
  | .line _ => inferInstanceAs (Decidable (_ = _))
  | .note _ => inferInstanceAs (Decidable (_ = _))
  | .keyword _ => inferInstanceAs (Decidable (_ = _))

/-- The lines of a paragraph's content and its annotations. -/
def Paragraph.entries (paragraph : Paragraph) : List Entry :=
  paragraph.annotations.pre.map .note ++
    ((paragraph.content.splitOn '\n').map .line ++ paragraph.annotations.post.map .note)

/-- Of some lines each stands at a place of its own, apart from those that are passed
over. -/
def Accounts (lines : List Text) (entries : List Entry) (passed : List Text) : Prop :=
  ∃ kept stood, lines.Perm (kept ++ passed) ∧ List.Forall₂ Entry.Stands kept stood ∧
    stood.Subperm entries

namespace Accounts

variable {lines lines' passed passed' : List Text} {entries entries' : List Entry} {line : Text}
  {entry : Entry}

/-- Without lines nothing has to be accounted for. -/
theorem nil : Accounts [] entries [] :=
  ⟨[], [], .refl [], .nil, List.nil_subperm⟩

/-- A line accounts for the entry that it stands for. -/
theorem single (stands : Entry.Stands line entry) : Accounts [line] [entry] [] :=
  ⟨[line], [entry], .refl _, .cons stands .nil, .refl _⟩

/-- Lines may be passed over. -/
theorem pass (lines : List Text) : Accounts lines [] lines :=
  ⟨[], [], .refl _, .nil, .refl _⟩

/-- Lines account for their own entries, one behind the other. -/
theorem append (first : Accounts lines entries passed) (second : Accounts lines' entries' passed') :
    Accounts (lines ++ lines') (entries ++ entries') (passed ++ passed') := by
  obtain ⟨kept, stood, perm, stands, placed⟩ := first
  obtain ⟨kept', stood', perm', stands', placed'⟩ := second
  refine ⟨kept ++ kept', stood ++ stood', (perm.append perm').trans ?_,
    List.rel_append stands stands', placed.append placed'⟩
  simp only [List.append_assoc]
  exact (List.perm_append_comm_assoc _ _ _).append_left kept

/-- Lines account for more entries as well. -/
theorem mono (accounts : Accounts lines entries passed) (more : entries.Subperm entries') :
    Accounts lines entries' passed := by
  obtain ⟨kept, stood, perm, stands, placed⟩ := accounts
  exact ⟨kept, stood, perm, stands, placed.trans more⟩

/-- The order of lines does not matter for the entries that they account for. -/
theorem perm (accounts : Accounts lines entries passed) (same : lines'.Perm lines) :
    Accounts lines' entries passed := by
  obtain ⟨kept, stood, perm, stands, placed⟩ := accounts
  exact ⟨kept, stood, same.trans perm, stands, placed⟩

/-- Each of some parts is accounted for on its own. -/
theorem flatMap {β : Type} {parts : List β} {lines passed : β → List Text}
    {entries : β → List Entry}
    (each : ∀ part ∈ parts, Accounts (lines part) (entries part) (passed part)) :
    Accounts (parts.flatMap lines) (parts.flatMap entries) (parts.flatMap passed) := by
  induction parts with
  | nil => exact nil
  | cons part parts ih =>
    obtain ⟨here, later⟩ := List.forall_mem_cons.mp each
    simp only [List.flatMap_cons]
    exact here.append (ih later)

/-- Lines each of which is written to a place where it stands. -/
theorem map {write : Text → Entry}
    (stands : ∀ line ∈ lines, Entry.Stands line.withoutReturns (write line)) :
    Accounts (Line.contents lines) (lines.map write) [] := by
  induction lines with
  | nil => exact nil
  | cons line lines ih =>
    obtain ⟨here, later⟩ := List.forall_mem_cons.mp stands
    have first : Accounts (Line.contents [line]) [write line] [] := by
      cases spoken : Line.isContent line with
      | true =>
        rw [Line.contents_of_isContent spoken]
        exact single here
      | false =>
        rw [Line.contents_of_not spoken]
        exact nil
    rw [Line.contents_cons, List.map_cons]
    exact first.append (ih later)

/-- A line that stands at a place has it for its own. -/
theorem ofLine (stands : Entry.Stands line.withoutReturns entry) :
    Accounts (Line.contents [line]) [entry] [] :=
  show Accounts (Line.contents [line]) ([line].map fun _ => entry) [] from
    map fun _ member => List.mem_singleton.mp member ▸ stands

end Accounts

/-! ## Paragraphs -/

namespace Paragraph

variable {lines : List Text}

private theorem accounts_annotations (lines : List Text) :
    Accounts (Line.contents lines) ((lines.map Text.trim).map .note) [] := by
  rw [List.map_map]
  exact .map fun line _ => (Text.trim_withoutReturns line).symm

private theorem accounts_content (whole : ∀ line ∈ lines, '\n' ∉ line) :
    Accounts (Line.contents lines) (((Text.joinLines lines).splitOn '\n').map .line) [] := by
  by_cases empty : lines = []
  · subst empty
    exact .nil
  · rw [Text.joinLines, Text.splitOn_join empty whole]
    exact .map fun line _ => rfl

private theorem contents_closingFence (lines : List Text) :
    Line.contents (closingFence lines) = [] := by
  unfold closingFence
  cases lines.getLast? with
  | none => rfl
  | some last =>
    rw [Option.toList_some]
    by_cases fence : Line.isFence last.trimStart = true
    · rw [List.filter_cons_of_pos (by exact fence), List.filter_nil,
        Line.contents_of_isFence fence]
    · rw [List.filter_cons_of_neg (by exact fence), List.filter_nil]
      rfl

/-- The lines of a paragraph account for its content. -/
theorem accounts_bodyOf (whole : ∀ line ∈ lines, '\n' ∉ line) :
    Accounts (Line.contents lines) (((bodyOf lines).2.splitOn '\n').map .line) [] := by
  cases fence : Line.fence? (lines.head?.getD []).trimStart with
  | none =>
    rw [(bodyOf_of_none fence).1]
    exact accounts_content whole
  | some found =>
    cases lines with
    | nil => exact .nil
    | cons first others =>
      have isFence : Line.isFence first.trimStart = true := Option.isSome_of_mem fence
      have split := codeLines_append_closingFence others
      have within : ∀ line ∈ codeLines others, '\n' ∉ line := by
        intro line member
        apply whole line (List.mem_cons_of_mem first _)
        rw [← split]
        exact List.mem_append_left _ member
      rw [bodyOf_of_fence first fence, Line.contents_cons,
        Line.contents_of_isFence isFence, ← split, Line.contents_append, contents_closingFence,
        List.append_nil, List.nil_append, split]
      exact accounts_content within

/-- The kind of a block tells whether it is a comment. -/
theorem ofLines_cases (lines : List Text) :
    (withoutLead lines = [] ∧ ofLines lines = ⟨.comment, Text.joinLines lines, ⟨[], []⟩⟩) ∨
      (withoutLead lines ≠ [] ∧ (ofLines lines).kind ≠ .comment) := by
  by_cases empty : withoutLead lines = []
  · left
    refine ⟨empty, ?_⟩
    rw [ofLines, empty]
    rfl
  · right
    refine ⟨empty, ?_⟩
    rw [ofLines_of_ne_nil empty]
    dsimp only
    cases fence : Line.fence? ((middle lines).head?.getD []).trimStart with
    | none =>
      rcases (bodyOf_of_none fence).2 with kind | kind | ⟨ordered, kind⟩ <;> rw [kind] <;> simp
    | some found =>
      cases whole : middle lines with
      | nil =>
        rw [whole] at fence
        cases fence
      | cons first others =>
        rw [whole] at fence
        rw [bodyOf_of_fence first fence]
        simp

/-- **Every line of a block stands in its paragraph.** -/
theorem accounts_ofLines (whole : ∀ line ∈ lines, '\n' ∉ line) :
    Accounts (Line.contents lines) (ofLines lines).entries [] := by
  rcases ofLines_cases lines with ⟨-, comment⟩ | ⟨text, -⟩
  · rw [comment, entries]
    exact (accounts_content whole).mono ((List.sublist_append_left _ _).trans
      (List.sublist_append_right _ _)).subperm
  · have split := takeWhile_append_middle lines
    have within : ∀ line ∈ middle lines, '\n' ∉ line := by
      intro line member
      apply whole line
      rw [split]
      exact List.mem_append_right _ (List.mem_append_left _ member)
    have contents : Line.contents lines = Line.contents (lines.takeWhile Line.isComment) ++
        (Line.contents (middle lines) ++ Line.contents (trail (withoutLead lines))) := by
      rw [← Line.contents_append, ← Line.contents_append, ← split]
    rw [contents, ofLines_of_ne_nil text, entries]
    exact (accounts_annotations _).append
      ((accounts_bodyOf within).append (accounts_annotations _))

/-- The blocks of lines hold what the lines say. -/
theorem contents_blocks (inFence : Bool) (lines : List Text) :
    Line.contents (blocks inFence lines).flatten = Line.contents lines := by
  have silent (line : Text) (blank : line.isAllBlank = true) :
      (Line.isContent ∘ Text.withoutReturns) line = false := by
    rw [Function.comp_apply, Line.isContent_withoutReturns, Line.isContent, blank, Bool.not_true,
      Bool.and_false]
  rw [Line.contents, List.filter_map, filter_flatten_blocks silent, ← List.filter_map]
  rfl

/-- What is in blocks is in the lines that they were made of. -/
theorem flatten_blocks_subset (inFence : Bool) (lines : List Text) :
    (blocks inFence lines).flatten ⊆ lines := by
  fun_induction blocks inFence lines with
  | case1 => exact List.nil_subset _
  | case2 inFence line lines blank ih => exact List.Subset.trans ih (List.subset_cons_self _ _)
  | case3 inFence line lines other none ih =>
    exact List.cons_subset_cons _ (List.nil_subset _)
  | case4 inFence line lines other block rest cut ih =>
    rw [cut, List.flatten_cons] at ih
    exact List.cons_subset_cons _ ih

/-- The lines of a block hold no line feeds. -/
theorem not_mem_of_mem_blocks (text : Text) :
    ∀ block ∈ (blocks false text.lines).filter (!·.isEmpty), ∀ line ∈ block, '\n' ∉ line :=
  fun _ member _ inside => Text.not_mem_of_mem_lines (flatten_blocks_subset _ _
    (List.mem_flatten_of_mem (List.mem_filter.mp member).1 inside))

/-- The lines of a text say what those of its blocks say. -/
theorem contents_lines (text : Text) :
    Line.contents text.lines =
      ((blocks false text.lines).filter (!·.isEmpty)).flatMap Line.contents := by
  rw [← Line.contents_flatten, List.flatten_filter_not_isEmpty, contents_blocks]

/-- **Every line of a text stands in one of its paragraphs.** -/
theorem accounts_split (text : Text) :
    Accounts (Line.contents text.lines) ((split text).flatMap entries) [] := by
  have each := Accounts.flatMap fun block member =>
    accounts_ofLines (not_mem_of_mem_blocks text block member)
  rw [List.flatMap_eq_nil_iff.mpr fun _ _ => rfl] at each
  rwa [contents_lines, split, List.flatMap_map]

/-- Whether lines are nothing but comments. -/
def isRemark (lines : List Text) : Bool :=
  lines.all Line.isComment

private theorem isRemark_iff : isRemark lines = true ↔ withoutLead lines = [] := by
  rw [isRemark, withoutLead, List.dropWhile_eq_nil_iff, List.all_eq_true]

/-- The lines of the blocks that are nothing but comments. -/
def remarks (lines : List Text) : List Text :=
  ((blocks false lines).filter isRemark).flatten

/-- Without the paragraphs that are comments, their lines are passed over. -/
theorem accounts_remarks (text : Text) :
    Accounts (Line.contents text.lines)
      (((split text).filter fun item => item.kind != .comment).flatMap entries)
      (Line.contents (remarks text.lines)) := by
  have each : ∀ blocks : List (List Text), (∀ block ∈ blocks, ∀ line ∈ block, '\n' ∉ line) →
      Accounts (blocks.flatMap Line.contents)
        (((blocks.map ofLines).filter fun item => item.kind != .comment).flatMap entries)
        (Line.contents (blocks.filter isRemark).flatten) := by
    intro blocks whole
    induction blocks with
    | nil => exact .nil
    | cons block blocks ih =>
      obtain ⟨here, later⟩ := List.forall_mem_cons.mp whole
      rw [List.flatMap_cons, List.map_cons]
      rcases ofLines_cases block with ⟨comment, paragraph⟩ | ⟨text, kind⟩
      · have remark : isRemark block = true := isRemark_iff.mpr comment
        rw [List.filter_cons_of_neg (by rw [paragraph]; simp), List.filter_cons_of_pos remark,
          List.flatten_cons, Line.contents_append]
        exact (Accounts.pass _).append (ih later)
      · have other : ¬ isRemark block = true := mt isRemark_iff.mp text
        rw [List.filter_cons_of_pos (by simpa using kind), List.filter_cons_of_neg other,
          List.flatMap_cons]
        exact (accounts_ofLines here).append (ih later)
  have nonempty := each _ (not_mem_of_mem_blocks text)
  rw [List.filter_comm] at nonempty
  rwa [contents_lines, split, remarks, ← List.flatten_filter_not_isEmpty]

end Paragraph

end Scriptorium
