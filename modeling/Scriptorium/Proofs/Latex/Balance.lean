import Scriptorium.Proofs.Latex.Nesting
import Scriptorium.Proofs.Latex.Quiet
import Scriptorium.Proofs.Strings
/-! # The body of a paper is well nested

Each section of a document writes delimiters that nest, whatever stands behind it
(`Latex.Balanced`), when no string of the document holds a backslash, no link leads to a
document with one in its path, and no list is without items (`Section.IsPlain`). A document
that is built from a body without backslashes is such a document, so its environments nest
before repairs and after them (`Latex.nested_body_build`).
-/

namespace Scriptorium

open Latex (LeadsPlain)

/-! ## Plain documents -/

/-- The destinations of the links in a paragraph. -/
def Paragraph.linkTargets (paragraph : Paragraph) : List Text :=
  (Latex.paragraphContents paragraph).destinations

namespace Section

/-- The destinations of the links in the heading of a section. -/
def headTargets : Section → List Text
  | .content heading _ => (Latex.headingContents heading).destinations
  | _ => []

/-- The destinations of the links in running text of a section. The link of a title is none
of them. -/
def linkTargets (part : Section) : List Text :=
  part.headTargets ++ part.paragraphs.flatMap Paragraph.linkTargets

end Section

/-- The destinations of the links in running text of a document. -/
def Document.linkTargets (document : Document) : List Text :=
  document.sections.flatMap Section.linkTargets

/-- No backslash comes into what is written for a paragraph, and it is no list without
items. -/
structure Paragraph.IsPlain (paragraph : Paragraph) : Prop where
  strings : ∀ s ∈ paragraph.strings, '\\' ∉ s
  targets : ∀ href ∈ paragraph.linkTargets, LeadsPlain href
  filled : paragraph.IsFilled

/-- No backslash comes into what is written for a section, and no list in it is without
items. -/
structure Section.IsPlain (part : Section) : Prop where
  strings : ∀ s ∈ part.strings, '\\' ∉ s
  targets : ∀ href ∈ part.linkTargets, LeadsPlain href
  filled : ∀ paragraph ∈ part.paragraphs, paragraph.IsFilled

/-- The paragraphs of a plain section are plain. -/
theorem Section.IsPlain.paragraph {part : Section} (plain : part.IsPlain)
    {item : Paragraph} (member : item ∈ part.paragraphs) : item.IsPlain where
  strings s held := plain.strings s (List.mem_append_right _ (List.mem_append_right _
    (List.mem_flatMap.mpr ⟨item, member, held⟩)))
  targets href held := plain.targets href (List.mem_append_right _
    (List.mem_flatMap.mpr ⟨item, member, held⟩))
  filled := plain.filled item member

private theorem Section.IsPlain.headText {part : Section} (plain : part.IsPlain) {s : Text}
    (member : s ∈ part.headTexts) : '\\' ∉ s :=
  plain.strings s (List.mem_append_right _ (List.mem_append_left _ member))

namespace Paragraph.IsPlain

variable {paragraph : Paragraph}

/-- No text of a plain paragraph holds a backslash. -/
theorem text (plain : paragraph.IsPlain) {s : Text} (member : s ∈ paragraph.texts) : '\\' ∉ s :=
  plain.strings s (List.mem_append_right _ member)

/-- The content of a plain paragraph holds no backslash. -/
theorem content (plain : paragraph.IsPlain) : '\\' ∉ paragraph.content :=
  plain.text (List.mem_append_right _ List.mem_cons_self)

/-- No comment above a plain paragraph holds a backslash. -/
theorem pre (plain : paragraph.IsPlain) : ∀ s ∈ paragraph.annotations.pre, '\\' ∉ s :=
  fun _ member => plain.text (List.mem_append_left _ member)

/-- No comment below a plain paragraph holds a backslash. -/
theorem post (plain : paragraph.IsPlain) : ∀ s ∈ paragraph.annotations.post, '\\' ∉ s :=
  fun _ member => plain.text (List.mem_append_right _ (List.mem_cons_of_mem _ member))

end Paragraph.IsPlain

namespace Latex

variable {config : Config} {s t : Text} {written : List Delimiter} {name : String}

/-! ## Balanced texts -/

/-- A text writes delimiters that nest, whatever stands behind it. -/
def Balanced (s : Text) : Prop :=
  ∃ written, Writes s written ∧ Nested FilledFlat written

/-- A text that writes no delimiter is balanced. -/
theorem Quiet.balanced (quiet : Quiet s) : Balanced s :=
  ⟨[], quiet, .nil⟩

/-- Two balanced texts are balanced one behind the other. -/
theorem Balanced.append (first : Balanced s) (second : Balanced t) : Balanced (s ++ t) := by
  obtain ⟨written, writes, nested⟩ := first
  obtain ⟨written', writes', nested'⟩ := second
  exact ⟨written ++ written', writes.append writes', nested.append nested'⟩

/-- Parts that are written in balance are balanced together. -/
theorem Balanced.flatMap {α : Type} {parts : List α} {write : α → Text}
    (each : ∀ part ∈ parts, Balanced (write part)) : Balanced (parts.flatMap write) := by
  induction parts with
  | nil => exact Quiet.nil.balanced
  | cons part parts ih =>
    obtain ⟨here, later⟩ := List.forall_mem_cons.mp each
    rw [List.flatMap_cons]
    exact here.append (ih later)

/-- Balanced parts are balanced with quiet text between each two. -/
theorem Balanced.join {separator : Text} (between : Quiet separator) {parts : List Text}
    (each : ∀ part ∈ parts, Balanced part) : Balanced (Text.join separator parts) := by
  unfold Text.join
  induction parts with
  | nil => exact Quiet.nil.balanced
  | cons part parts ih =>
    obtain ⟨here, later⟩ := List.forall_mem_cons.mp each
    cases parts with
    | nil => rwa [List.intercalate_singleton]
    | cons next parts =>
      rw [List.intercalate_cons_cons]
      exact (here.append between.balanced).append (ih later)

private theorem quiet_lineFeed : Quiet ['\n'] :=
  .of_not_mem (by decide)

private theorem quiet_blankLine : Quiet blankLine :=
  .of_not_mem (by decide)

/-- One line among others that write nothing. -/
theorem Writes.among {front behind : List Text} (writes : Writes s written)
    (before : ∀ line ∈ front, Quiet line) (after : ∀ line ∈ behind, Quiet line) :
    Writes (Text.joinLines (front ++ s :: behind)) written := by
  have feed := quiet_lineFeed
  unfold Text.joinLines Text.join
  induction front with
  | nil =>
    cases behind with
    | nil => rwa [List.nil_append, List.intercalate_singleton]
    | cons next behind =>
      rw [List.nil_append, List.intercalate_cons_cons, ← List.append_nil written,
        ← List.append_nil written]
      exact (writes.append feed).append (Quiet.join feed after)
  | cons line front ih =>
    obtain ⟨here, later⟩ := List.forall_mem_cons.mp before
    rw [List.cons_append, List.intercalate_cons_of_ne_nil (by simp)]
    exact Writes.append (here.append feed) (ih later)

/-- A text between the two ends of an environment. -/
theorem Writes.enclosed (named : name.toList.all isNameChar = true)
    (writes : Writes s written) :
    Writes (openEnvironment name ++ (s ++ closeEnvironment name))
      (.opens name.toList :: written ++ [.closes name.toList]) := by
  have letters : ∀ c ∈ name.toList, isNameChar c = true := List.all_eq_true.mp named
  have opening : Writes _ [.opens name.toList] := Writes.ofWord _ letters
  have closing : Writes _ [.closes name.toList] := Writes.ofWord _ letters
  rw [text_opens] at opening
  rw [text_closes] at closing
  exact opening.append (writes.append closing)

private theorem balanced_enclosed (name : String) (named : name.toList.all isNameChar = true)
    (writes : Writes s written) (nested : Nested FilledFlat written)
    (allowed : FilledFlat name.toList written) :
    Balanced (openEnvironment name ++ (s ++ closeEnvironment name)) :=
  ⟨_, writes.enclosed named, .single allowed nested⟩

private theorem balanced_environment (name : String) (named : name.toList.all isNameChar = true)
    (writes : Writes s written) (nested : Nested FilledFlat written)
    (allowed : FilledFlat name.toList written) : Balanced (environment name s) := by
  have feed := quiet_lineFeed
  have lines : Writes (['\n'] ++ (s ++ ['\n'])) ([] ++ (written ++ [])) :=
    Writes.append feed (writes.append feed)
  rw [List.nil_append, List.append_nil] at lines
  have whole := balanced_enclosed name named lines nested allowed
  simpa only [environment, List.append_assoc, List.cons_append, List.nil_append] using whole

/-- Other environments than lists, bibliographies and quotations may hold anything. -/
theorem filledFlat_of_not_mem {name : Text}
    (other : name ∉ ["itemize".toList, "enumerate".toList, "thebibliography".toList, quoteName])
    (inside : List Delimiter) : FilledFlat name inside := by
  simp only [List.mem_cons, List.not_mem_nil, or_false, not_or] at other
  obtain ⟨unordered, ordered, bibliography, quote⟩ := other
  exact ⟨⟨fun list => (list.elim unordered ordered).elim, fun same => absurd same bibliography⟩,
    fun same => absurd same quote⟩

/-! ## Paragraphs -/

private theorem not_backslash_quotedText (plain : '\\' ∉ s) : '\\' ∉ quotedText s := by
  refine Text.not_mem_joinLines (by decide) fun line member held => ?_
  obtain ⟨source, listed, rfl⟩ := List.mem_map.mp (List.mem_filter.mp member).1
  refine Text.not_mem_lines plain source listed ?_
  exact (List.dropWhile_suffix _).subset ((List.dropWhile_suffix _).subset
    ((Text.infix_stripWhere _ _).subset held))

/-- The items of a list bring no backslash about. -/
theorem not_backslash_listItems (plain : '\\' ∉ s) : ∀ item ∈ listItems s, '\\' ∉ item := by
  have lines : ∀ lines items : List Text, (∀ line ∈ lines, '\\' ∉ line) →
      (∀ item ∈ items, '\\' ∉ item) → ∀ item ∈ lines.foldl addListLine items, '\\' ∉ item := by
    intro lines
    induction lines with
    | nil => exact fun items _ plain => plain
    | cons line lines ih =>
      intro items each plain
      obtain ⟨here, later⟩ := List.forall_mem_cons.mp each
      refine ih _ later ?_
      unfold addListLine
      split
      · rename_i ordered item read
        refine List.forall_mem_cons.mpr ⟨Text.not_mem_trim fun held => here ?_, plain⟩
        exact (Line.suffix_of_listMarker? read).subset held
      · cases items with
        | nil => exact List.forall_mem_singleton.mpr here
        | cons last before =>
          obtain ⟨first, others⟩ := List.forall_mem_cons.mp plain
          refine List.forall_mem_cons.mpr ⟨List.not_mem_append first ?_, others⟩
          exact List.not_mem_cons_of_ne_of_not_mem (by decide) here
  intro item member
  refine lines _ [] (fun line listed => ?_) (List.forall_mem_nil _) item
    (List.mem_reverse.mp member)
  obtain ⟨source, held, rfl⟩ := List.mem_map.mp (List.mem_filter.mp listed).1
  exact Text.not_mem_trim (Text.not_mem_lines plain source held)

/-- A list writes its items between the two ends of its environment. -/
theorem balanced_list (site : '\\' ∉ config.siteBaseUrl) (ordered : Bool) (plain : '\\' ∉ s)
    (targets : ∀ href ∈ (Contents.gather contents (listItems s)).destinations, LeadsPlain href)
    (filled : listItems s ≠ []) : Balanced (list config ordered s) := by
  rw [destinations_gather] at targets
  have items : Writes (Text.joinLines ((listItems s).map fun item =>
      "\\item ".toList ++ inline config item)) ((listItems s).flatMap fun _ => [.item]) := by
    refine Writes.join quiet_lineFeed fun item member => ?_
    have mark : Writes "\\item ".toList [.item] := Writes.ofWord .item trivial
    exact mark.append (quiet_inline site (not_backslash_listItems plain item member)
      fun href held => targets href (List.mem_flatMap.mpr ⟨item, member, held⟩))
  have nested : Nested FilledFlat ((listItems s).flatMap fun _ => [.item]) :=
    .flatMap fun _ _ => .item .nil
  obtain ⟨item, member⟩ := List.exists_mem_of_ne_nil _ filled
  have held : Delimiter.item ∈ (listItems s).flatMap fun _ => [.item] :=
    List.mem_flatMap.mpr ⟨item, member, List.mem_cons_self⟩
  cases ordered with
  | true =>
    exact balanced_environment "enumerate" (by decide) items nested
      ⟨⟨fun _ => held, nofun⟩, nofun⟩
  | false =>
    exact balanced_environment "itemize" (by decide) items nested
      ⟨⟨fun _ => held, nofun⟩, nofun⟩

/-- The entry of a citation writes one delimiter. -/
theorem writes_citation (site : '\\' ∉ config.siteBaseUrl) {item : Paragraph}
    (plain : item.IsPlain) {id : Text} (kind : item.kind = .citation id) :
    Writes (paragraph config item) [.entry] := by
  have named : '\\' ∉ id := plain.strings id (List.mem_append_left _ (by
    rw [Paragraph.citationId?, kind]
    exact List.mem_cons_self))
  have targets : ∀ href ∈ (contents item.content).destinations, LeadsPlain href := by
    intro href member
    apply plain.targets href
    rw [Paragraph.linkTargets, paragraphContents, paragraphBodyContents, kind]
    exact List.mem_append_right _ (List.mem_append_left _ (List.mem_append_right _ member))
  have rest : Quiet (id ++ ['\x7d'] ++ ' ' :: inline config item.content) :=
    ((Quiet.of_not_mem named).append (.of_not_mem (by decide))).append
      ((quiet_inline site plain.content targets).cons (by decide))
  have entry : Writes (paragraphBody config item) [.entry] := by
    have mark : Writes Delimiter.entryText [.entry] := Writes.ofWord .entry trivial
    have whole : Writes _ [.entry] := mark.append rest
    have spelled : Delimiter.entryText = '\\' :: ("bibitem".toList ++ ['\x7b']) := rfl
    rw [spelled] at whole
    rw [paragraphBody, kind]
    dsimp only
    rw [command]
    simpa only [List.append_assoc, List.cons_append, List.nil_append] using whole
  exact entry.among (fun line member => .of_not_mem (plain.pre line member))
    fun line member => .of_not_mem (plain.post line member)

private theorem exists_of_isCitation {item : Paragraph} (entry : isCitation item = true) :
    ∃ id, item.kind = .citation id := by
  unfold isCitation at entry
  split at entry
  · exact ⟨_, ‹_›⟩
  · cases entry

/-- The body of a plain paragraph is balanced. -/
theorem balanced_paragraphBody (site : '\\' ∉ config.siteBaseUrl) {item : Paragraph}
    (plain : item.IsPlain) (other : isCitation item = false) :
    Balanced (paragraphBody config item) := by
  obtain ⟨kind, content, annotations⟩ := item
  have clean : '\\' ∉ content := plain.content
  have targets : ∀ href ∈ (paragraphBodyContents ⟨kind, content, annotations⟩).destinations,
      LeadsPlain href := by
    intro href member
    exact plain.targets href (List.mem_append_right _ (List.mem_append_left _ member))
  cases kind with
  | text => exact (quiet_inline site clean targets).balanced
  | blockquote =>
    exact balanced_environment _ (by decide)
      (quiet_inline site (not_backslash_quotedText clean) targets) .nil
      ⟨⟨nofun, nofun⟩, fun _ => rfl⟩
  | list ordered => exact balanced_list site ordered clean targets (plain.filled ordered rfl)
  | citation id => cases other
  | code language =>
    exact balanced_environment _ (by decide) (Quiet.of_not_mem clean) .nil
      (filledFlat_of_not_mem (by decide) _)
  | comment => exact (Quiet.of_not_mem clean).balanced

/-- **A paragraph is balanced.** -/
theorem balanced_paragraph (site : '\\' ∉ config.siteBaseUrl) {item : Paragraph}
    (plain : item.IsPlain) : Balanced (paragraph config item) := by
  cases entry : isCitation item with
  | true =>
    obtain ⟨id, kind⟩ := exists_of_isCitation entry
    exact ⟨_, writes_citation site plain kind, .entry .nil⟩
  | false =>
    obtain ⟨written, writes, nested⟩ := balanced_paragraphBody site plain entry
    exact ⟨written, writes.among (fun line member => .of_not_mem (plain.pre line member))
      fun line member => .of_not_mem (plain.post line member), nested⟩

/-! ## Sections -/

private theorem balanced_paragraphs (site : '\\' ∉ config.siteBaseUrl) {items : List Paragraph}
    (plain : ∀ item ∈ items, item.IsPlain) : Balanced (paragraphs config items) := by
  refine .join quiet_blankLine fun part member => ?_
  obtain ⟨item, listed, rfl⟩ := List.mem_map.mp member
  exact balanced_paragraph site (plain item listed)

/-- The line of plain keywords is quiet. -/
theorem quiet_keywordsLine {keywords : Keywords} (plain : ∀ s ∈ keywords.texts, '\\' ∉ s) :
    Quiet (keywordsLine keywords) := by
  obtain ⟨comments, words⟩ := List.forall_mem_append.mp plain
  have between : Quiet " \\and ".toList :=
    Quiet.cons (by decide) (Quiet.ofLead (by decide) (by decide) : Quiet ('\\' :: "and ".toList))
  have listed : Quiet (Text.join " \\and ".toList (keywords.keywords.map escape)) := by
    refine .join between fun part member => ?_
    obtain ⟨keyword, held, rfl⟩ := List.mem_map.mp member
    exact quiet_escape (words keyword held)
  have last : Quiet (command "keywords".toList
      (Text.join " \\and ".toList (keywords.keywords.map escape) ++ ['.'])) :=
    Quiet.command (by decide) (by decide) (listed.append (.of_not_mem (by decide)))
  refine .join (.of_not_mem (by decide)) (List.forall_mem_append.mpr
    ⟨fun line member => .of_not_mem (comments line member), List.forall_mem_singleton.mpr last⟩)

private theorem quiet_titleLine (site : '\\' ∉ config.siteBaseUrl) {title : TitleSection}
    (text : '\\' ∉ title.text) (link : ∀ link ∈ title.link, '\\' ∉ link) :
    Quiet (titleLine config title) := by
  unfold titleLine
  cases linked : title.link with
  | none => exact quiet_escape text
  | some target =>
    exact Quiet.linkCommand .href
      (quiet_escapeUrl (not_backslash_absoluteUrl site (link target linked))) (quiet_escape text)

/-- The title block of a plain title is balanced. -/
theorem balanced_titleBlock (site : '\\' ∉ config.siteBaseUrl) {title : TitleSection}
    (text : '\\' ∉ title.text) (link : ∀ link ∈ title.link, '\\' ∉ link) :
    Balanced (titleBlock config title) := by
  have above : Quiet ("\n    \x7b".toList ++ ("\\Large".toList ++ ("\\bfseries".toList ++
      ("\\boldmath".toList ++ "\n        ".toList)))) :=
    (Quiet.of_not_mem (by decide)).append ((Quiet.ofLead (by decide) (by decide)).append
      ((Quiet.ofLead (by decide) (by decide)).append
        ((Quiet.ofLead (by decide) (by decide)).append (.of_not_mem (by decide)))))
  have below : Quiet ("\n        ".toList ++ ("\\par\x7d".toList ++ ("\n    ".toList ++
      "\\vskip 0.8cm\n".toList))) :=
    (Quiet.of_not_mem (by decide)).append ((Quiet.ofLead (by decide) (by decide)).append
      ((Quiet.of_not_mem (by decide)).append (Quiet.ofLead (by decide) (by decide))))
  have lead : "\n    \x7b\\Large\\bfseries\\boldmath\n        ".toList = "\n    \x7b".toList ++
      ("\\Large".toList ++ ("\\bfseries".toList ++ ("\\boldmath".toList ++
        "\n        ".toList))) := rfl
  have tail : "\n        \\par\x7d\n    \\vskip 0.8cm\n".toList = "\n        ".toList ++
      ("\\par\x7d".toList ++ ("\n    ".toList ++ "\\vskip 0.8cm\n".toList)) := rfl
  have inside := (Quiet.append above (quiet_titleLine site text link)).append below
  have center := balanced_enclosed "center" (by decide) inside .nil
    (filledFlat_of_not_mem (by decide) _)
  have whole := center.append quiet_blankLine.balanced
  rw [titleBlock, show "\n    \x7b\\Large\\bfseries\\boldmath\n        ".toList = _ from lead,
    show "\n        \\par\x7d\n    \\vskip 0.8cm\n".toList = _ from tail]
  simpa only [List.append_assoc] using whole

private theorem balanced_titleSection (site : '\\' ∉ config.siteBaseUrl) {title : TitleSection}
    (plain : (Section.title title).IsPlain) : Balanced (titleSection config title) := by
  have text : '\\' ∉ title.text := plain.headText List.mem_cons_self
  have link : ∀ link ∈ title.link, '\\' ∉ link :=
    fun link member => plain.strings link (List.mem_append_left _ (Option.mem_toList.mpr member))
  refine .append ?_ ?_
  · split
    · exact Quiet.nil.balanced
    · exact balanced_titleBlock site text link
  · split
    · exact Quiet.nil.balanced
    · exact (balanced_paragraphs site fun item => plain.paragraph).append quiet_blankLine.balanced

/-- A bibliography of plain paragraphs is balanced, with its entries inside of it. -/
theorem balanced_bibliography (site : '\\' ∉ config.siteBaseUrl) {items : List Paragraph}
    (plain : ∀ item ∈ items, item.IsPlain) : Balanced (bibliography config items) := by
  refine .append (.flatMap fun item member => ?_) ?_
  · exact (balanced_paragraph site (plain item (List.mem_filter.mp member).1)).append
      quiet_blankLine.balanced
  · split
    · exact Quiet.nil.balanced
    · rename_i nonempty
      rw [List.isEmpty_iff] at nonempty
      have entries : Writes (separately config (items.filter isCitation))
          ((items.filter isCitation).flatMap fun _ => [.entry]) := by
        refine .flatMap fun item member => ?_
        obtain ⟨listed, entry⟩ := List.mem_filter.mp member
        obtain ⟨id, kind⟩ := exists_of_isCitation entry
        exact (writes_citation site (plain item listed) kind).append quiet_blankLine
      have nested : Nested FilledFlat ((items.filter isCitation).flatMap fun _ => [.entry]) :=
        .flatMap fun _ _ => .entry .nil
      obtain ⟨item, member⟩ := List.exists_mem_of_ne_nil _ nonempty
      have held : Delimiter.entry ∈ (items.filter isCitation).flatMap fun _ => [.entry] :=
        List.mem_flatMap.mpr ⟨item, member, List.mem_cons_self⟩
      have width : Quiet "\x7b99\x7d\n\n".toList := .of_not_mem (by decide)
      have whole := (balanced_enclosed "thebibliography" (by decide)
        (Writes.append width entries) nested
        ⟨⟨nofun, fun _ => held⟩, nofun⟩).append quiet_blankLine.balanced
      simpa only [List.append_assoc] using whole

private theorem balanced_heading (site : '\\' ∉ config.siteBaseUrl) (heading : Option Heading)
    (text : ∀ text ∈ (heading.map Heading.text).toList, '\\' ∉ text)
    (targets : ∀ href ∈ (headingContents heading).destinations, LeadsPlain href) :
    Balanced ((heading.map (headingLine config)).getD []) := by
  cases heading with
  | none => exact Quiet.nil.balanced
  | some heading =>
    have inside := quiet_inline site (text heading.text List.mem_cons_self) targets
    have line : Quiet (command heading.level.command (inline config heading.text)) := by
      cases heading.level <;> exact Quiet.command (by decide) (by decide) inside
    exact (line.append quiet_blankLine).balanced

/-- **A section is balanced.** -/
theorem balanced_section (site : '\\' ∉ config.siteBaseUrl) {part : Section}
    (plain : part.IsPlain) : Balanced (section_ config part) := by
  cases part with
  | title title => exact balanced_titleSection site plain
  | abstract items keywords =>
    have lists : Quiet (abstractKeywords keywords) := by
      unfold abstractKeywords
      split
      · exact .nil
      · refine quiet_blankLine.append (.join (.of_not_mem (by decide)) fun line member => ?_)
        obtain ⟨list, listed, rfl⟩ := List.mem_map.mp member
        exact quiet_keywordsLine fun s held =>
          plain.headText (List.mem_flatMap.mpr ⟨list, listed, held⟩)
    obtain ⟨written, writes, nested⟩ :=
      (balanced_paragraphs site fun item => plain.paragraph).append lists.balanced
    exact (balanced_environment _ (by decide) writes nested
      (filledFlat_of_not_mem (by decide) _)).append quiet_blankLine.balanced
  | keywords keywords =>
    exact ((quiet_keywordsLine fun s held => plain.headText held).append quiet_blankLine).balanced
  | bibliography items => exact balanced_bibliography site fun item => plain.paragraph
  | content heading items =>
    have head := balanced_heading site heading (fun text => plain.headText)
      fun href held => plain.targets href (List.mem_append_left _ held)
    exact (head.append (balanced_paragraphs site fun item => plain.paragraph)).append
      quiet_blankLine.balanced

private theorem balanced_body (site : '\\' ∉ config.siteBaseUrl) {document : Document}
    (plain : ∀ part ∈ document.sections, part.IsPlain) : Balanced (body config document) :=
  .flatMap fun part member => balanced_section site (plain part member)

/-! ## Documents that are built -/

/-- **The body of a paper is well nested.** Where neither the body of a document nor the title
of its metadata nor a citation nor the address of the site holds a backslash, and no link of
its running text leads to a document with one in its path, every environment of its LaTeX is
closed by its own name, lists hold items and bibliographies entries, before repairs and after
them. -/
theorem nested_body_build {metadata : Metadata} {citations : CitationTable} {text : Text}
    (site : '\\' ∉ config.siteBaseUrl)
    (title : ∀ title ∈ metadata.title, '\\' ∉ title.text ∧ '\\' ∉ title.link)
    (entries : ∀ citation ∈ citations.entries,
      '\\' ∉ citation.id ∧ '\\' ∉ citation.rawContent)
    (plain : '\\' ∉ text)
    (targets : ∀ href ∈ (Document.build metadata citations text).linkTargets, LeadsPlain href) :
    Nested Filled (delimiters (body config (Document.build metadata citations text))) ∧
      Nested Filled
        (delimiters (repair (body config (Document.build metadata citations text)))) := by
  have parts : ∀ part ∈ (Document.build metadata citations text).sections, part.IsPlain := by
    refine fun part member => ⟨fun s held => ?_, fun href held => ?_, fun item held => ?_⟩
    · exact Document.not_mem_strings_build (by decide) plain title entries s
        (List.mem_flatMap.mpr ⟨part, member, held⟩)
    · exact targets href (List.mem_flatMap.mpr ⟨part, member, held⟩)
    · exact Document.isFilled_build metadata citations text item
        (List.mem_flatMap.mpr ⟨part, member, held⟩)
  obtain ⟨written, writes, nested⟩ := balanced_body site parts
  rw [← writes.delimiters_eq] at nested
  have filled := nested.mono fun _ _ allowed => allowed.1
  refine ⟨filled, ?_⟩
  rw [delimiters_repair nested]
  exact filled

/-- A body with a quotation in a quotation, an abstract, lists, code and links, one of them
to a document with an escaped backslash in its anchor. -/
def variedBody : Text :=
  ("See [a](../b.md).\n\n> a & b\n> > c\n---\n## Abstract\n1. *one* [d](e.md#f%5Cg)\n2. two\n" ++
    "---\n## Keywords\n- k\n---\n## S\n```\n& #\n```\n\n- item\ngoes on").toList

/-- Metadata with a title. -/
def titledMetadata : Metadata :=
  { Metadata.empty with title := some ⟨"On & on".toList, "on.md".toList⟩ }

/-- A table of one citation. -/
def oneCitation : CitationTable :=
  CitationTable.empty.insertAll [("k".toList, "Knuth, **The Art**.".toList)]

/-- Environments are nested in what becomes of this body, before repair and after it. -/
theorem nested_body_build_variedBody :
    '\\' ∉ Config.standard.siteBaseUrl ∧
      (∀ title ∈ titledMetadata.title, '\\' ∉ title.text ∧ '\\' ∉ title.link) ∧
      (∀ citation ∈ oneCitation.entries, '\\' ∉ citation.id ∧ '\\' ∉ citation.rawContent) ∧
      '\\' ∉ variedBody ∧
      (∀ href ∈ (Document.build titledMetadata oneCitation variedBody).linkTargets,
        LeadsPlain href) ∧
      Nested Filled (delimiters
        (body Config.standard (Document.build titledMetadata oneCitation variedBody))) ∧
      Nested Filled (delimiters (repair (body Config.standard
        (Document.build titledMetadata oneCitation variedBody)))) := by
  have site : '\\' ∉ Config.standard.siteBaseUrl := by decide
  have title : ∀ title ∈ titledMetadata.title, '\\' ∉ title.text ∧ '\\' ∉ title.link := by
    intro title named
    cases named
    decide
  have entries : ∀ citation ∈ oneCitation.entries,
      '\\' ∉ citation.id ∧ '\\' ∉ citation.rawContent := by decide
  have plain : '\\' ∉ variedBody := by decide +kernel
  have targets : ∀ href ∈ (Document.build titledMetadata oneCitation variedBody).linkTargets,
      LeadsPlain href := by decide +kernel
  exact ⟨site, title, entries, plain, targets, nested_body_build site title entries plain targets⟩

/-- A link to a document with an escaped backslash in its path. -/
def backslashInPath : Text :=
  "[t](a%5Cend\x7bx\x7d.md)".toList

/-- The destination is decoded and then written with its backslash, which closes an
environment that nothing opens. -/
theorem not_nested_backslashInPath :
    '\\' ∉ Config.standard.siteBaseUrl ∧ '\\' ∉ backslashInPath ∧
      ¬ Nested Filled (delimiters
        (body Config.standard (Document.build .empty .empty backslashInPath))) := by
  have closed : delimiters (body Config.standard (Document.build .empty .empty backslashInPath)) =
      [.closes ['x']] := by decide +kernel
  refine ⟨by decide, by decide, fun nested => ?_⟩
  exact nested.head?_ne_closes (congrArg List.head? closed)

end Latex

end Scriptorium
