import Mathlib.Data.List.Induction
import Scriptorium.Proofs.Citation.Markup
import Scriptorium.Proofs.Text.Scan
/-! # Formatted citations

A formatted entry is markup whatever its fields hold (`Citation.markup_formatEntry`). In other
text the links become elements first, and emphasis is looked for in what came out: two
asterisks may stand in the destinations of links, or one of them in a link and the other
outside of it. The result is markup exactly when each emphasis covers whole links, or a part
of the text of one (`Citation.markup_format_iff`).
-/

namespace Scriptorium.Citation

variable {raw html front behind content : Text} {reader later : Reader}

/-! ## Entries -/

private theorem markup_escape (s : Text) : Markup (Html.escape s) :=
  .of_isBare (Html.isBare_escape s)

/-- Parts that are markup are so when they are put together, with markup between them. -/
theorem Markup.join {separator : Text} {parts : List Text} (between : Markup separator)
    (within : ∀ part ∈ parts, Markup part) : Markup (Text.join separator parts) := by
  unfold Text.join
  induction parts with
  | nil => exact .nil
  | cons part parts ih =>
    obtain ⟨here, later⟩ := List.forall_mem_cons.mp within
    cases parts with
    | nil => rwa [List.intercalate_singleton]
    | cons next parts =>
      rw [List.intercalate_cons_cons]
      exact (here.append between).append (ih later)

private theorem markup_inParentheses (s : Text) : Markup ('(' :: Html.escape s ++ [')']) :=
  .plain (by decide) ((markup_escape s).append (.of_isBare (by decide)))

private theorem markup_of_mem_map {field : Option Text} {written : Text → Text} {part : Text}
    (each : ∀ value, Markup (written value)) (given : field.map written = some part) :
    Markup part := by
  obtain ⟨value, -, rfl⟩ := Option.map_eq_some_iff.mp given
  exact each value

private theorem markup_getD_map (field : Option Text) {written : Text → Text}
    (each : ∀ value, Markup (written value)) : Markup ((field.map written).getD []) := by
  cases field with
  | none => exact .nil
  | some value => exact each value

private theorem markup_journalPart (entry : BibEntry) (journal : Text) :
    Markup (journalPart entry journal) := by
  have comma : ∀ s, Markup (", ".toList ++ Html.escape s) :=
    fun s => (Markup.of_isBare (by decide)).append (markup_escape s)
  have number := markup_getD_map entry.number markup_inParentheses
  have volume := markup_getD_map entry.volume fun volume => (comma volume).append number
  have pages := markup_getD_map entry.pages comma
  exact ((markup_escape journal).append volume).append pages

private theorem markup_venuePart {entry : BibEntry} {part : Text}
    (given : venuePart entry = some part) :
    Markup part := by
  unfold venuePart at given
  split at given
  · rename_i journal _
    cases given
    exact markup_journalPart entry journal
  · refine markup_of_mem_map (fun book => ?_) given
    exact (Markup.of_isBare (by decide)).append (.emElement (markup_escape book))

private theorem markup_linkPart {entry : BibEntry} {part : Text}
    (given : linkPart entry = some part) :
    Markup part := by
  unfold linkPart at given
  split at given
  · rename_i doi _
    cases given
    have site : Html.IsBare "https://doi.org/".toList := by decide
    exact .anchorElement (Html.isBare_append_iff.mpr ⟨site, Html.isBare_escape doi⟩)
      (markup_escape doi)
  · exact markup_of_mem_map
      (fun url => .anchorElement (Html.isBare_escape url) (markup_escape url)) given

/-- The parts of an entry are markup. -/
theorem markup_of_mem_entryParts {entry : BibEntry} {part : Text}
    (member : part ∈ entryParts entry) : Markup part := by
  obtain ⟨given, listed, same⟩ := List.mem_filterMap.mp member
  simp only [List.mem_cons, List.not_mem_nil, or_false] at listed
  rcases listed with rfl | rfl | rfl | rfl | rfl | rfl
  · split at same
    · cases same
    · cases same
      exact markup_escape _
  · exact markup_of_mem_map markup_inParentheses same
  · exact markup_of_mem_map (fun title => .emElement (markup_escape title)) same
  · exact markup_venuePart same
  · exact markup_of_mem_map markup_escape same
  · exact markup_linkPart same

/-- **A formatted entry is markup**, whatever its fields hold. -/
theorem markup_formatEntry (entry : BibEntry) : Markup (formatEntry entry) := by
  have separator : Markup ". ".toList := .of_isBare (by decide)
  have stop : Markup ['.'] := .of_isBare (by decide)
  exact (separator.join fun _ member => markup_of_mem_entryParts member).append stop

/-! ## Text with links -/

/-- A link as it is written. -/
def plainLinkSource (link : Text × Text) : Text :=
  '[' :: (link.1 ++ ("](".toList ++ (link.2 ++ [')'])))

private theorem eq_of_plainLink? {s rest : Text} {link : Text × Text}
    (read : plainLink? s = some (link, rest)) : s = plainLinkSource link ++ rest := by
  simp only [plainLink?, Option.bind_eq_bind, Option.bind_eq_some_iff, Prod.exists] at read
  obtain ⟨_, _, opened, _, _, inside, _, _, middle, _, _, target, _, _, closed, same⟩ := read
  cases same
  rw [Scanner.literal_eq_some_iff.mp opened, (Scanner.eq_of_run_eq_some inside).1,
    Scanner.literal_eq_some_iff.mp middle, (Scanner.eq_of_run_eq_some target).1,
    Scanner.literal_eq_some_iff.mp closed, plainLinkSource]
  simp only [String.reduceToList, List.append_assoc, List.cons_append, List.nil_append]

/-- The links in the content of a citation, and the characters between them. -/
def linkPieces (raw : Text) : List (Piece (Text × Text)) :=
  Scanner.pieces plainLink? (Html.escape raw.trim)

/-- A text with links, with an element for each of them. -/
def linkedText (pieces : List (Piece (Text × Text))) : Text :=
  Piece.join (fun link => anchorElement link.2 link.1) pieces

/-- A piece without markup. -/
def BarePiece : Piece (Text × Text) → Prop
  | .plain c => c ∉ Html.markupChars
  | .found link => Html.IsBare link.1 ∧ Html.IsBare link.2

/-- Pieces without markup. -/
def BarePieces (pieces : List (Piece (Text × Text))) : Prop :=
  ∀ piece ∈ pieces, BarePiece piece

private theorem barePieces_append_cons_iff {before after : List (Piece (Text × Text))}
    {piece : Piece (Text × Text)} :
    BarePieces (before ++ piece :: after) ↔
      BarePieces before ∧ BarePiece piece ∧ BarePieces after := by
  unfold BarePieces
  rw [List.forall_mem_append, List.forall_mem_cons]

/-- The links of a citation are written with bare text between them. -/
theorem barePieces_linkPieces (raw : Text) : BarePieces (linkPieces raw) := by
  intro piece member
  have whole : Piece.join plainLinkSource (linkPieces raw) = Html.escape raw.trim := by
    rw [linkPieces, ← Scanner.replaceAll_eq_join]
    exact Scanner.replaceAll_eq_self (fun _ _ _ => eq_of_plainLink?) _
  have bare : Html.IsBare (piece.text plainLinkSource) := by
    intro c inside
    apply Html.isBare_escape raw.trim
    rw [← whole]
    exact List.mem_flatMap.mpr ⟨piece, member, inside⟩
  cases piece with
  | plain c => exact bare c List.mem_cons_self
  | found link =>
    constructor
    · intro c inside
      exact bare c (by simp [Piece.text, plainLinkSource, inside])
    · intro c inside
      exact bare c (by simp [Piece.text, plainLinkSource, inside])

variable {pieces : List (Piece (Text × Text))}

private theorem markup_linkedText (bare : BarePieces pieces) :
    Markup (linkedText pieces) := by
  apply Markup.flatMap
  intro piece member
  cases piece with
  | plain c => exact .plain (bare _ member) .nil
  | found link => exact .anchorElement (bare _ member).2 (.of_isBare (bare _ member).1)

/-! ## Asterisks -/

/-- An asterisk in a text with links, with what stands before and behind it: outside of links,
in the destination of one, or in the text of one. -/
inductive StarAt (pieces : List (Piece (Text × Text))) : Text → Text → Prop
  | outside {before after : List (Piece (Text × Text))} :
      pieces = before ++ .plain '*' :: after →
      StarAt pieces (linkedText before) (linkedText after)
  | inDestination {before after : List (Piece (Text × Text))} {text first second : Text} :
      pieces = before ++ .found (text, first ++ '*' :: second) :: after →
      StarAt pieces (linkedText before ++ '<' :: (linkLead ++ first))
        (second ++ ('"' :: '>' :: (text ++ (linkClosing ++ linkedText after))))
  | inText {before after : List (Piece (Text × Text))} {first second destination : Text} :
      pieces = before ++ .found (first ++ '*' :: second, destination) :: after →
      StarAt pieces (linkedText before ++ (linkOpening destination ++ first))
        (second ++ (linkClosing ++ linkedText after))

/-- A link that holds a star is found behind other pieces too. -/
theorem StarAt.cons (piece : Piece (Text × Text)) (star : StarAt pieces front behind) :
    StarAt (piece :: pieces) (linkedText [piece] ++ front) behind := by
  cases star with
  | @outside before after same =>
    rw [linkedText, linkedText, ← Piece.join_append]
    exact .outside (congrArg (List.cons piece) same)
  | @inDestination before after text first second same =>
    rw [← List.append_assoc, linkedText, linkedText, ← Piece.join_append]
    exact .inDestination (congrArg (List.cons piece) same)
  | @inText before after first second destination same =>
    rw [← List.append_assoc, linkedText, linkedText, ← Piece.join_append]
    exact .inText (congrArg (List.cons piece) same)

private theorem star_not_mem_linkLead : '*' ∉ linkLead := by
  unfold linkLead
  simp

private theorem star_not_mem_linkClosing : '*' ∉ linkClosing := by
  unfold linkClosing
  simp

/-- An asterisk in a link stands in its destination or in its text. -/
theorem starAt_link {text destination rest : Text}
    (same : anchorElement destination text = front ++ '*' :: rest) :
    StarAt (.found (text, destination) :: pieces) front (rest ++ linkedText pieces) := by
  have whole : ('<' :: linkLead) ++ (destination ++ (['"', '>'] ++ (text ++ linkClosing))) =
      front ++ '*' :: rest := by
    rw [← same, anchorElement_eq, linkOpening, tagText, linkTag]
    simp only [List.append_assoc, List.cons_append, List.nil_append]
  obtain ⟨first, rfl, behindLead⟩ :=
    Text.exists_append_of_not_mem (by simp [star_not_mem_linkLead]) whole
  rcases Text.cases_of_append_eq_append_cons behindLead with
    ⟨second, rfl, rfl⟩ | ⟨later, rfl, behindDestination⟩
  · simp only [List.append_assoc]
    exact @StarAt.inDestination _ [] pieces text first second rfl
  · obtain ⟨first, rfl, behindTag⟩ := Text.exists_append_of_not_mem (by simp) behindDestination
    obtain ⟨second, rfl, rfl⟩ :=
      Text.exists_of_append_eq_append_cons star_not_mem_linkClosing behindTag
    have star : StarAt (.found (first ++ '*' :: second, destination) :: pieces)
        (linkOpening destination ++ first) (second ++ (linkClosing ++ linkedText pieces)) :=
      @StarAt.inText _ [] pieces first second destination rfl
    rw [linkOpening, tagText, linkTag] at star
    simpa only [List.append_assoc, List.cons_append, List.nil_append] using star

/-- An asterisk stands outside of links, in a destination or in the text of a link, since the
tags of links hold no other. -/
theorem starAt (same : linkedText pieces = front ++ '*' :: behind) :
    StarAt pieces front behind := by
  induction pieces generalizing front with
  | nil => exact absurd same.symm (by simp [linkedText, Piece.join])
  | cons piece pieces ih =>
    have split : linkedText [piece] ++ linkedText pieces = front ++ '*' :: behind := by
      rw [linkedText, linkedText, ← Piece.join_append]
      exact same
    rcases Text.cases_of_append_eq_append_cons split with ⟨rest, inside, rfl⟩ | ⟨later, rfl, across⟩
    · rw [linkedText, Piece.join, List.flatMap_singleton] at inside
      cases piece with
      | plain c =>
        obtain ⟨rfl, here⟩ | ⟨-, here⟩ := List.singleton_eq_append_iff.mp inside
        · obtain ⟨rfl, rfl⟩ := List.cons_eq_cons.mp here
          exact @StarAt.outside _ [] pieces rfl
        · cases here
      | found link => exact starAt_link inside
    · exact (ih across).cons piece

/-! ## Emphasis -/

/-- What an emphasis may stand around, of which the front is given as well: whole links and
characters outside of links, or a part of the text of one link. -/
inductive Covers (pieces : List (Piece (Text × Text))) : Text → Text → Prop
  | outside {before between after : List (Piece (Text × Text))} :
      pieces = before ++ .plain '*' :: (between ++ .plain '*' :: after) →
      Covers pieces (linkedText before) (linkedText between)
  | inText {before after : List (Piece (Text × Text))} {first second third destination : Text} :
      pieces = before ++ .found (first ++ '*' :: (second ++ '*' :: third), destination) :: after →
      Covers pieces (linkedText before ++ (linkOpening destination ++ first)) second

/-- An emphasis as it is written. -/
def starred (content : Text) : Text :=
  '*' :: (content ++ ['*'])

/-- Each emphasis in a text with links stands around whole links, or in the text of one. -/
def KeepsLinks (pieces : List (Piece (Text × Text))) : Prop :=
  ∀ before content after,
    Scanner.pieces plainEmphasis? (linkedText pieces) = before ++ .found content :: after →
      Covers pieces (Piece.join starred before) content

private theorem read_inDestination {before after : List (Piece (Text × Text))}
    {text first second : Text}
    (bare : BarePieces (before ++ .found (text, first ++ '*' :: second) :: after))
    (opened : List Element) :
    Reader.read ⟨opened, none⟩ (linkedText before ++ '<' :: (linkLead ++ first)) =
      some ⟨opened, some (linkLead ++ first)⟩ := by
  obtain ⟨outer, ⟨-, destination⟩, -⟩ := barePieces_append_cons_iff.mp bare
  obtain ⟨begins, -⟩ := Html.isBare_append_iff.mp destination
  rw [Reader.read_append_of_some (Reader.read_markup (markup_linkedText outer) opened),
    Reader.read_beginTag (tagless_linkLead.append (tagless_of_isBare begins))]

private theorem read_inText {before after : List (Piece (Text × Text))}
    {destination first second : Text}
    (bare : BarePieces (before ++ .found (first ++ '*' :: second, destination) :: after))
    (opened : List Element) :
    Reader.read ⟨opened, none⟩ (linkedText before ++ (linkOpening destination ++ first)) =
      some ⟨.link :: opened, none⟩ := by
  obtain ⟨outer, ⟨text, target⟩, -⟩ := barePieces_append_cons_iff.mp bare
  obtain ⟨begins, -⟩ := Html.isBare_append_iff.mp text
  rw [Reader.read_append_of_some (Reader.read_markup (markup_linkedText outer) opened),
    Reader.read_append_of_some (Reader.read_linkOpening target opened), Reader.read_bare begins]

/-- Emphasis that covers whole links, or a part of the text of one, begins outside of tags and
holds markup. -/
theorem Covers.markup (covers : Covers pieces front content) (bare : BarePieces pieces) :
    Markup content ∧ ∃ opened, Reader.start.read front = some ⟨opened, none⟩ := by
  cases covers with
  | outside same =>
    subst same
    obtain ⟨first, -, behind⟩ := barePieces_append_cons_iff.mp bare
    obtain ⟨second, -⟩ := barePieces_append_cons_iff.mp behind
    exact ⟨markup_linkedText second, [], Reader.read_markup (markup_linkedText first) []⟩
  | inText same =>
    subst same
    obtain ⟨-, ⟨text, -⟩, -⟩ := barePieces_append_cons_iff.mp bare
    obtain ⟨-, -, behind⟩ := Html.isBare_append_cons_iff.mp text
    obtain ⟨inside, -⟩ := Html.isBare_append_iff.mp behind
    exact ⟨.of_isBare inside, [.link], read_inText bare []⟩

/-- Emphasis that was opened outside of links is closed outside of them. -/
theorem closed_outside (bare : BarePieces pieces) {opened : List Element}
    (same : linkedText pieces = content ++ '*' :: behind)
    (closes : Reader.read ⟨.emphasis :: opened, none⟩ (content ++ emClosing) = some later) :
    ∃ between after, pieces = between ++ .plain '*' :: after ∧ content = linkedText between := by
  cases starAt same with
  | @outside between after split => exact ⟨between, after, split, rfl⟩
  | inDestination split =>
    subst split
    rw [Reader.read_append_of_some (read_inDestination bare _)] at closes
    cases closes
  | inText split =>
    subst split
    rw [Reader.read_append_of_some (read_inText bare _), Reader.read_emClosing] at closes
    cases closes

/-- Emphasis that was opened in the text of a link is closed there. -/
theorem closed_inText {text rest : Text} (bare : Html.IsBare text) {opened : List Element}
    (same : text ++ (linkClosing ++ rest) = content ++ '*' :: behind)
    (closes : Reader.read ⟨.emphasis :: opened, none⟩ (content ++ emClosing) = some later) :
    ∃ third, text = content ++ '*' :: third := by
  rcases Text.cases_of_append_eq_append_cons same with ⟨third, inside, -⟩ | ⟨beyond, rfl, across⟩
  · exact ⟨third, inside⟩
  · obtain ⟨beyond, rfl, -⟩ := Text.exists_append_of_not_mem star_not_mem_linkClosing across
    rw [List.append_assoc, Reader.read_append_of_some (Reader.read_bare bare _),
      List.append_assoc, Reader.read_append, Reader.read_linkClosing] at closes
    cases closes

/-- **Where emphasis can be read it covers whole links**, or a part of the text of one. -/
theorem covers_of_read (bare : BarePieces pieces)
    (same : linkedText pieces = front ++ '*' :: (content ++ '*' :: behind))
    (reads : Reader.start.read front = some reader)
    (goesOn : reader.read (emElement content) = some later) : Covers pieces front content := by
  rw [emElement_eq] at goesOn
  generalize tail : content ++ '*' :: behind = rest at same
  -- Where the first asterisk stands tells where the reader is when the emphasis begins.
  cases starAt same with
  | outside split =>
    subst split
    obtain ⟨outer, -, inner⟩ := barePieces_append_cons_iff.mp bare
    rw [Reader.start, Reader.read_markup (markup_linkedText outer)] at reads
    obtain rfl := Option.some.inj reads
    rw [Reader.read_append_of_some (Reader.read_emOpening [])] at goesOn
    obtain ⟨between, after, rfl, rfl⟩ := closed_outside inner tail.symm goesOn
    exact .outside rfl
  | inDestination split =>
    -- The opening tag of the emphasis would begin inside of that of the link.
    subst split
    rw [Reader.start, read_inDestination bare] at reads
    obtain rfl := Option.some.inj reads
    cases goesOn
  | inText split =>
    subst split
    rw [Reader.start, read_inText bare] at reads
    obtain rfl := Option.some.inj reads
    rw [Reader.read_append_of_some (Reader.read_emOpening _)] at goesOn
    obtain ⟨-, ⟨text, -⟩, -⟩ := barePieces_append_cons_iff.mp bare
    obtain ⟨-, -, inside⟩ := Html.isBare_append_cons_iff.mp text
    obtain ⟨third, rfl⟩ := closed_inText inside tail.symm goesOn
    exact .inText rfl

/-- Emphasis that covers whole links, or parts of their texts, leaves the reader where the
asterisks would. -/
theorem read_join {parts : List (Piece Text)} (bare : BarePieces pieces)
    (covers : ∀ before content after, parts = before ++ .found content :: after →
      Covers pieces (Piece.join starred before) content) :
    Reader.start.read (Piece.join emElement parts) =
      Reader.start.read (Piece.join starred parts) := by
  induction parts using List.reverseRecOn with
  | nil => rfl
  | append_singleton parts piece ih =>
    have earlier := ih fun before content after split =>
      covers before content (after ++ [piece]) (by rw [split, List.append_assoc, List.cons_append])
    rw [Piece.join_append, Piece.join_append, Reader.read_append, Reader.read_append, earlier]
    cases piece with
    | plain c => rfl
    | found content =>
      obtain ⟨within, opened, reads⟩ := (covers parts content [] rfl).markup bare
      have star : '*' ∉ Html.markupChars := by simp [Html.markupChars]
      have source : Markup (starred content) := .plain star (within.append (.plain star .nil))
      rw [reads, Piece.join, Piece.join, List.flatMap_singleton, List.flatMap_singleton]
      exact (Reader.read_markup (.emElement within) opened).trans
        (Reader.read_markup source opened).symm

private theorem eq_of_plainEmphasis? {s rest : Text}
    (read : plainEmphasis? s = some (content, rest)) :
    s = starred content ++ rest := by
  simp only [plainEmphasis?, Option.bind_eq_bind, Option.bind_eq_some_iff, Prod.exists] at read
  obtain ⟨_, _, opened, _, _, inside, _, _, closed, same⟩ := read
  cases same
  rw [Scanner.literal_eq_some_iff.mp opened, (Scanner.eq_of_run_eq_some inside).1,
    Scanner.literal_eq_some_iff.mp closed, starred]
  simp only [List.append_assoc, List.cons_append, List.nil_append]

/-- Emphasis in markup covers whole links, or parts of their texts, one after the other. -/
theorem covers_of_markup {parts : List (Piece Text)} (bare : BarePieces pieces)
    (whole : Piece.join starred parts = linkedText pieces)
    (markup : Markup (Piece.join emElement parts)) (before : List (Piece Text)) (content : Text)
    (after : List (Piece Text)) (split : parts = before ++ .found content :: after) :
    Covers pieces (Piece.join starred before) content := by
  induction size : before.length using Nat.strongRecOn generalizing before content after with
  | _ size ih =>
    subst size
    -- Where the emphasis in front covers whole links the reader comes to this one as it would
    -- in the text with asterisks.
    have earlier : ∀ first inner rest, before = first ++ .found inner :: rest →
        Covers pieces (Piece.join starred first) inner := by
      intro first inner rest cut
      refine ih first.length ?_ first inner (rest ++ .found content :: after) ?_ rfl
      · rw [cut, List.length_append, List.length_cons]
        omega
      · rw [split, cut, List.append_assoc, List.cons_append]
    have same : linkedText pieces = Piece.join starred before ++
        '*' :: (content ++ '*' :: Piece.join starred after) := by
      rw [← whole, split, Piece.join_append, Piece.join_cons]
      simp [Piece.text, starred]
    have written : Piece.join emElement parts = Piece.join emElement before ++
        (emElement content ++ Piece.join emElement after) := by
      rw [split, Piece.join_append, Piece.join_cons]
      rfl
    have reads := markup_iff_read.mp markup
    rw [written] at reads
    obtain ⟨reader, front, behind⟩ := Reader.exists_read_of_append reads
    obtain ⟨later, goesOn, -⟩ := Reader.exists_read_of_append behind
    rw [read_join bare earlier] at front
    exact covers_of_read bare same front goesOn

/-- A citation in prose is formatted as markup exactly when it keeps its links. -/
theorem markup_formatPlain_iff : Markup (formatPlain raw) ↔ KeepsLinks (linkPieces raw) := by
  have bare := barePieces_linkPieces raw
  have written : formatPlain raw =
      Piece.join emElement (Scanner.pieces plainEmphasis? (linkedText (linkPieces raw))) := rfl
  have whole : Piece.join starred (Scanner.pieces plainEmphasis? (linkedText (linkPieces raw))) =
      linkedText (linkPieces raw) := by
    rw [← Scanner.replaceAll_eq_join]
    exact Scanner.replaceAll_eq_self (fun _ _ _ => eq_of_plainEmphasis?) _
  rw [written]
  constructor
  · intro markup
    exact covers_of_markup bare whole markup
  · intro keeps
    rw [markup_iff_read, read_join bare keeps, whole]
    exact Reader.read_markup (markup_linkedText bare) []

/-- **Formatted citations are markup** exactly when they are entries, or each emphasis stands
around whole links or in the text of one. -/
theorem markup_format_iff (formatted : format raw = .ok html) :
    Markup html ↔ Bibtex.isEntry raw = true ∨ KeepsLinks (linkPieces raw) := by
  unfold format at formatted
  split at formatted
  case isTrue entry =>
    split at formatted
    · rename_i parsed _
      cases formatted
      exact iff_of_true (markup_formatEntry parsed) (.inl entry)
    · cases formatted
  case isFalse other =>
    cases formatted
    rw [markup_formatPlain_iff]
    exact (or_iff_right other).symm

/-- A citation with emphasis around a link and in the text of another. -/
def emphasisedLinks : Text :=
  "*See [a](b)*, [On *Truth*](c).".toList

/-- The HTML of this citation. -/
def emphasisedLinksHtml : Text :=
  "<em>See <a href=\"b\">a</a></em>, <a href=\"c\">On <em>Truth</em></a>.".toList

/-- Whether the HTML of this citation is markup is told by its links. -/
theorem markup_format_emphasisedLinks :
    format emphasisedLinks = .ok emphasisedLinksHtml ∧
    (Markup emphasisedLinksHtml ↔
      Bibtex.isEntry emphasisedLinks = true ∨ KeepsLinks (linkPieces emphasisedLinks)) := by
  have formatted : format emphasisedLinks = .ok emphasisedLinksHtml := by decide +kernel
  exact ⟨formatted, markup_format_iff formatted⟩

/-- An asterisk in each of two destinations: the emphasis between them begins and ends inside of
the values of attributes. -/
theorem not_markup_format_destinations :
    format "[a](b*c) [d](e*f)".toList =
      .ok "<a href=\"b<em>c\">a</a> <a href=\"e</em>f\">d</a>".toList ∧
    ¬ Markup "<a href=\"b<em>c\">a</a> <a href=\"e</em>f\">d</a>".toList := by
  decide +kernel

end Scriptorium.Citation
