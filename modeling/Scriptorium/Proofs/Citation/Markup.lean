import Scriptorium.Citation.Format
import Scriptorium.Proofs.Html.Escape
import Scriptorium.Proofs.Text.Split
/-! # The markup of citations

Formatted citations are to be made of bare text and of two elements, links and emphasis,
that are closed in the order they nest (`Citation.Markup`). A reader that goes through a text
once, with the elements that are open and what it has read of a tag, tells which texts are
(`Citation.markup_iff_read`).
-/

namespace Scriptorium.Citation

/-- HTML of bare text, links and emphasis: each element is closed behind all that is
opened inside of it, and the destinations of links are bare. -/
inductive Markup : Text → Prop
  | nil : Markup []
  | plain {c : Char} {rest : Text} : c ∉ Html.markupChars → Markup rest → Markup (c :: rest)
  | link {destination content rest : Text} : Html.IsBare destination → Markup content →
      Markup rest → Markup (anchorElement destination content ++ rest)
  | emphasis {content rest : Text} : Markup content → Markup rest →
      Markup (emElement content ++ rest)

variable {s front behind content destination tag : Text} {c : Char}

namespace Markup

/-- Bare text is markup. -/
theorem of_isBare (bare : Html.IsBare s) : Markup s := by
  induction s with
  | nil => exact .nil
  | cons c s ih =>
    obtain ⟨here, later⟩ := List.forall_mem_cons.mp bare
    exact .plain here (ih later)

/-- Markup behind markup is markup. -/
theorem append (first : Markup front) (second : Markup behind) : Markup (front ++ behind) := by
  induction first with
  | nil => exact second
  | plain ordinary _ ih => exact .plain ordinary ih
  | link bare within _ _ ih =>
    rw [List.append_assoc]
    exact .link bare within ih
  | emphasis within _ _ ih =>
    rw [List.append_assoc]
    exact .emphasis within ih

/-- A link around markup is markup, if its destination is bare. -/
theorem anchorElement (bare : Html.IsBare destination) (within : Markup content) :
    Markup (anchorElement destination content) := by
  rw [← List.append_nil (Citation.anchorElement destination content)]
  exact .link bare within .nil

/-- Emphasized markup is markup. -/
theorem emElement (within : Markup content) : Markup (emElement content) := by
  rw [← List.append_nil (Citation.emElement content)]
  exact .emphasis within .nil

/-- Pieces that are written as markup are markup together. -/
theorem flatMap {α : Type} {parts : List α} {written : α → Text}
    (each : ∀ part ∈ parts, Markup (written part)) : Markup (parts.flatMap written) := by
  induction parts with
  | nil => exact .nil
  | cons part parts ih =>
    obtain ⟨here, later⟩ := List.forall_mem_cons.mp each
    rw [List.flatMap_cons]
    exact here.append (ih later)

end Markup

/-! ## Tags -/

/-- What stands in the opening tag of a link before its destination. -/
def linkLead : Text := "a href=\"".toList

/-- What stands in the opening tag of a link. -/
def linkTag (destination : Text) : Text :=
  linkLead ++ (destination ++ ['"'])

/-- A tag, from what stands in it. -/
def tagText (tag : Text) : Text :=
  '<' :: (tag ++ ['>'])

/-- The opening tag of a link. -/
def linkOpening (destination : Text) : Text :=
  tagText (linkTag destination)

/-- The closing tag of a link. -/
def linkClosing : Text := "</a>".toList

/-- The opening tag of emphasis. -/
def emOpening : Text := "<em>".toList

/-- The closing tag of emphasis. -/
def emClosing : Text := "</em>".toList

/-- No tag begins or ends in a text. -/
def Tagless (s : Text) : Prop :=
  ∀ c ∈ s, c ≠ '<' ∧ c ≠ '>'

/-- Text without angle brackets stays so with such text behind it. -/
theorem Tagless.append (first : Tagless front) (second : Tagless behind) :
    Tagless (front ++ behind) :=
  fun c member => (List.mem_append.mp member).elim (first c) (second c)

/-- Bare text has no angle brackets. -/
theorem tagless_of_isBare (bare : Html.IsBare s) : Tagless s :=
  fun c member =>
    ⟨fun same => bare c member (Html.mem_markupChars_iff.mpr (.inl same)),
      fun same => bare c member (Html.mem_markupChars_iff.mpr (.inr (.inl same)))⟩

/-- The start of a link is written without angle brackets, but for its own. -/
theorem tagless_linkLead : Tagless linkLead := by
  unfold Tagless linkLead
  simp

private theorem tagless_linkTag (bare : Html.IsBare destination) : Tagless (linkTag destination) :=
  tagless_linkLead.append ((tagless_of_isBare bare).append (by simp [Tagless]))

/-- A link is its opening tag, what it holds, and its closing tag. -/
theorem anchorElement_eq (destination content : Text) :
    anchorElement destination content = linkOpening destination ++ (content ++ linkClosing) := by
  unfold anchorElement linkOpening tagText linkTag linkLead linkClosing
  simp

/-- An emphasized text is its opening tag, what it holds, and its closing tag. -/
theorem emElement_eq (content : Text) :
    emElement content = emOpening ++ (content ++ emClosing) :=
  List.append_assoc emOpening content emClosing

/-! ## Reading markup -/

/-- The elements of formatted citations. -/
inductive Element where
  | link
  | emphasis
  deriving DecidableEq, Repr

/-- How far a text was read: the elements that are open, the innermost first, and inside of a
tag what was read of it. -/
structure Reader where
  opened : List Element
  tag : Option Text
  deriving DecidableEq, Repr

/-- The destination of a link from what stands in its opening tag. -/
def linkDestination? (tag : Text) : Option Text := do
  let rest ← Text.dropStart? linkLead tag
  let destination ← Text.dropEnd? ['"'] rest
  if Html.IsBare destination then some destination else none

/-- The elements that stay open when one is closed, which must be the innermost. -/
def closeElement (element : Element) : List Element → Option (List Element)
  | [] => none
  | innermost :: outer => if innermost = element then some outer else none

/-- The elements that are open behind a tag. -/
def afterTag (opened : List Element) (tag : Text) : Option (List Element) :=
  if tag = "em".toList then some (.emphasis :: opened)
  else if tag = "/em".toList then closeElement .emphasis opened
  else if tag = "/a".toList then closeElement .link opened
  else (linkDestination? tag).map fun _ => .link :: opened

namespace Reader

/-- Before anything was read. -/
def start : Reader :=
  ⟨[], none⟩

/-- Reads one character: outside of tags one that is plain or begins a tag, and in a tag one
that ends it or goes on. -/
def step (reader : Reader) (c : Char) : Option Reader :=
  match reader.tag with
  | none =>
    if c = '<' then some ⟨reader.opened, some []⟩
    else if c ∈ Html.markupChars then none
    else some reader
  | some tag =>
    if c = '>' then (afterTag reader.opened tag).map fun opened => ⟨opened, none⟩
    else if c = '<' then none
    else some ⟨reader.opened, some (tag ++ [c])⟩

/-- Reads a text. -/
def read (reader : Reader) (s : Text) : Option Reader :=
  s.foldlM step reader

variable {reader later : Reader} {opened outer : List Element} {element : Element}

private theorem read_nil (reader : Reader) : reader.read [] = some reader :=
  rfl

private theorem read_cons (reader : Reader) (c : Char) (s : Text) :
    reader.read (c :: s) = (reader.step c).bind fun later => later.read s :=
  List.foldlM_cons

/-- Two texts are read one after the other. -/
theorem read_append (reader : Reader) (front behind : Text) :
    reader.read (front ++ behind) = (reader.read front).bind fun later => later.read behind :=
  List.foldlM_append

/-- A text behind one that has been read is read from where the first one led. -/
theorem read_append_of_some (first : reader.read front = some later) (behind : Text) :
    reader.read (front ++ behind) = later.read behind := by
  rw [read_append, first, Option.bind_some]

/-- What begins a text that is read is read. -/
theorem exists_read_of_append (whole : reader.read (front ++ behind) = some later) :
    ∃ between, reader.read front = some between ∧ between.read behind = some later := by
  rw [read_append] at whole
  exact Option.bind_eq_some_iff.mp whole

private theorem step_plain (ordinary : c ∉ Html.markupChars) (opened : List Element) :
    step ⟨opened, none⟩ c = some ⟨opened, none⟩ := by
  have other : c ≠ '<' := fun same => ordinary (Html.mem_markupChars_iff.mpr (.inl same))
  simp only [step, other, ordinary, ↓reduceIte]

/-- Bare text neither opens nor closes elements. -/
theorem read_bare (bare : Html.IsBare s) (opened : List Element) :
    read ⟨opened, none⟩ s = some ⟨opened, none⟩ := by
  induction s with
  | nil => rfl
  | cons c s ih =>
    obtain ⟨here, rest⟩ := List.forall_mem_cons.mp bare
    rw [read_cons, step_plain here, Option.bind_some, ih rest]

/-- In a tag the reader collects what stands in it. -/
theorem read_inTag (inside : Tagless s) (opened : List Element) (tag : Text) :
    read ⟨opened, some tag⟩ s = some ⟨opened, some (tag ++ s)⟩ := by
  induction s generalizing tag with
  | nil => rw [read_nil, List.append_nil]
  | cons c s ih =>
    obtain ⟨⟨noBegin, noEnd⟩, rest⟩ := List.forall_mem_cons.mp inside
    rw [read_cons]
    simp only [step, noBegin, noEnd, ↓reduceIte, Option.bind_some]
    rw [ih rest, List.append_assoc, List.singleton_append]

/-- An angle bracket begins a tag, in which text without angle brackets is read. -/
theorem read_beginTag (inside : Tagless s) (opened : List Element) :
    read ⟨opened, none⟩ ('<' :: s) = some ⟨opened, some s⟩ := by
  have begins : read ⟨opened, none⟩ ['<'] = some ⟨opened, some []⟩ := rfl
  rw [← List.singleton_append, read_append_of_some begins, read_inTag inside, List.nil_append]

/-- A tag opens or closes an element. -/
theorem read_tag (tag : Text) (inside : Tagless tag) (opened : List Element) :
    read ⟨opened, none⟩ (tagText tag) =
      (afterTag opened tag).map fun opened => ⟨opened, none⟩ := by
  rw [tagText, ← List.cons_append, read_append_of_some (read_beginTag inside opened), read_cons]
  simp only [step, ↓reduceIte]
  cases afterTag opened tag <;> rfl

private theorem linkDestination?_linkTag (bare : Html.IsBare destination) :
    linkDestination? (linkTag destination) = some destination := by
  have lead : Text.dropStart? linkLead (linkTag destination) = some (destination ++ ['"']) := by
    rw [Text.dropStart?_eq_some_iff, linkTag]
  simp only [linkDestination?, lead, Option.bind_eq_bind, Option.bind_some, Text.dropEnd?_append,
    bare, ↓reduceIte]

private theorem afterTag_linkTag (bare : Html.IsBare destination) (opened : List Element) :
    afterTag opened (linkTag destination) = some (.link :: opened) := by
  have blank : ' ' ∈ linkTag destination := by
    unfold linkTag linkLead
    simp
  have other : ∀ tag : Text, ' ' ∉ tag → linkTag destination ≠ tag :=
    fun tag absent same => absent (same ▸ blank)
  rw [afterTag, if_neg (other _ (by simp)), if_neg (other _ (by simp)), if_neg (other _ (by simp)),
    linkDestination?_linkTag bare, Option.map_some]

/-- The opening tag of a link opens a link. -/
theorem read_linkOpening (bare : Html.IsBare destination) (opened : List Element) :
    read ⟨opened, none⟩ (linkOpening destination) = some ⟨.link :: opened, none⟩ := by
  rw [linkOpening, read_tag _ (tagless_linkTag bare), afterTag_linkTag bare, Option.map_some]

/-- The opening tag of emphasized text opens an emphasis. -/
theorem read_emOpening (opened : List Element) :
    read ⟨opened, none⟩ emOpening = some ⟨.emphasis :: opened, none⟩ :=
  read_tag ['e', 'm'] (by simp [Tagless]) opened

/-- The closing tag of emphasized text closes the innermost emphasis, if one can be closed. -/
theorem read_emClosing (opened : List Element) :
    read ⟨opened, none⟩ emClosing =
      (closeElement .emphasis opened).map fun outer => ⟨outer, none⟩ :=
  read_tag ['/', 'e', 'm'] (by simp [Tagless]) opened

/-- The closing tag of a link closes the innermost link, if one can be closed. -/
theorem read_linkClosing (opened : List Element) :
    read ⟨opened, none⟩ linkClosing =
      (closeElement .link opened).map fun outer => ⟨outer, none⟩ :=
  read_tag ['/', 'a'] (by simp [Tagless]) opened

private theorem closeElement_self (element : Element) (opened : List Element) :
    closeElement element (element :: opened) = some opened :=
  if_pos rfl

/-- **Markup closes what it opens.** -/
theorem read_markup (markup : Markup s) (opened : List Element) :
    read ⟨opened, none⟩ s = some ⟨opened, none⟩ := by
  induction markup generalizing opened with
  | nil => rfl
  | plain ordinary _ ih => rw [read_cons, step_plain ordinary, Option.bind_some, ih]
  | link bare _ _ ihContent ih =>
    rw [anchorElement_eq, List.append_assoc, read_append_of_some (read_linkOpening bare opened),
      List.append_assoc, read_append_of_some (ihContent _), read_append, read_linkClosing,
      closeElement_self]
    exact ih opened
  | emphasis _ _ ihContent ih =>
    rw [emElement_eq, List.append_assoc, read_append_of_some (read_emOpening opened),
      List.append_assoc, read_append_of_some (ihContent _), read_append, read_emClosing,
      closeElement_self]
    exact ih opened

end Reader

/-! ## What was read is markup -/

/-- Markup up to a place where elements are open, the innermost first. -/
inductive Opened : List Element → Text → Prop
  | base {s : Text} : Markup s → Opened [] s
  | link {outer : List Element} {front destination content : Text} : Opened outer front →
      Html.IsBare destination → Markup content →
      Opened (.link :: outer) (front ++ (linkOpening destination ++ content))
  | emphasis {outer : List Element} {front content : Text} : Opened outer front →
      Markup content → Opened (.emphasis :: outer) (front ++ (emOpening ++ content))

variable {opened outer : List Element} {element : Element} {reader later : Reader}

/-- Markup behind text that leaves elements open leaves the same ones open. -/
theorem Opened.append (first : Opened opened front) (second : Markup behind) :
    Opened opened (front ++ behind) := by
  cases first with
  | base markup => exact .base (markup.append second)
  | link outer bare within =>
    rw [List.append_assoc, List.append_assoc]
    exact .link outer bare (within.append second)
  | emphasis outer within =>
    rw [List.append_assoc, List.append_assoc]
    exact .emphasis outer (within.append second)

private theorem closeElement_eq_some (closes : closeElement element opened = some outer) :
    opened = element :: outer := by
  cases opened with
  | nil => cases closes
  | cons innermost rest =>
    rw [closeElement, Option.ite_none_right_eq_some] at closes
    obtain ⟨rfl, same⟩ := closes
    rw [Option.some.inj same]

private theorem linkDestination?_eq_some (found : linkDestination? tag = some destination) :
    tag = linkTag destination ∧ Html.IsBare destination := by
  rw [linkDestination?, Option.bind_eq_bind, Option.bind_eq_some_iff] at found
  obtain ⟨rest, lead, found⟩ := found
  obtain ⟨value, cut, found⟩ := Option.bind_eq_some_iff.mp found
  rw [Option.ite_none_right_eq_some] at found
  obtain ⟨bare, same⟩ := found
  rw [← Option.some.inj same, linkTag, ← Text.eq_of_dropEnd?_eq_some cut]
  exact ⟨Text.dropStart?_eq_some_iff.mp lead, bare⟩

/-- Behind a tag the elements are open that the tag leaves open. -/
theorem Opened.behind_tag (first : Opened opened front)
    (leaves : afterTag opened tag = some outer) : Opened outer (front ++ tagText tag) := by
  unfold afterTag at leaves
  split at leaves
  case isTrue same =>
    subst same
    cases leaves
    exact .emphasis first .nil
  -- A closing tag makes an element of what was read since its opening tag.
  split at leaves
  case isTrue same =>
    subst same
    obtain rfl := closeElement_eq_some leaves
    cases first with
    | @emphasis _ front content within markup =>
      have closed := within.append (.emElement markup)
      rw [emElement_eq] at closed
      rw [List.append_assoc front, List.append_assoc emOpening]
      exact closed
  split at leaves
  case isTrue same =>
    subst same
    obtain rfl := closeElement_eq_some leaves
    cases first with
    | @link _ front destination content within bare markup =>
      have closed := within.append (.anchorElement bare markup)
      rw [anchorElement_eq] at closed
      rw [List.append_assoc front, List.append_assoc (linkOpening destination)]
      exact closed
  obtain ⟨destination, found, rfl⟩ := Option.map_eq_some_iff.mp leaves
  obtain ⟨rfl, bare⟩ := linkDestination?_eq_some found
  have opening := Opened.link first bare .nil
  rwa [List.append_nil] at opening

namespace Reader

/-- What a reader that has read a text knows of it. -/
def HasRead (reader : Reader) (s : Text) : Prop :=
  match reader.tag with
  | none => Opened reader.opened s
  | some tag => ∃ front, s = front ++ '<' :: tag ∧ Opened reader.opened front

/-- What one character more makes of what was read. -/
theorem HasRead.step (before : reader.HasRead s) (steps : reader.step c = some later) :
    later.HasRead (s ++ [c]) := by
  obtain ⟨opened, tag⟩ := reader
  cases tag with
  | none =>
    change Opened opened s at before
    simp only [Reader.step] at steps
    split at steps
    case isTrue same =>
      subst same
      cases steps
      exact ⟨s, rfl, before⟩
    split at steps
    case isTrue => cases steps
    case isFalse ordinary =>
      cases steps
      exact before.append (.plain ordinary .nil)
  | some tag =>
    obtain ⟨front, rfl, before⟩ := before
    simp only [Reader.step] at steps
    split at steps
    case isTrue same =>
      subst same
      obtain ⟨outer, leaves, rfl⟩ := Option.map_eq_some_iff.mp steps
      have behind := before.behind_tag leaves
      rw [List.append_assoc]
      exact behind
    split at steps
    case isTrue => cases steps
    case isFalse =>
      cases steps
      exact ⟨front, by rw [List.append_assoc, List.cons_append], before⟩

/-- What has been read in front of a text has been read in front of its end too. -/
theorem HasRead.read (before : reader.HasRead front) (reads : reader.read s = some later) :
    later.HasRead (front ++ s) := by
  induction s generalizing reader front with
  | nil =>
    cases reads
    rwa [List.append_nil]
  | cons c s ih =>
    rw [read_cons] at reads
    obtain ⟨between, steps, reads⟩ := Option.bind_eq_some_iff.mp reads
    have whole := ih (before.step steps) reads
    rwa [List.append_assoc, List.singleton_append] at whole

end Reader

/-- **Markup is what can be read with nothing left open.** -/
theorem markup_iff_read : Markup s ↔ Reader.start.read s = some Reader.start := by
  constructor
  · intro markup
    exact Reader.read_markup markup []
  · intro reads
    have begun : Reader.start.HasRead [] := Opened.base .nil
    cases begun.read reads with
    | base markup => exact markup

instance (s : Text) : Decidable (Markup s) :=
  decidable_of_iff _ markup_iff_read.symm

end Scriptorium.Citation
