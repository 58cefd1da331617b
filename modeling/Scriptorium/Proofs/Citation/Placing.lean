import Scriptorium.Proofs.Citation.Links
/-! # Placing the bibliography

A bibliography takes the place of the first section headed Bibliography, up to the next
heading, or stands at the end of the page on a line of its own. Where its entries open no
section it is found again as a whole: no heading reaches across its ends
(`NoneBegins.replace`), its own heading is the first one, and no section begins in it
(`Citation.noneBegins_bibliography`). So placing it again changes nothing
(`Citation.attach_bibliography`).
-/

namespace Scriptorium

/-! ## The first of some words -/

/-- None of some words begins in the front of a text that goes on with `rest`. -/
def NoneBegins (words : List Text) (front rest : Text) : Prop :=
  ∀ tail, tail ≠ [] → tail <:+ front → ∀ word ∈ words, ¬ word <+: tail ++ rest

namespace NoneBegins

variable {words : List Text} {front rest other lead : Text} {c : Char}

/-- Nothing begins in the empty text. -/
theorem nil (words : List Text) (rest : Text) : NoneBegins words [] rest :=
  fun _ nonempty suffix => absurd (List.suffix_nil.mp suffix) nonempty

/-- Nothing begins in a text when nothing begins at its first character and nothing behind it. -/
theorem cons (here : ∀ word ∈ words, ¬ word <+: c :: (front ++ rest))
    (later : NoneBegins words front rest) : NoneBegins words (c :: front) rest := by
  intro tail nonempty suffix
  rcases List.suffix_cons_iff.mp suffix with rfl | suffix
  · exact here
  · exact later tail nonempty suffix

/-- Words that a text does not hold begin in none of it before a character that is in none of
them. -/
theorem of_absent (absent : ∀ word ∈ words, ¬ word <:+: front) (apart : ∀ word ∈ words, c ∉ word)
    (rest : Text) : NoneBegins words (front ++ [c]) rest := by
  intro tail nonempty suffix word member start
  rcases List.suffix_concat_iff.mp suffix with rfl | ⟨part, rfl, within⟩
  · exact nonempty rfl
  · rw [List.append_assoc, List.singleton_append,
      Text.prefix_append_cons_iff (apart word member)] at start
    exact absent word member (start.isInfix.trans within.isInfix)

/-- What a text goes on with may be replaced, where no word goes on like the new one. -/
theorem replace (begins : NoneBegins words front rest) (opens : lead <+: other)
    (apart : ∀ word ∈ words, ∀ n < word.length, 0 < n →
      ¬ word.drop n <+: lead ∧ ¬ lead <+: word.drop n) : NoneBegins words front other := by
  intro tail nonempty suffix word member start
  rcases List.prefix_or_prefix_of_prefix start (List.prefix_append tail other) with
    inside | ⟨more, rfl⟩
  · exact begins tail nonempty suffix word member (inside.trans (List.prefix_append tail rest))
  · rw [List.prefix_append_right_inj] at start
    by_cases last : more = []
    · subst last
      rw [List.append_nil] at member
      exact begins tail nonempty suffix tail member (List.prefix_append tail rest)
    · have split := apart _ member tail.length (by simp [List.length_pos_iff, last])
        (List.length_pos_iff.mpr nonempty)
      rw [List.drop_left] at split
      rcases List.prefix_or_prefix_of_prefix start opens with early | late
      · exact split.1 early
      · exact split.2 late

end NoneBegins

namespace Scanner

variable {α : Type} {scan : Scanner α} {front rest before after s : Text} {value : α}

private theorem find?_of_some (read : scan s = some (value, rest)) :
    find? scan s = some ([], value, rest) := by
  cases s with
  | nil => rw [find?, read, Option.map_some]
  | cons c cs => rw [find?, read]

/-- The first match of a text is found behind a front in which none starts. -/
theorem find?_append (absent : ∀ tail, tail ≠ [] → tail <:+ front → scan (tail ++ rest) = none)
    (read : scan rest = some (value, after)) :
    find? scan (front ++ rest) = some (front, value, after) := by
  induction front with
  | nil => exact find?_of_some read
  | cons c front ih =>
    have here := absent (c :: front) (List.cons_ne_nil c front) List.suffix_rfl
    rw [List.cons_append] at here ⊢
    rw [find?, here, ih fun tail nonempty suffix =>
      absent tail nonempty (suffix.trans (List.suffix_cons c front)), Option.map_some]

/-- What is found first is read off the text, and nothing is read before it. -/
theorem find?_eq_some (found : find? scan s = some (before, value, after)) :
    ∃ rest, s = before ++ rest ∧ scan rest = some (value, after) ∧
      ∀ tail, tail ≠ [] → tail <:+ before → scan (tail ++ rest) = none := by
  induction s generalizing before with
  | nil =>
    obtain ⟨_, read, same⟩ := Option.map_eq_some_iff.mp found
    cases same
    exact ⟨[], rfl, read, fun _ nonempty suffix => absurd (List.suffix_nil.mp suffix) nonempty⟩
  | cons c cs ih =>
    rw [find?] at found
    split at found
    · rename_i read
      cases found
      exact ⟨c :: cs, rfl, read,
        fun _ nonempty suffix => absurd (List.suffix_nil.mp suffix) nonempty⟩
    · rename_i none
      obtain ⟨⟨front, other, behind⟩, later, same⟩ := Option.map_eq_some_iff.mp found
      cases same
      obtain ⟨rest, rfl, read, absent⟩ := ih later
      refine ⟨rest, rfl, read, fun tail nonempty suffix => ?_⟩
      rcases List.suffix_cons_iff.mp suffix with rfl | suffix
      · exact none
      · exact absent tail nonempty suffix

/-- Where nothing is found nothing can be read. -/
theorem scan_of_find?_eq_none (missing : find? scan (front ++ s) = none) : scan s = none := by
  induction front with
  | nil =>
    cases read : scan s with
    | none => rfl
    | some found =>
      rw [List.nil_append, find?_of_some read] at missing
      cases missing
  | cons c front ih =>
    rw [List.cons_append, find?] at missing
    split at missing
    · cases missing
    · exact ih (Option.map_eq_none_iff.mp missing)

end Scanner

namespace Citation

variable {s rest html front before heading after content : Text} {table : CitationTable}

/-! ## Headings -/

/-- The heading of a section headed Bibliography, opened and closed on some levels. -/
def bibliographyHeading (opening closing : Char) : Text :=
  "<h".toList ++ opening :: (" id=\"bibliography\">Bibliography</h".toList ++ [closing, '>'])

/-- The headings of a section headed Bibliography. -/
def headings : List Text :=
  [bibliographyHeading '2' '2', bibliographyHeading '2' '3', bibliographyHeading '3' '2',
    bibliographyHeading '3' '3']

/-- How the heading of a section is opened. -/
def sectionTags : List Text :=
  ["<h2 ".toList, "<h2>".toList, "<h3 ".toList, "<h3>".toList]

private theorem bibliographyHeading_append (opening closing : Char) (rest : Text) :
    bibliographyHeading opening closing ++ rest = "<h".toList ++
      opening :: (" id=\"bibliography\">Bibliography</h".toList ++ closing :: (['>'] ++ rest)) := by
  rw [bibliographyHeading, List.append_assoc, List.cons_append, List.append_assoc]
  rfl

private theorem sectionLevel?_eq_some_iff :
    sectionLevel? s = some ((), rest) ↔ s = '2' :: rest ∨ s = '3' :: rest := by
  constructor
  · intro read
    unfold sectionLevel? at read
    split at read <;> cases read <;> simp
  · rintro (rfl | rfl) <;> rfl

private theorem bibliographyHeading?_append {opening closing : Char}
    (opens : opening = '2' ∨ opening = '3') (closes : closing = '2' ∨ closing = '3') (rest : Text) :
    bibliographyHeading? (bibliographyHeading opening closing ++ rest) = some ((), rest) := by
  have level {c : Char} (listed : c = '2' ∨ c = '3') (rest : Text) :
      sectionLevel? (c :: rest) = some ((), rest) := by
    rcases listed with rfl | rfl <;> rfl
  rw [bibliographyHeading?, bibliographyHeading_append]
  simp only [Option.bind_eq_bind, Scanner.literal_append, Option.bind_some, level opens,
    level closes]

/-- A heading of a bibliography is one of those listed, whatever follows it. -/
theorem bibliographyHeading?_eq_some_iff :
    bibliographyHeading? s = some ((), rest) ↔ ∃ heading ∈ headings, s = heading ++ rest := by
  constructor
  · intro read
    simp only [bibliographyHeading?, Option.bind_eq_bind, Option.bind_eq_some_iff,
      Prod.exists] at read
    obtain ⟨_, _, lead, _, _, opens, _, _, text, _, _, closes, last⟩ := read
    obtain rfl := Scanner.literal_eq_some_iff.mp lead
    obtain rfl := Scanner.literal_eq_some_iff.mp text
    obtain rfl := Scanner.literal_eq_some_iff.mp last
    rcases sectionLevel?_eq_some_iff.mp opens with rfl | rfl <;>
      rcases sectionLevel?_eq_some_iff.mp closes with rfl | rfl <;>
      exact ⟨_, by simp [headings], (bibliographyHeading_append _ _ rest).symm⟩
  · rintro ⟨heading, member, rfl⟩
    simp only [headings, List.mem_cons, List.not_mem_nil, or_false] at member
    rcases member with rfl | rfl | rfl | rfl <;>
      exact bibliographyHeading?_append (by decide) (by decide) rest

/-- A section starts with one of the tags listed. -/
theorem startsSection_iff : startsSection s = true ↔ ∃ tag ∈ sectionTags, tag <+: s := by
  constructor
  · intro starts
    unfold startsSection at starts
    split at starts
    · rename_i c rest read
      obtain ⟨⟨_, behind⟩, lead, level⟩ := Option.bind_eq_some_iff.mp read
      obtain rfl := Scanner.literal_eq_some_iff.mp lead
      have ending : c = ' ' ∨ c = '>' := by simpa using starts
      rcases sectionLevel?_eq_some_iff.mp level with rfl | rfl <;> rcases ending with rfl | rfl
      · exact ⟨"<h2 ".toList, by decide, rest, rfl⟩
      · exact ⟨"<h2>".toList, by decide, rest, rfl⟩
      · exact ⟨"<h3 ".toList, by decide, rest, rfl⟩
      · exact ⟨"<h3>".toList, by decide, rest, rfl⟩
    · cases starts
  · rintro ⟨tag, member, rest, rfl⟩
    simp only [sectionTags, List.mem_cons, List.not_mem_nil, or_false] at member
    rcases member with rfl | rfl | rfl | rfl <;> rfl

/-- Whether a section ends in front of a text: it opens the next one, or nothing follows. -/
def EndsSection (s : Text) : Prop :=
  s = [] ∨ ∃ tag ∈ sectionTags, tag <+: s

/-- The next section begins at the first of the tags, or where the page ends. -/
theorem exists_fromNextSection (s : Text) :
    ∃ skipped, s = skipped ++ fromNextSection s ∧
      NoneBegins sectionTags skipped (fromNextSection s) ∧ EndsSection (fromNextSection s) := by
  induction s with
  | nil => exact ⟨[], rfl, .nil _ _, .inl rfl⟩
  | cons c cs ih =>
    rw [fromNextSection]
    split
    · rename_i starts
      exact ⟨[], rfl, .nil _ _, .inr (startsSection_iff.mp starts)⟩
    · rename_i other
      obtain ⟨skipped, whole, none, ending⟩ := ih
      refine ⟨c :: skipped, congrArg (c :: ·) whole, .cons (fun tag member opens => other ?_) none,
        ending⟩
      rw [← whole] at opens
      exact startsSection_iff.mpr ⟨tag, member, opens⟩

/-- What no section begins in is passed over up to the next one. -/
theorem fromNextSection_append (none : NoneBegins sectionTags front rest)
    (ending : EndsSection rest) : fromNextSection (front ++ rest) = rest := by
  induction front with
  | nil =>
    rw [List.nil_append]
    rcases ending with rfl | starts
    · rfl
    · obtain ⟨c, cs, rfl⟩ : ∃ c cs, rest = c :: cs := by
        refine List.exists_cons_of_ne_nil ?_
        rintro rfl
        exact absurd (startsSection_iff.mpr starts) (by decide)
      rw [fromNextSection, if_pos (startsSection_iff.mpr starts)]
  | cons c front ih =>
    have here : ¬ startsSection (c :: (front ++ rest)) = true := by
      rw [startsSection_iff]
      rintro ⟨tag, member, opens⟩
      exact none (c :: front) (List.cons_ne_nil c front) List.suffix_rfl tag member opens
    rw [List.cons_append, fromNextSection, if_neg here]
    exact ih fun tail nonempty suffix =>
      none tail nonempty (suffix.trans (List.suffix_cons c front))

/-! ## Attaching -/

variable {entries : Text}

/-- A page is cut around its first section headed Bibliography: in front of the heading, and
where the next section is opened behind it. -/
def CutAround (html before rest : Text) : Prop :=
  ∃ heading ∈ headings, ∃ skipped, html = before ++ (heading ++ (skipped ++ rest)) ∧
    NoneBegins headings before (heading ++ (skipped ++ rest)) ∧
    NoneBegins sectionTags skipped rest ∧ EndsSection rest

/-- A page with its last line ended. -/
def endLine (html : Text) : Text :=
  if html = [] ∨ html.getLast? = some '\n' then html else html ++ ['\n']

/-- Where there is a heading there is a first one. -/
theorem exists_cutAround (held : ∃ heading ∈ headings, heading <:+: html) :
    ∃ before rest, CutAround html before rest := by
  obtain ⟨heading, member, front, behind, rfl⟩ := held
  cases found : Scanner.find? bibliographyHeading? (front ++ heading ++ behind) with
  | none =>
    rw [List.append_assoc] at found
    have read :=
      bibliographyHeading?_eq_some_iff.mpr ⟨heading, member, (rfl : heading ++ behind = _)⟩
    rw [Scanner.scan_of_find?_eq_none found] at read
    cases read
  | some result =>
    obtain ⟨before, _, after⟩ := result
    obtain ⟨rest, whole, read, absent⟩ := Scanner.find?_eq_some found
    obtain ⟨other, listed, rfl⟩ := bibliographyHeading?_eq_some_iff.mp read
    obtain ⟨skipped, split, passed, ending⟩ := exists_fromNextSection after
    refine ⟨before, fromNextSection after, other, listed, skipped, by rwa [← split], ?_, passed,
      ending⟩
    rw [← split]
    rintro tail nonempty suffix word isWord ⟨more, start⟩
    have none := absent tail nonempty suffix
    rw [← start, bibliographyHeading?_eq_some_iff.mpr ⟨word, isWord, rfl⟩] at none
    cases none

/-- Entries take the place of those that stand around the cut. -/
theorem attach_of_cutAround (nonempty : entries ≠ []) (cut : CutAround html before rest) :
    attach html entries = before ++ (entries ++ rest) := by
  obtain ⟨heading, member, skipped, rfl, first, passed, ending⟩ := cut
  have found : Scanner.find? bibliographyHeading? (before ++ (heading ++ (skipped ++ rest))) =
      some (before, (), skipped ++ rest) := by
    refine Scanner.find?_append (fun tail nonempty suffix => ?_)
      (bibliographyHeading?_eq_some_iff.mpr ⟨heading, member, rfl⟩)
    cases read : bibliographyHeading? (tail ++ (heading ++ (skipped ++ rest))) with
    | none => rfl
    | some result =>
      obtain ⟨other, listed, same⟩ := bibliographyHeading?_eq_some_iff.mp read
      exact absurd ⟨_, same.symm⟩ (first tail nonempty suffix other listed)
  rw [attach, if_neg (by simpa using nonempty), found]
  dsimp only
  rw [fromNextSection_append passed ending, List.append_assoc]

/-- A page without a heading gets its entries at the end. -/
theorem attach_of_absent (nonempty : entries ≠ [])
    (absent : ∀ heading ∈ headings, ¬ heading <:+: html) :
    attach html entries = endLine html ++ entries := by
  have missing : Scanner.find? bibliographyHeading? html = none := by
    cases found : Scanner.find? bibliographyHeading? html with
    | none => rfl
    | some result =>
      obtain ⟨rest, rfl, read, -⟩ := Scanner.find?_eq_some found
      obtain ⟨heading, member, rfl⟩ := bibliographyHeading?_eq_some_iff.mp read
      exact absurd ⟨_, _, List.append_assoc ..⟩ (absent heading member)
  have ended : (html.isEmpty || Text.endsWith html ['\n']) = true ↔
      html = [] ∨ html.getLast? = some '\n' := by
    rw [Bool.or_eq_true, List.isEmpty_iff, Text.endsWith, List.isSuffixOf_iff_suffix,
      List.getLast?_eq_some_iff]
    exact or_congr_right ⟨fun ⟨front, whole⟩ => ⟨front, whole.symm⟩,
      fun ⟨front, whole⟩ => ⟨front, whole.symm⟩⟩
  rw [attach, if_neg (by simpa using nonempty), missing, endLine]
  simp only [ended]
  split
  · rfl
  · rw [List.append_assoc, List.singleton_append]

/-! ## The bibliography -/

/-- Whether a text holds no start of a heading of a section. -/
def OpensNoSection (s : Text) : Prop :=
  ∀ lead ∈ ["<h2".toList, "<h3".toList], ¬ lead <:+: s

instance (s : Text) : Decidable (OpensNoSection s) :=
  decidable_of_iff (∀ lead ∈ ["<h2".toList, "<h3".toList], Text.occursIn lead s = false) <| by
    simp only [OpensNoSection, ← Text.occursIn_iff, Bool.not_eq_true]

/-- No section opens in two texts with a sign between them that stands in no heading. -/
theorem OpensNoSection.cut {c : Char} (other : c ∉ "<h23".toList) (first : OpensNoSection front)
    (second : OpensNoSection rest) : OpensNoSection (front ++ c :: rest) := by
  intro lead member
  have apart : c ∉ lead := by
    have within : lead ⊆ "<h23".toList := by
      simp only [List.mem_cons, List.not_mem_nil, or_false] at member
      rcases member with rfl | rfl <;> decide
    exact fun held => other (within held)
  rw [Text.infix_append_cons_iff apart, not_or]
  exact ⟨first lead member, second lead member⟩

/-- No section opens in a text without angle brackets. -/
theorem OpensNoSection.of_not_mem (absent : '<' ∉ s) : OpensNoSection s := by
  intro lead member inside
  have opens : '<' ∈ lead := by
    simp only [List.mem_cons, List.not_mem_nil, or_false] at member
    rcases member with rfl | rfl <;> decide
  exact absent (inside.subset opens)

private theorem OpensNoSection.noneBegins (none : OpensNoSection front) (rest : Text) :
    NoneBegins sectionTags (front ++ ['\n']) rest := by
  have leads : ∀ tag ∈ sectionTags, '\n' ∉ tag ∧
      ∃ lead ∈ ["<h2".toList, "<h3".toList], lead <+: tag := by decide
  refine .of_absent (fun tag member inside => ?_) (fun tag member => (leads tag member).1) rest
  obtain ⟨-, lead, listed, opens⟩ := leads tag member
  exact none lead listed (opens.isInfix.trans inside)

/-- The content of a citation in its entry. -/
def shownContent (citation : Citation) : Text :=
  citation.formattedHtml.getD (Html.escape citation.rawContent)

/-- The entry of a citation opens no section, if its content opens none. -/
theorem opensNoSection_bibliographyItem {citation : Citation}
    (anchor : ∀ c ∈ citation.anchor, Anchor.isAnchorChar c = true)
    (content : OpensNoSection (shownContent citation)) (later : OpensNoSection rest) :
    OpensNoSection (bibliographyItem citation ++ rest) := by
  have plain : OpensNoSection citation.anchor :=
    .of_not_mem fun member => absurd (anchor '<' member) (by decide)
  have parts : bibliographyItem citation ++ rest = "<li id=\"citation".toList ++
      '-' :: (citation.anchor ++ '"' :: (" class=\"citation-entry\"".toList ++
        '>' :: (shownContent citation ++ ' ' :: ("<a href=\"#citation-ref".toList ++
          '-' :: (citation.anchor ++ '"' ::
            (" class=\"citation-backref\" title=\"Back to reference\">↩</a></li>".toList ++
              '\n' :: rest)))))) := by
    unfold bibliographyItem shownContent
    simp only [String.reduceToList, List.append_assoc, List.cons_append, List.nil_append]
  rw [parts]
  exact .cut (by decide) (by decide) (.cut (by decide) plain (.cut (by decide) (by decide)
    (.cut (by decide) content (.cut (by decide) (by decide) (.cut (by decide) plain
      (.cut (by decide) (by decide) later))))))

/-- A bibliography is a heading and entries that open no section. -/
theorem exists_bibliography_eq (nonempty : table.entries ≠ [])
    (anchors : ∀ citation ∈ table.entries, ∀ c ∈ citation.anchor, Anchor.isAnchorChar c = true)
    (contents : ∀ citation ∈ table.entries, OpensNoSection (shownContent citation)) :
    ∃ behind, bibliography table = bibliographyHeading '2' '2' ++ (behind ++ ['\n']) ∧
      OpensNoSection behind := by
  have items (entries : List Citation) (among : entries ⊆ table.entries) :
      OpensNoSection (entries.flatMap bibliographyItem ++ "</ol>\n</div>".toList) := by
    induction entries with
    | nil => decide
    | cons citation entries ih =>
      obtain ⟨here, later⟩ := List.cons_subset.mp among
      rw [List.flatMap_cons, List.append_assoc]
      exact opensNoSection_bibliographyItem (anchors _ here) (contents _ here) (ih later)
  refine ⟨"\n<div class=\"bibliography\">\n<ol>".toList ++
    '\n' :: (table.entries.flatMap bibliographyItem ++ "</ol>\n</div>".toList), ?_,
    .cut (by decide) (by decide) (items _ (List.Subset.refl _))⟩
  have written : table.isEmpty = false := by simpa [CitationTable.isEmpty] using nonempty
  rw [bibliography, written, bibliographyHeading_append]
  simp only [Bool.false_eq_true, ↓reduceIte, String.reduceToList, List.append_assoc,
    List.cons_append, List.nil_append]

/-! ## Placing it again -/

/-- A bibliography that is on a page is the first section headed Bibliography there, where none
begins in front of it. -/
theorem cutAround_placed (none : OpensNoSection content)
    (first : NoneBegins headings before
      (bibliographyHeading '2' '2' ++ (content ++ ['\n'] ++ rest))) (ending : EndsSection rest) :
    CutAround (before ++ (bibliographyHeading '2' '2' ++ (content ++ ['\n']) ++ rest))
      before rest :=
  ⟨bibliographyHeading '2' '2', by decide, content ++ ['\n'], by rw [List.append_assoc], first,
    none.noneBegins rest, ending⟩

private theorem noneBegins_endLine (absent : ∀ heading ∈ headings, ¬ heading <:+: html)
    (rest : Text) :
    NoneBegins headings (endLine html) rest := by
  have apart : ∀ heading ∈ headings, '\n' ∉ heading := by decide
  unfold endLine
  split
  · rename_i ended
    rcases ended with rfl | last
    · exact .nil _ _
    · obtain ⟨front, rfl⟩ := List.getLast?_eq_some_iff.mp last
      refine .of_absent (fun heading member inside => ?_) apart rest
      exact absent heading member (inside.trans (List.prefix_append front _).isInfix)
  · exact .of_absent absent apart rest

open CitationTable

/-- **Placing the bibliography.** It takes the place of the first section headed Bibliography,
up to where the next section is opened, or stands at the end on a line of its own. Placing it
again changes nothing. -/
theorem attach_bibliography (edits : List Edit) (html : Text)
    (nonempty : bibliography (afterEdits edits) ≠ [])
    (contents : ∀ citation ∈ (afterEdits edits).entries, ∀ content,
      citation.formattedHtml = some content → OpensNoSection content) :
    ((∃ heading ∈ headings, heading <:+: html) →
      ∃ before rest, CutAround html before rest ∧ attach html (bibliography (afterEdits edits)) =
        before ++ (bibliography (afterEdits edits) ++ rest)) ∧
    ((∀ heading ∈ headings, ¬ heading <:+: html) →
      attach html (bibliography (afterEdits edits)) =
        endLine html ++ bibliography (afterEdits edits)) ∧
    attach (attach html (bibliography (afterEdits edits))) (bibliography (afterEdits edits)) =
      attach html (bibliography (afterEdits edits)) := by
  have shown : ∀ citation ∈ (afterEdits edits).entries, OpensNoSection (shownContent citation) := by
    intro citation member
    unfold shownContent
    cases formatted : citation.formattedHtml with
    | some content => exact contents citation member content formatted
    | none => exact .of_not_mem (Html.not_mem_escape (by decide) _)
  have listed : (afterEdits edits).entries ≠ [] := by
    intro empty
    rw [bibliography, CitationTable.isEmpty, empty] at nonempty
    exact nonempty rfl
  obtain ⟨content, whole, none⟩ :=
    exists_bibliography_eq listed (isAnchorChar_afterEdits edits) shown
  rw [whole] at nonempty ⊢
  refine ⟨fun held => ?_, attach_of_absent nonempty, ?_⟩
  · obtain ⟨before, rest, cut⟩ := exists_cutAround held
    exact ⟨before, rest, cut, attach_of_cutAround nonempty cut⟩
  by_cases held : ∃ heading ∈ headings, heading <:+: html
  · obtain ⟨before, rest, cut⟩ := exists_cutAround held
    have ⟨heading, _, skipped, _, first, _, ending⟩ := cut
    have opens : "<h".toList <+: bibliographyHeading '2' '2' ++ (content ++ ['\n'] ++ rest) := by
      rw [bibliographyHeading_append]
      exact List.prefix_append _ _
    rw [attach_of_cutAround nonempty cut]
    exact attach_of_cutAround nonempty
      (cutAround_placed none (first.replace opens (by decide)) ending)
  · have absent : ∀ heading ∈ headings, ¬ heading <:+: html :=
      fun heading member inside => held ⟨heading, member, inside⟩
    have placed := attach_of_cutAround nonempty
      (cutAround_placed none (noneBegins_endLine absent _) (.inl rfl))
    rw [attach_of_absent nonempty absent]
    rwa [List.append_nil] at placed

/-- One citation, formatted. -/
def oneCitation : List Edit :=
  [.insert ['a'] "*A*".toList, .format format]

/-- A page with a bibliography from before, and a section behind it. -/
def pageBefore : Text :=
  "x<h2 id=\"bibliography\">Bibliography</h2>old<h3>y".toList

/-- The bibliography takes the place of the one from before, and keeps it. -/
theorem attach_bibliography_pageBefore :
    bibliography (afterEdits oneCitation) ≠ [] ∧
    (∀ citation ∈ (afterEdits oneCitation).entries, ∀ content,
      citation.formattedHtml = some content → OpensNoSection content) ∧
    (∃ heading ∈ headings, heading <:+: pageBefore) ∧
    (∃ before rest, CutAround pageBefore before rest ∧
      attach pageBefore (bibliography (afterEdits oneCitation)) =
        before ++ (bibliography (afterEdits oneCitation) ++ rest)) ∧
    attach (attach pageBefore (bibliography (afterEdits oneCitation)))
        (bibliography (afterEdits oneCitation)) =
      attach pageBefore (bibliography (afterEdits oneCitation)) := by
  have nonempty : bibliography (afterEdits oneCitation) ≠ [] := by decide
  have listed : (afterEdits oneCitation).entries =
      [⟨['a'], ['a'], "*A*".toList, 0, some "<em>A</em>".toList⟩] := by
    decide +kernel
  have contents : ∀ citation ∈ (afterEdits oneCitation).entries, ∀ content,
      citation.formattedHtml = some content → OpensNoSection content := by
    rw [listed]
    intro citation member content formatted
    rw [List.mem_singleton.mp member] at formatted
    cases formatted
    decide
  have held : ∃ heading ∈ headings, heading <:+: pageBefore :=
    ⟨_, List.mem_cons_self, ['x'], "old<h3>y".toList, rfl⟩
  have ⟨replaced, _, again⟩ := attach_bibliography oneCitation pageBefore nonempty contents
  exact ⟨nonempty, contents, held, replaced held, again⟩

end Citation

end Scriptorium
