import Scriptorium.Citation.Bibliography
import Scriptorium.Proofs.Citation.Table
import Scriptorium.Proofs.Citation.Token
import Scriptorium.Proofs.Html.Escape
import Scriptorium.Proofs.Html.Href
/-! # The links between references and bibliography

A reference leads to the entry of its citation, and the entry leads back to the first
reference. Which names and destinations a page gets by this is read off the two texts that
are put on it: those of the references in order (`Citation.values_resolvePieces`), and
those of the entries (`Citation.yields_bibliography`).
-/

namespace Scriptorium

open Html Attribute

private theorem Text.isAsciiDigit_of_mem_ofNat {n : Nat} {c : Char} (member : c ∈ ofNat n) :
    isAsciiDigit c = true := by
  have digit := Nat.isDigit_of_mem_toDigits (by decide) (by decide) member
  simpa [isAsciiDigit, Char.isDigit, Char.le_def] using digit

namespace CitationTable

private theorem AnchorSearch.exists_eq {taken : List Text} {base anchor : Text} {turn : Nat}
    (search : AnchorSearch taken base turn anchor) : ∃ last, anchor = numberedAnchor base last := by
  induction search with
  | @free turn _ => exact ⟨turn, rfl⟩
  | next _ _ ih => exact ih

private theorem isAnchorChar_of_mem_numberedAnchor {base : Text} {turn : Nat}
    (allowed : ∀ c ∈ base, Anchor.isAnchorChar c = true) :
    ∀ c ∈ numberedAnchor base turn, Anchor.isAnchorChar c = true := by
  cases turn with
  | zero => exact allowed
  | succ turn =>
    intro c member
    rcases List.mem_append.mp member with early | late
    · exact allowed c early
    · rcases List.mem_cons.mp late with rfl | digit
      · rfl
      · rw [Anchor.isAnchorChar, Text.isAsciiDigit_of_mem_ofNat digit, Bool.or_true, Bool.true_or]

/-- The anchors of new citations hold characters of anchors only. -/
theorem isAnchorChar_newCitation (table : CitationTable) (id raw : Text) :
    ∀ c ∈ (newCitation table id raw).anchor, Anchor.isAnchorChar c = true := by
  obtain ⟨turn, same⟩ := (anchorSearch_freeAnchor (table.entries.map Citation.anchor)
    (Anchor.ofText id)).exists_eq
  rw [newCitation, same]
  exact isAnchorChar_of_mem_numberedAnchor fun c => Anchor.isAnchorChar_of_mem_ofText

private theorem isAnchorChar_of_mem_anchor (definitions : List (Text × Text)) :
    ∀ citation ∈ (empty.insertAll definitions).entries,
      ∀ c ∈ citation.anchor, Anchor.isAnchorChar c = true :=
  forall_mem_insertAll definitions isAnchorChar_newCitation

/-- The anchors of citations consist of characters of anchors, however the table came about. -/
theorem isAnchorChar_afterEdits (edits : List Edit) :
    ∀ citation ∈ (afterEdits edits).entries,
      ∀ c ∈ citation.anchor, Anchor.isAnchorChar c = true :=
  forall_mem_afterEdits edits isAnchorChar_newCitation fun _ _ held => held

private theorem mem_of_get? {table : CitationTable} {id : Text} {citation : Citation}
    (found : table.get? id = some citation) : citation ∈ table.entries := by
  obtain ⟨place, -, here⟩ := Option.bind_eq_some_iff.mp found
  exact List.mem_of_getElem? here

end CitationTable

namespace Citation

/-- The name of the entry of a citation. -/
def entryName (citation : Citation) : Text :=
  "citation-".toList ++ citation.anchor

/-- The name of the first reference to a citation. -/
def referenceName (citation : Citation) : Text :=
  "citation-ref-".toList ++ citation.anchor

/-- What is put on the page of a citation can be read back: its anchor holds characters of
anchors only, and its content is not formatted yet. -/
structure IsPlain (citation : Citation) : Prop where
  anchor : ∀ c ∈ citation.anchor, Anchor.isAnchorChar c = true
  content : citation.formattedHtml = none

/-- Citations that are put into an empty table are plain. -/
theorem isPlain_insertAll (definitions : List (Text × Text)) :
    ∀ citation ∈ (CitationTable.empty.insertAll definitions).entries, citation.IsPlain :=
  fun citation member => ⟨CitationTable.isAnchorChar_of_mem_anchor definitions citation member,
    CitationTable.formattedHtml_insertAll definitions citation member⟩

variable {attr : Attribute} {citation : Citation} {table : CitationTable} {html : Text}

private theorem IsPlain.isAnchorChar_append (plain : citation.IsPlain) {lead : Text}
    (allowed : lead.all Anchor.isAnchorChar = true) :
    ∀ c ∈ lead ++ citation.anchor, Anchor.isAnchorChar c = true := by
  intro c member
  rcases List.mem_append.mp member with early | late
  · exact List.all_eq_true.mp allowed c early
  · exact plain.anchor c late

/-- The name of an entry consists of characters of anchors. -/
theorem IsPlain.isAnchorChar_entryName (plain : citation.IsPlain) :
    ∀ c ∈ citation.entryName, Anchor.isAnchorChar c = true :=
  plain.isAnchorChar_append (by decide)

/-- The name of a reference consists of characters of anchors. -/
theorem IsPlain.isAnchorChar_referenceName (plain : citation.IsPlain) :
    ∀ c ∈ citation.referenceName, Anchor.isAnchorChar c = true :=
  plain.isAnchorChar_append (by decide)

/-! ## The values in a link and in an entry -/

private theorem yields_name {front name : Text} (unquoted : '"' ∉ front)
    (allowed : ∀ c ∈ name, Anchor.isAnchorChar c = true) :
    attr.Yields (front ++ '"' :: (name ++ ['"'])) (attr.given front name) :=
  .assigned unquoted (not_mem_of_isAnchorChar allowed (by decide))
    (not_mem_of_isAnchorChar allowed (by decide))

private theorem yields_fragment {front name : Text} (unquoted : '"' ∉ front)
    (allowed : ∀ c ∈ name, Anchor.isAnchorChar c = true) :
    attr.Yields (front ++ '"' :: ('#' :: name ++ ['"'])) (attr.given front ('#' :: name)) :=
  .assigned unquoted
    (List.not_mem_cons_of_ne_of_not_mem (by decide) (not_mem_of_isAnchorChar allowed (by decide)))
    (List.not_mem_cons_of_ne_of_not_mem (by decide) (not_mem_of_isAnchorChar allowed (by decide)))

private theorem referenceLink_eq (citation : Citation) (isFirst : Bool) :
    referenceLink citation isFirst =
      ("<sup><a href=".toList ++ '"' :: ('#' :: citation.entryName ++ ['"'])) ++
        ((if isFirst then " id=".toList ++ '"' :: (citation.referenceName ++ ['"']) else []) ++
          ((" class=".toList ++ '"' :: ("citation-ref".toList ++ ['"'])) ++
            (">[".toList ++ (Text.ofNat (citation.index + 1) ++ "]</a></sup>".toList)))) := by
  unfold referenceLink entryName referenceName
  cases isFirst <;> simp only [↓reduceIte, Bool.false_eq_true, String.reduceToList,
    List.append_assoc, List.cons_append, List.nil_append]

/-- The values in the link of a reference. -/
def linkValues (attr : Attribute) (citation : Citation) (isFirst : Bool) : List Text :=
  attr.given "<sup><a href=".toList ('#' :: citation.entryName) ++
    ((if isFirst then attr.given " id=".toList citation.referenceName else []) ++
      attr.given " class=".toList "citation-ref".toList)

/-- The link of a reference to a plain citation yields its own values. -/
theorem IsPlain.yields_referenceLink (plain : citation.IsPlain) (isFirst : Bool) :
    attr.Yields (referenceLink citation isFirst) (linkValues attr citation isFirst) := by
  have target : attr.Yields
      (if isFirst then " id=".toList ++ '"' :: (citation.referenceName ++ ['"']) else [])
      (if isFirst then attr.given " id=".toList citation.referenceName else []) := by
    cases isFirst with
    | false => exact .nil
    | true => exact yields_name (by decide) plain.isAnchorChar_referenceName
  have number : '"' ∉ Text.ofNat (citation.index + 1) := by
    intro digit
    exact absurd (Text.isAsciiDigit_of_mem_ofNat digit) (by decide)
  have text : attr.Yields (">[".toList ++ (Text.ofNat (citation.index + 1) ++
      "]</a></sup>".toList)) [] := .around number rfl ⟨'>', by decide, rfl⟩
  rw [referenceLink_eq]
  exact (yields_fragment (by decide) plain.isAnchorChar_entryName).append
    (target.append (.last (.constant rfl) text))

private theorem bibliographyItem_eq (content : citation.formattedHtml = none) :
    bibliographyItem citation =
      ("<li id=".toList ++ '"' :: (citation.entryName ++ ['"'])) ++
        ((" class=".toList ++ '"' :: ("citation-entry".toList ++ ['"'])) ++
          ((">".toList ++ (Html.escape citation.rawContent ++ " <".toList)) ++
            (("a href=".toList ++ '"' :: ('#' :: citation.referenceName ++ ['"'])) ++
              ((" class=".toList ++ '"' :: ("citation-backref".toList ++ ['"'])) ++
                ((" title=".toList ++ '"' :: ("Back to reference".toList ++ ['"'])) ++
                  ">↩</a></li>\n".toList))))) := by
  unfold bibliographyItem entryName referenceName
  simp only [content, Option.getD_none, String.reduceToList, List.append_assoc, List.cons_append,
    List.nil_append]

/-- The values in the entry of a citation. -/
def entryValues (attr : Attribute) (citation : Citation) : List Text :=
  attr.given "<li id=".toList citation.entryName ++
    (attr.given " class=".toList "citation-entry".toList ++
      (attr.given "a href=".toList ('#' :: citation.referenceName) ++
        (attr.given " class=".toList "citation-backref".toList ++
          attr.given " title=".toList "Back to reference".toList)))

/-- The entry of a plain citation yields its own values. -/
theorem IsPlain.yields_bibliographyItem (plain : citation.IsPlain) :
    attr.Yields (bibliographyItem citation) (entryValues attr citation) := by
  have content :
      attr.Yields (">".toList ++ (Html.escape citation.rawContent ++ " <".toList)) [] :=
    .around (not_mem_escape (by decide) _) rfl ⟨'<', by decide, rfl⟩
  have closing : attr.Yields ">↩</a></li>\n".toList [] :=
    .between (by decide) ⟨'\n', by decide, rfl⟩
  rw [bibliographyItem_eq plain.content]
  exact (yields_name (by decide) plain.isAnchorChar_entryName).append
    (.append (.constant rfl) (content.skip (.append
      (yields_fragment (by decide) plain.isAnchorChar_referenceName)
      (.append (.constant rfl) (.last (.constant rfl) closing)))))

private theorem bibliography_eq (nonempty : table.isEmpty = false) :
    bibliography table = ("<h2 id=".toList ++ '"' :: ("bibliography".toList ++ ['"'])) ++
      (">Bibliography</h2>\n".toList ++ (("<div class=".toList ++ '"' ::
        ("bibliography".toList ++ ['"'])) ++ (">\n<ol>\n".toList ++
          (table.entries.flatMap bibliographyItem ++ "</ol>\n</div>\n".toList)))) := by
  unfold bibliography
  simp only [nonempty, Bool.false_eq_true, ↓reduceIte, String.reduceToList, List.cons_append,
    List.nil_append]

/-- The values in a bibliography. -/
def bibliographyValues (attr : Attribute) (table : CitationTable) : List Text :=
  if table.isEmpty then []
  else attr.given "<h2 id=".toList "bibliography".toList ++
    (attr.given "<div class=".toList "bibliography".toList ++
      table.entries.flatMap (entryValues attr))

/-- A bibliography of plain citations yields the values of its entries. -/
theorem yields_bibliography (plain : ∀ citation ∈ table.entries, citation.IsPlain) :
    attr.Yields (bibliography table) (bibliographyValues attr table) := by
  cases empty : table.isEmpty with
  | true =>
    unfold bibliography bibliographyValues
    rw [empty]
    exact .nil
  | false =>
    have entries : attr.Yields (table.entries.flatMap bibliographyItem)
        (table.entries.flatMap (entryValues attr)) :=
      .flatMap fun citation member => (plain citation member).yields_bibliographyItem
    have heading : attr.Yields ">Bibliography</h2>\n".toList [] :=
      .between (by decide) ⟨'\n', by decide, rfl⟩
    have opening : attr.Yields ">\n<ol>\n".toList [] :=
      .between (by decide) ⟨'\n', by decide, rfl⟩
    have closing : attr.Yields "</ol>\n</div>\n".toList [] :=
      .between (by decide) ⟨'\n', by decide, rfl⟩
    rw [bibliography_eq empty, bibliographyValues, empty]
    exact Yields.append (.constant rfl) (heading.skip
      (.append (.constant rfl) (opening.skip (entries.last closing))))

/-! ## The values on a page -/

/-- The citations that the tokens of a text refer to, in order. -/
def referred (table : CitationTable) (html : Text) : List Citation :=
  (lexicon.words html).filterMap fun digits => (Hex.decode? digits).bind table.get?

/-- What is referred to is in the table. -/
theorem mem_entries_of_mem_referred (reference : citation ∈ referred table html) :
    citation ∈ table.entries := by
  obtain ⟨digits, -, found⟩ := List.mem_filterMap.mp reference
  obtain ⟨id, -, known⟩ := Option.bind_eq_some_iff.mp found
  exact CitationTable.mem_of_get? known

/-- Citations that are referred to, each with whether this is the first time. -/
def withFirst (seen : List Text) : List Citation → List (Citation × Bool)
  | [] => []
  | citation :: later =>
    (citation, !seen.contains citation.anchor) :: withFirst (citation.anchor :: seen) later

/-- HTML without an attribute of its own: it has none in its text, and none in the names of
tokens that the table does not know. -/
structure Lacks (attr : Attribute) (table : CitationTable) (html : Text) : Prop where
  text : attr.IsAbsent html
  names : ∀ digits ∈ lexicon.words html, ∀ id, Hex.decode? digits = some id →
    table.get? id = none → attr.IsAbsent id

/-- A text of tokens: the tokens of the given names, in order. -/
def tokens (ids : List Text) : Text :=
  ids.flatMap token

private theorem words_tokens {ids : List Text} (nonempty : [] ∉ ids) :
    lexicon.words (tokens ids) = ids.map Hex.encode := by
  unfold tokens
  induction ids with
  | nil => exact Lexicon.words_nil
  | cons id ids ih =>
    have first : id ≠ [] := fun same => nonempty (same ▸ List.mem_cons_self)
    rw [List.flatMap_cons, List.map_cons, ← ih (List.not_mem_of_not_mem_cons nonempty)]
    exact Lexicon.words_text_append (isDigits_encode first)

/-- Tokens that stand one behind the other refer to the citations of their names. -/
theorem referred_tokens {ids : List Text} (nonempty : [] ∉ ids) :
    referred table (tokens ids) = ids.filterMap table.get? := by
  rw [referred, words_tokens nonempty, List.filterMap_map]
  apply List.filterMap_congr
  intro id _
  rw [Function.comp_apply, Hex.decode?_encode, Option.bind_some]

private theorem not_mem_token {id : Text} (nonempty : id ≠ []) : '"' ∉ token id := by
  have digits := (isDigits_encode nonempty).not_mem (c := '"') (by decide)
  rw [token_eq, tokenText_eq, List.mem_append, List.mem_append]
  rintro (lead | digit | closing)
  · exact absurd lead (by decide)
  · exact digits digit
  · exact absurd closing (by decide)

/-- Tokens of known names lack every attribute. -/
theorem lacks_tokens {ids : List Text} (nonempty : [] ∉ ids)
    (known : ∀ id ∈ ids, (table.get? id).isSome) : Lacks attr table (tokens ids) where
  text := by
    apply isAbsent_of_not_mem
    intro member
    obtain ⟨id, listed, quote⟩ := List.mem_flatMap.mp member
    exact not_mem_token (fun same => nonempty (same ▸ listed)) quote
  names digits member id decoded unknown := by
    rw [words_tokens nonempty] at member
    obtain ⟨other, listed, rfl⟩ := List.mem_map.mp member
    rw [Hex.decode?_encode] at decoded
    cases decoded
    have held := known id listed
    rw [unknown] at held
    cases held

private theorem yields_markerText {id : Text} (absent : attr.IsAbsent id) :
    attr.Yields (markerText id) [] := by
  have foreign : ∀ c ∈ delimiters, attr.IsForeign c := fun c => isForeign_of_mem
  have closed : attr.IsAbsent (id ++ [']']) := absent.concat (foreign _ (by decide))
  apply Yields.of_isAbsent ((closed.cons (foreign '^' (by decide))).cons (foreign '[' (by decide)))
  intro c member
  rw [← List.cons_append, ← List.cons_append, List.getLast?_concat] at member
  exact Option.some.inj member ▸ foreign _ (by decide)

variable {seen : List Text} {front rest : Text}

/-- The values in a text with its tokens as links: those of the links. -/
theorem values_resolvePieces (plain : ∀ citation ∈ table.entries, citation.IsPlain)
    (absent : attr.IsAbsent (front ++ html)) (names : ∀ digits ∈ lexicon.words html, ∀ id,
      Hex.decode? digits = some id → table.get? id = none → attr.IsAbsent id)
    (apart : ∀ c ∈ rest.head?, attr.IsForeign c) :
    attr.values (front ++ (resolvePieces table seen (lexicon.pieces html) ++ rest)) =
      (withFirst seen (referred table html)).flatMap (fun link => linkValues attr link.1 link.2) ++
        attr.values rest := by
  unfold referred
  induction html using lexicon.word_induction generalizing front seen with
  | nil =>
    rw [List.append_nil] at absent
    rw [Lexicon.pieces_nil, Lexicon.words_nil, resolvePieces, List.nil_append,
      values_append absent (.inr apart)]
    rfl
  | plain c cs none ih =>
    rw [Lexicon.words_of_none none] at names ⊢
    rw [Lexicon.pieces_of_none none, resolvePieces]
    have moved : front ++ c :: cs = front ++ [c] ++ cs := by rw [List.append_assoc]; rfl
    rw [moved] at absent
    rw [← ih absent names, List.append_assoc]
    rfl
  | word digits later isDigits ih =>
    have text : lexicon.text digits = tokenText digits := rfl
    rw [Lexicon.words_text_append isDigits] at names ⊢
    obtain ⟨here, names⟩ := List.forall_mem_cons.mp names
    have before : attr.IsAbsent front := absent.of_infix (List.prefix_append _ _).isInfix
    have behind : attr.IsAbsent ([] ++ later) := by
      rw [← List.append_assoc] at absent
      exact absent.of_infix (List.suffix_append _ _).isInfix
    rw [Lexicon.pieces_text_append isDigits, resolvePieces]
    cases decoded : Hex.decode? digits with
    | none =>
      rw [text, ← List.append_assoc] at absent
      rw [List.filterMap_cons_none (by rw [decoded]; rfl), ← ih absent names]
      simp only [List.append_assoc]
    | some id =>
      cases found : table.get? id with
      | none =>
        have marker := yields_markerText (here id decoded found)
        rw [List.filterMap_cons_none (by rw [decoded, Option.bind_some, found]),
          ← ih behind names]
        have whole := marker.behind before ⟨'[', by decide, rfl⟩
        simpa only [found, List.append_assoc, List.nil_append] using whole _
      | some citation =>
        have link : attr.Yields _ _ := (plain citation
          (CitationTable.mem_of_get? found)).yields_referenceLink (!seen.contains citation.anchor)
        rw [List.filterMap_cons_some (by rw [decoded, Option.bind_some, found]), withFirst,
          List.flatMap_cons, List.append_assoc, ← ih behind names]
        have whole := link.behind before ⟨'<', by decide, rfl⟩
        simpa only [found, List.append_assoc, List.nil_append] using whole _

end Citation

end Scriptorium
