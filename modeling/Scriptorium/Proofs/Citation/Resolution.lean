import Scriptorium.Proofs.Citation.Marker
import Scriptorium.Proofs.Citation.Table
/-! # References are resolved to their markers

Extraction puts a token in the place of each marker, and resolving puts a link in the place
of each token. In a document without tokens of its own the tokens behind extraction are those
of the markers, whatever stands around them (`Citation.pieces_tokenize`), so that a document
without fences and definitions comes out with a link for each of its markers and with nothing
else changed (`Citation.resolve_ofBody`).
-/

namespace Scriptorium.Citation

open CitationTable (empty IsConsistent)
open Extraction (closeText lineReferences ofBody reference?)

variable {table : CitationTable} {document s front : Text} {earlier seen : List Text}
  {part : Piece Marker} {marker : Marker} {citation : Citation} {id : Text}

/-- A document with a line feed between each two lines, no blank characters at its end, and a
line feed there unless it is empty. -/
def closedText (document : Text) : Text :=
  closeText (Text.joinLines document.lines)

/-! ## What references are written as -/

/-- The link of a reference to the entry of an anchor, whose number it shows. Only the first
reference has a name, which the entry leads back to. -/
def linkText (anchor : Text) (number : Nat) : Bool → Text
  | true =>
    "<sup><a href=\"#citation-".toList ++ anchor ++ "\" id=\"citation-ref-".toList ++ anchor ++
      "\" class=\"citation-ref\">[".toList ++ Nat.toDigits 10 number ++ "]</a></sup>".toList
  | false =>
    "<sup><a href=\"#citation-".toList ++ anchor ++ "\" class=\"citation-ref\">[".toList ++
      Nat.toDigits 10 number ++ "]</a></sup>".toList

/-- The link of a reference shows the place of its citation, counted from one. -/
theorem referenceLink_eq_linkText (citation : Citation) (isFirst : Bool) :
    referenceLink citation isFirst = linkText citation.anchor (citation.index + 1) isFirst := by
  unfold referenceLink linkText Text.ofNat
  cases isFirst <;> simp only [↓reduceIte, Bool.false_eq_true, String.reduceToList,
    List.append_assoc, List.cons_append, List.nil_append]

/-- A piece of a page: a marker of a citation of the table is the link of a reference, the
first one if its name is not among the `earlier` ones, and all else stays. -/
def linkedPiece (table : CitationTable) (earlier : List Text) : Piece Marker → Text
  | .plain c => [c]
  | .found marker =>
    if marker.hasColon then marker.text
    else
      match table.get? marker.id with
      | none => "[^".toList ++ marker.id ++ [']']
      | some citation =>
        linkText citation.anchor (citation.index + 1) (!earlier.contains marker.id)

/-- The pieces of a page from left to right, behind references to the `earlier` names. -/
def linkedPieces (table : CitationTable) (earlier : List Text) : List (Piece Marker) → Text
  | [] => []
  | part :: parts =>
    linkedPiece table earlier part ++
      linkedPieces table (earlier ++ (reference? part).toList) parts

/-- A text with its markers as links. -/
def linked (table : CitationTable) (s : Text) : Text :=
  linkedPieces table [] (Scanner.pieces marker? s)

/-- A text with its markers as citation commands. A marker with a colon stays. -/
def cited (s : Text) : Text :=
  Scanner.replaceAll marker?
    (fun marker =>
      if marker.hasColon then marker.text else "\\cite\x7b".toList ++ marker.id ++ ['\x7d']) s

/-! ## The tokens of a text -/

/-- The pieces of what a piece becomes when tokens are put into a text. -/
def tokenPieces : Piece Marker → List (Piece Text)
  | .plain c => [.plain c]
  | .found marker =>
    if marker.hasColon then marker.text.map .plain else [.found (Hex.encode marker.id)]

/-- A sign that stands in no token keeps the tokens on its two sides apart. -/
theorem separates {c : Char} (other : isMarkChar c = false) : lexicon.Separates c :=
  fun digits isDigits => Mark.separates other (.citation digits) isDigits

private theorem words_eq_nil_iff :
    lexicon.words s = [] ↔ ∀ digits, IsDigits digits → ¬ tokenText digits <:+: s := by
  rw [List.eq_nil_iff_forall_not_mem]
  exact forall_congr' fun digits => by
    rw [Lexicon.mem_words_iff]
    exact not_and

private theorem words_infix_eq_nil {part : Text} (inside : part <:+: s)
    (none : lexicon.words s = []) :
    lexicon.words part = [] := by
  rw [words_eq_nil_iff] at none ⊢
  exact fun digits isDigits within => none digits isDigits (within.trans inside)

/-- **The tokens behind extraction.** A text without tokens has one token for each of its
markers, and no other one comes about with the characters around them. -/
theorem pieces_tokenizeAfter (front s : Text) (none : lexicon.words (front ++ s) = []) :
    lexicon.pieces (front ++ tokenize s) =
      front.map .plain ++ (Scanner.pieces marker? s).flatMap tokenPieces := by
  induction s using Scanner.match_induction length_lt_of_marker? generalizing front with
  | nil =>
    rw [tokenize_nil, Lexicon.pieces_of_words_eq_nil none, Scanner.pieces, List.append_nil,
      List.flatMap_nil, List.append_nil]
  | plain c cs absent ih =>
    have moved : front ++ c :: cs = front ++ [c] ++ cs := List.append_cons front c cs
    rw [moved] at none
    rw [tokenize_of_none absent, List.append_cons, ih (front ++ [c]) none,
      Scanner.pieces_of_none absent, List.flatMap_cons, List.map_append, List.append_assoc]
    rfl
  | found s marker rest read shorter ih =>
    obtain ⟨isName, whole, -⟩ := marker?_eq_some_iff.mp read
    rw [whole, ← List.append_assoc] at none
    rw [tokenize_of_some read, Scanner.pieces_of_some read shorter, List.flatMap_cons,
      ← List.append_assoc]
    cases colon : marker.hasColon with
    | true =>
      rw [Marker.tokenized, if_pos colon, ih _ none, tokenPieces, if_pos colon, List.map_append,
        List.append_assoc]
    | false =>
      have before := words_infix_eq_nil
        ((List.prefix_append front _).isInfix.trans (List.prefix_append _ rest).isInfix) none
      have behind := ih [] (words_infix_eq_nil (List.suffix_append _ rest).isInfix none)
      have token : marker.tokenized = lexicon.text (Hex.encode marker.id) := by
        rw [Marker.tokenized, if_neg (by rw [colon]; exact Bool.false_ne_true)]
        rfl
      rw [token, List.append_assoc, Lexicon.pieces_append_text (isDigits_encode isName.nonempty),
        Lexicon.pieces_of_words_eq_nil before, tokenPieces,
        if_neg (by rw [colon]; exact Bool.false_ne_true)]
      exact congrArg (front.map Piece.plain ++ Piece.found (Hex.encode marker.id) :: ·) behind

/-- The tokens of a text are those of its markers, and no others. -/
theorem pieces_tokenize (none : lexicon.words s = []) :
    lexicon.pieces (tokenize s) = (Scanner.pieces marker? s).flatMap tokenPieces :=
  pieces_tokenizeAfter [] s none

/-! ## Resolving -/

private theorem resolvePieces_map_plain (s : Text) (parts : List (Piece Text)) :
    resolvePieces table seen (s.map .plain ++ parts) = s ++ resolvePieces table seen parts := by
  induction s with
  | nil => rfl
  | cons c s ih => exact congrArg (c :: ·) ih

/-- The anchors that have been referred to are those of the citations whose names have. -/
def Agrees (table : CitationTable) (seen earlier : List Text) : Prop :=
  ∀ citation ∈ table.entries, citation.anchor ∈ seen ↔ citation.id ∈ earlier

private theorem agrees_nil (table : CitationTable) : Agrees table [] [] :=
  fun _ _ => iff_of_false List.not_mem_nil List.not_mem_nil

/-- A name that the table does not hold makes no difference. -/
theorem Agrees.unknown (agrees : Agrees table seen earlier) (consistent : IsConsistent table)
    (absent : table.get? id = none) : Agrees table seen (earlier ++ [id]) := by
  intro citation member
  have other : citation.id ≠ id := by
    intro same
    rw [consistent.get?_eq_some_iff.mpr ⟨member, same⟩] at absent
    cases absent
  rw [agrees citation member, List.mem_append, List.mem_singleton, or_iff_left other]

/-- A reference to a citation adds its anchor on the one side and its name on the other. -/
theorem Agrees.known (agrees : Agrees table seen earlier) (consistent : IsConsistent table)
    (found : table.get? id = some citation) :
    Agrees table (citation.anchor :: seen) (earlier ++ [id]) := by
  obtain ⟨listed, rfl⟩ := consistent.get?_eq_some_iff.mp found
  intro other member
  have anchors : other.anchor = citation.anchor ↔ other = citation :=
    ⟨List.inj_on_of_nodup_map consistent.anchors_nodup member listed, congrArg Citation.anchor⟩
  have names : other.id = citation.id ↔ other = citation :=
    ⟨List.inj_on_of_nodup_map consistent.ids_nodup member listed, congrArg Citation.id⟩
  rw [List.mem_cons, List.mem_append, List.mem_singleton, agrees other member, anchors, names,
    or_comm]

/-- **Resolving the tokens of markers** gives the links of the markers. -/
theorem resolvePieces_tokenPieces (consistent : IsConsistent table)
    (agrees : Agrees table seen earlier) (parts : List (Piece Marker)) :
    resolvePieces table seen (parts.flatMap tokenPieces) = linkedPieces table earlier parts := by
  induction parts generalizing seen earlier with
  | nil => rfl
  | cons part parts ih =>
    rw [List.flatMap_cons, linkedPieces]
    cases part with
    | plain c =>
      rw [reference?, Option.toList_none, List.append_nil, ← ih agrees]
      rfl
    | found marker =>
      rw [tokenPieces, linkedPiece, reference?]
      cases colon : marker.hasColon with
      | true =>
        rw [if_pos rfl, if_pos rfl, if_pos rfl, resolvePieces_map_plain, Option.toList_none,
          List.append_nil, ih agrees]
      | false =>
        simp only [Bool.false_eq_true, ↓reduceIte, List.singleton_append, resolvePieces,
          Hex.decode?_encode, Option.toList_some]
        cases found : table.get? marker.id with
        | none =>
          dsimp only
          rw [ih (agrees.unknown consistent found)]
          rfl
        | some citation =>
          obtain ⟨listed, name⟩ := consistent.get?_eq_some_iff.mp found
          have first : seen.contains citation.anchor = earlier.contains marker.id := by
            rw [Bool.eq_iff_iff, List.contains_iff_mem, List.contains_iff_mem, ← name]
            exact agrees citation listed
          dsimp only
          rw [ih (agrees.known consistent found), first, referenceLink_eq_linkText]

private theorem resolve_tokenize (consistent : IsConsistent table) (none : lexicon.words s = []) :
    resolve table (tokenize s) = linked table s := by
  rw [resolve, show Scanner.pieces token? = lexicon.pieces from rfl, pieces_tokenize none,
    resolvePieces_tokenPieces consistent (agrees_nil table), linked]

/-- In LaTeX the tokens of markers resolve to their commands. -/
theorem resolveLatex_tokenize (none : lexicon.words s = []) :
    resolveLatex (tokenize s) = cited s := by
  rw [resolveLatex, Scanner.replaceAll, show Scanner.pieces token? = lexicon.pieces from rfl,
    pieces_tokenize none, List.flatMap_assoc, cited, Scanner.replaceAll]
  congr 1
  funext part
  cases part with
  | plain c => rfl
  | found marker =>
    rw [tokenPieces]
    cases colon : marker.hasColon with
    | true =>
      rw [if_pos rfl, List.flatMap_map]
      simp only [colon, ↓reduceIte, List.flatMap_singleton']
    | false =>
      simp only [colon, Bool.false_eq_true, ↓reduceIte, List.flatMap_singleton, Hex.decode?_encode]

/-! ## Documents -/

/-- Where no line is a fence or a definition all lines are kept, with tokens in them. -/
theorem items_eq_map {lines : List Text}
    (unfenced : ∀ line ∈ lines, Line.isFence line.trimStart = false)
    (undefined : ∀ line ∈ lines, Line.definition? line = none) :
    Extraction.items false lines = lines.map fun line => .kept (tokenize line) := by
  induction lines with
  | nil => rw [Extraction.items, List.map_nil]
  | cons line lines ih =>
    obtain ⟨here, unfenced⟩ := List.forall_mem_cons.mp unfenced
    obtain ⟨absent, undefined⟩ := List.forall_mem_cons.mp undefined
    rw [Extraction.items, here, absent, ih unfenced undefined, List.map_cons]
    rfl

private theorem markdown_ofBody
    (unfenced : ∀ line ∈ document.lines, Line.isFence line.trimStart = false)
    (undefined : ∀ line ∈ document.lines, Line.definition? line = none) :
    (ofBody document).markdown = tokenize (closedText document) := by
  have kept : Extraction.keptLines (Extraction.items false document.lines) =
      document.lines.map tokenize := by
    rw [items_eq_map unfenced undefined, Extraction.keptLines, List.filterMap_map]
    exact congrFun List.filterMap_eq_map document.lines
  rw [ofBody, closedText, ← closeText_tokenize, tokenize_joinLines, ← kept]

private theorem words_closedText (none : lexicon.words document = []) :
    lexicon.words (closedText document) = [] := by
  have newline : lexicon.Separates '\n' := separates (by decide)
  have joined : lexicon.words (Text.joinLines document.lines) = [] := by
    rw [Text.joinLines, Lexicon.words_join_char newline,
      Lexicon.words_lines newline (separates (by decide)), none]
  have trimmed : lexicon.words (Text.joinLines document.lines).trimEnd = [] := by
    rw [Text.trimEnd, Lexicon.words_dropEndWhile
      fun _ blank => separates (Mark.isMarkChar_of_isBlank blank), joined]
  rw [closedText, Extraction.closeText_eq]
  split
  · exact Lexicon.words_nil
  · rw [Lexicon.words_concat newline, trimmed]

/-- **References resolve to their markers.** In a document without fences, definitions and
tokens of its own, each marker becomes the link of its citation, with a target for the first
reference to it, and each marker of an unknown name stays; in LaTeX each marker becomes a
command. Nothing else changes, whatever stands around the markers. -/
theorem resolve_ofBody (unfenced : ∀ line ∈ document.lines, Line.isFence line.trimStart = false)
    (undefined : ∀ line ∈ document.lines, Line.definition? line = none)
    (free : ∀ digits, IsDigits digits → ¬ tokenText digits <:+: document)
    (definitions : List (Text × Text)) :
    resolve (empty.insertAll definitions) (ofBody document).markdown =
        linked (empty.insertAll definitions) (closedText document) ∧
      resolveLatex (ofBody document).markdown = cited (closedText document) := by
  have closed := words_closedText (words_eq_nil_iff.mpr free)
  rw [markdown_ofBody unfenced undefined]
  exact ⟨resolve_tokenize (CitationTable.isConsistent_insertAll definitions) closed,
    resolveLatex_tokenize closed⟩

/-- References to known and unknown names, next to each other, inside of each other and behind
parts of tokens, and a marker with a colon. -/
def neighbouring : Text :=
  "CITATION-REF-[^b][^a]61-END\r\n[^[^a]] \x60[^b]\x60 [^none][^a]:\n\n".toList

/-- The references of a document resolve where markers abut, are nested and follow parts of tokens.
-/
theorem resolve_ofBody_neighbouring :
    (∀ line ∈ neighbouring.lines, Line.isFence line.trimStart = false) ∧
      (∀ line ∈ neighbouring.lines, Line.definition? line = none) ∧
      (∀ digits, IsDigits digits → ¬ tokenText digits <:+: neighbouring) ∧
      let table := empty.insertAll [("a".toList, "A".toList), ("b".toList, "B".toList)]
      resolve table (ofBody neighbouring).markdown = linked table (closedText neighbouring) ∧
        resolveLatex (ofBody neighbouring).markdown = cited (closedText neighbouring) := by
  have unfenced : ∀ line ∈ neighbouring.lines, Line.isFence line.trimStart = false := by
    decide
  have undefined : ∀ line ∈ neighbouring.lines, Line.definition? line = none := by
    decide
  have free : ∀ digits, IsDigits digits → ¬ tokenText digits <:+: neighbouring :=
    words_eq_nil_iff.mp (List.isEmpty_iff.mp (by decide +kernel))
  exact ⟨unfenced, undefined, free, resolve_ofBody unfenced undefined free _⟩

example : linked ⟨[⟨['a'], ['a'], ['A'], 0, none⟩], [(['a'], 0)]⟩ "[^a][^a][^b]".toList =
    "<sup><a href=\"#citation-a\" id=\"citation-ref-a\" ".toList ++
      ("class=\"citation-ref\">[1]</a></sup>".toList ++
        ("<sup><a href=\"#citation-a\" class=\"citation-ref\">[1]</a></sup>".toList ++
          "[^b]".toList)) := by
  decide +kernel

end Scriptorium.Citation
