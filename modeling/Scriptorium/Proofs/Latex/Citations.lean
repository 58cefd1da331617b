import Mathlib.Data.List.Count
import Scriptorium.Latex.Paper
import Scriptorium.Proofs.Citation.Extraction
import Scriptorium.Proofs.Latex.Repair
import Scriptorium.Proofs.Latex.Source
import Scriptorium.Proofs.Math.Reveal
import Scriptorium.Proofs.Metadata
/-! # What becomes of the references in a paper

Tokens stand for references and formulas while a document is rendered, and are resolved
in the finished paper. Rendering and repairs keep the tokens of passages
(`Latex.setAs_unresolved`), and resolving turns each token into a command or the source of
a formula (`Latex.paper_eq_replaceAll`). References are resolved before formulas are given
back, so a reference in a formula is left as a token (`Latex.marks_paper`,
`Latex.paper_referenceInFormula`). All others are accounted for (`Latex.paper_cites`).
-/

namespace Scriptorium

/-- A text in which no token of a reference occurs. -/
def Citation.TokenFree (s : Text) : Prop :=
  ∀ digits, IsDigits digits → ¬ tokenText digits <:+: s

/-- A text without tokens is one that marks no citation. -/
theorem Citation.tokenFree_iff {s : Text} :
    TokenFree s ↔ ∀ digits, Mark.citation digits ∉ marks s := by
  apply forall_congr'
  intro digits
  rw [mem_marks_iff]
  constructor
  · exact fun free held => free held.1 held.2
  · exact fun absent isDigits inside => absent ⟨isDigits, inside⟩

instance : DecidablePred Citation.TokenFree := fun s =>
  decidable_of_iff (∀ mark ∈ marks s, mark.digits?.isNone = true) (by
    rw [Citation.tokenFree_iff]
    constructor
    · intro none digits member
      exact absurd (none _ member) Bool.false_ne_true
    · intro free mark member
      cases mark with
      | citation digits => exact absurd member (free digits)
      | formula token => rfl)

private theorem Citation.mark_injective : Function.Injective Citation.mark := by
  intro id other same
  have digits : Hex.encode id = Hex.encode other := Mark.citation.inj same
  have read := congrArg Hex.decode? digits
  rw [Hex.decode?_encode, Hex.decode?_encode] at read
  exact Option.some.inj read

namespace Latex

variable {config : Config} {template markdown s : Text}

/-! ## Stages -/

/-- The body of a document with its comments as they are in LaTeX. -/
def commentedBody (markdown : Text) : Text :=
  convertComments (ParsedDocument.parse markdown).body

/-- The body of a document with tokens for its references. -/
def referredBody (markdown : Text) : Text :=
  (Extraction.ofBody (commentedBody markdown)).markdown

/-- The body of a document with tokens for its references and formulas. -/
def protectedBody (markdown : Text) : Text :=
  Math.encode (referredBody markdown)

/-- A paper of which the tokens are not resolved. -/
def unresolved (config : Config) (template markdown : Text) : Text :=
  repair (assemble template (body config (documentOf markdown)))

/-- The names that a document refers to, once for each marker. -/
def references (markdown : Text) : List Text :=
  Extraction.references false (commentedBody markdown).lines

/-- A document in which no token stands, nor comes to stand when its comments are
converted, with an address of the site and a template that hold none. -/
structure Clean (config : Config) (template markdown : Text) : Prop where
  source : marks markdown = []
  comments : marks (commentedBody markdown) = []
  site : marks config.siteBaseUrl = []
  plain : marks template = []
  place : hasPlace template = true

instance (config : Config) (template markdown : Text) :
    Decidable (Clean config template markdown) :=
  decidable_of_iff (marks markdown = [] ∧ marks (commentedBody markdown) = [] ∧
      marks config.siteBaseUrl = [] ∧ marks template = [] ∧ hasPlace template = true)
    ⟨fun ⟨source, comments, site, plain, place⟩ => ⟨source, comments, site, plain, place⟩,
      fun ⟨source, comments, site, plain, place⟩ => ⟨source, comments, site, plain, place⟩⟩

/-! ## Up to the unresolved paper -/

section

variable (clean : Clean config template markdown)

include clean

/-- A token stands for each reference, and no other token in the body. -/
theorem marks_referredBody : marks (referredBody markdown) =
    (references markdown).map Citation.mark :=
  Extraction.marks_ofBody clean.comments

private theorem tokenFree_referredBody : Math.TokenFree (referredBody markdown) := by
  intro token wellFormed inside
  have member : Mark.formula token ∈ marks (referredBody markdown) :=
    mem_marks_iff.mpr ⟨wellFormed, inside⟩
  rw [marks_referredBody clean] at member
  obtain ⟨id, -, same⟩ := List.mem_map.mp member
  cases same

private theorem sound_protectedBody : Math.Sound (protectedBody markdown) :=
  Math.sound_encode (tokenFree_referredBody clean)

private theorem decode_protectedBody :
    Math.decode .raw (protectedBody markdown) = referredBody markdown :=
  Math.decode_raw_encode (tokenFree_referredBody clean)

/-- The references stand in the protected body, or in the sources of its formulas. -/
theorem count_references (id : Text) : (references markdown).count id =
    (marks (protectedBody markdown)).count (Citation.mark id) +
      ((marks (protectedBody markdown)).flatMap Mark.hidden).count (Citation.mark id) := by
  rw [← List.count_map_of_injective (references markdown) Citation.mark Citation.mark_injective,
    ← marks_referredBody clean, ← decode_protectedBody clean]
  exact Math.count_decode (sound_protectedBody clean) (Hex.encode id)

/-- The protected body consists of the contents of the document and of what is left
out. -/
theorem spells_protectedBody : (documentContents (documentOf markdown) ++
    Document.leftOut (protectedBody markdown)).Spells [protectedBody markdown] :=
  Document.spells_build (ParsedDocument.marks_title clean.source)
    (Extraction.unmarked_citations clean.comments) _

/-- A paper before its tokens are resolved is the contents of its document, set. -/
theorem setAs_unresolved :
    (documentContents (documentOf markdown)).SetAs [unresolved config template markdown] := by
  apply (setAs_body clean.site (documentOf markdown)).ofMarks
  rw [unresolved, marks_repair, marks_assemble clean.plain clean.place, List.flatMap_singleton]

private theorem marks_unresolved_subset :
    marks (unresolved config template markdown) ⊆ marks (protectedBody markdown) := by
  intro mark member
  have most := (setAs_unresolved clean mark).2
  have total := spells_protectedBody clean mark
  have positive := List.count_pos_iff.mpr member
  rw [tally_singleton] at most total
  rw [Contents.total_append] at total
  exact List.count_pos_iff.mp (by omega)

/-- The tokens of references in the unresolved paper are those of names without
tokens. -/
theorem exists_reference {digits : Text}
    (member : Mark.citation digits ∈ marks (unresolved config template markdown)) :
    ∃ id, digits = Hex.encode id ∧ marks id = [] := by
  have held := marks_unresolved_subset clean member
  have positive := List.count_pos_iff.mpr held
  have total := Math.count_decode (sound_protectedBody clean) digits
  rw [decode_protectedBody clean] at total
  have referred : Mark.citation digits ∈ marks (referredBody markdown) :=
    List.count_pos_iff.mp (by omega)
  rw [marks_referredBody clean] at referred
  obtain ⟨id, listed, same⟩ := List.mem_map.mp referred
  refine ⟨id, (Mark.citation.inj same).symm, ?_⟩
  obtain ⟨-, line, member, inside⟩ := Extraction.infix_of_mem_references listed
  exact marks_eq_nil_of_within inside (marks_of_mem_lines clean.comments line member)

end

/-! ## Resolving -/

/-- What a mark becomes when references are resolved. -/
def cite (mark : Mark) : Text :=
  (mark.digits?.map fun digits =>
    match Hex.decode? digits with
    | some id => "\\cite\x7b".toList ++ id ++ ['\x7d']
    | none => Citation.tokenText digits).getD mark.text

/-- Resolving the tokens of a text in LaTeX writes a command for each mark of a citation. -/
theorem resolveLatex_eq (s : Text) :
    Citation.resolveLatex s = Scanner.replaceAll Mark.lexicon.scan cite s :=
  Lexicon.replaceAll_pick Mark.token?_eq s

private theorem cite_mark (id : Text) : cite (Citation.mark id) = command "cite".toList id := by
  rw [cite, Citation.mark, Mark.digits?, Option.map_some, Option.getD_some, Hex.decode?_encode]
  rfl

/-- What a mark becomes in a paper: a command of citation, or the source of a formula. -/
def resolved : Mark → Text
  | .citation digits => cite (.citation digits)
  | .formula token => Math.decode .raw token.text

section

variable (clean : Clean config template markdown)

include clean

/-- A reference in the unresolved paper becomes a command without marks, and a formula
stays. -/
theorem cite_cases {mark : Mark} (member : mark ∈ marks (unresolved config template markdown)) :
    (∃ token, mark = .formula token ∧ cite mark = mark.text) ∨
      ∃ id, mark = Citation.mark id ∧ cite mark = command "cite".toList id ∧
        marks (cite mark) = [] := by
  cases mark with
  | formula token => exact .inl ⟨token, rfl, rfl⟩
  | citation digits =>
    obtain ⟨id, rfl, none⟩ := exists_reference clean member
    have written := cite_mark id
    refine .inr ⟨id, rfl, written, ?_⟩
    rw [show Mark.citation (Hex.encode id) = Citation.mark id from rfl, written,
      marks_command (by decide), none]

private theorem cite_allowed : ∀ mark ∈ marks (unresolved config template markdown),
    cite mark = Mark.lexicon.text mark ∨ Mark.lexicon.Delimited (cite mark) := by
  intro mark member
  rcases cite_cases clean member with ⟨token, -, same⟩ | ⟨id, -, written, -⟩
  · exact .inl same
  · exact .inr (written ▸ delimited_command _ _)

private theorem marks_resolveLatex :
    marks (Citation.resolveLatex (unresolved config template markdown)) =
    (marks (unresolved config template markdown)).flatMap fun mark => marks (cite mark) := by
  rw [resolveLatex_eq]
  exact Lexicon.words_replaceAll (cite_allowed clean)

private theorem sound_resolveLatex :
    Math.Sound (Citation.resolveLatex (unresolved config template markdown)) := by
  apply (sound_protectedBody clean).mono
  intro mark member
  rw [marks_resolveLatex clean] at member
  obtain ⟨outer, listed, inside⟩ := List.mem_flatMap.mp member
  apply marks_unresolved_subset clean
  rcases cite_cases clean listed with ⟨token, -, same⟩ | ⟨id, -, -, none⟩
  · rw [same, marks_text (mem_marks_iff.mp listed).1, List.mem_singleton] at inside
    exact inside ▸ listed
  · rw [none] at inside
    cases inside

omit clean in
private theorem paper_eq_decode (config : Config) (template markdown : Text) :
    paper config template markdown =
      Math.decode .raw (Citation.resolveLatex (unresolved config template markdown)) :=
  rfl

/-- A paper is the unresolved one with each mark resolved. -/
theorem paper_eq_replaceAll : paper config template markdown =
    Scanner.replaceAll Mark.lexicon.scan resolved (unresolved config template markdown) := by
  rw [paper_eq_decode, Math.decode_raw_eq (sound_resolveLatex clean), resolveLatex_eq,
    Lexicon.replaceAll_replaceAll (cite_allowed clean)]
  apply Lexicon.replaceAll_congr
  intro mark member
  rcases cite_cases clean member with ⟨token, rfl, same⟩ | ⟨id, rfl, -, none⟩
  · rw [same]
    exact Lexicon.replaceAll_text (mem_marks_iff.mp member).1
  · exact Lexicon.replaceAll_of_words_eq_nil none

/-- **The marks that are left in a paper** are those in the sources of its formulas. -/
theorem marks_paper : marks (paper config template markdown) =
    (marks (unresolved config template markdown)).flatMap Mark.hidden := by
  rw [paper_eq_decode, Math.marks_decode (sound_resolveLatex clean), marks_resolveLatex clean,
    List.flatMap_assoc]
  apply List.flatMap_congr
  intro mark member
  rcases cite_cases clean member with ⟨token, rfl, same⟩ | ⟨id, rfl, -, none⟩
  · have isWord : Mark.IsWord (.formula token) := (mem_marks_iff.mp member).1
    rw [same, marks_text isWord, List.flatMap_singleton]
    rfl
  · rw [none]
    rfl

end

/-- The parts of a paper: the characters between marks, and what marks become. -/
def parts (config : Config) (template markdown : Text) : List Text :=
  (Mark.lexicon.pieces (unresolved config template markdown)).map fun
    | .plain c => [c]
    | .found mark => resolved mark

/-- Each reference in the unresolved paper is a part of the paper, a command. -/
theorem count_parts (config : Config) (template markdown id : Text) :
    (marks (unresolved config template markdown)).count (Citation.mark id) ≤
      (parts config template markdown).count (command "cite".toList id) := by
  unfold parts marks
  rw [Lexicon.words_eq]
  induction Mark.lexicon.pieces (unresolved config template markdown) with
  | nil => exact Nat.le_refl 0
  | cons piece pieces ih =>
    cases piece with
    | plain c => exact Nat.le_trans ih List.count_le_count_cons
    | found mark =>
      rw [List.filterMap_cons, Lexicon.wordOf?, List.map_cons]
      dsimp only
      by_cases same : mark = Citation.mark id
      · have written : resolved (Citation.mark id) = command "cite".toList id := cite_mark id
        rw [same, written, List.count_cons_self, List.count_cons_self]
        exact Nat.succ_le_succ ih
      · rw [List.count_cons_of_ne same]
        exact Nat.le_trans ih List.count_le_count_cons

/-! ## The references of a document -/

/-- How often a document refers to a name in its passages. -/
def inPassages (markdown id : Text) : Nat :=
  tally (Citation.mark id) (documentContents (documentOf markdown)).passages

/-- How often a document refers to a name in the destinations of links. -/
def inDestinations (markdown id : Text) : Nat :=
  tally (Citation.mark id) (documentContents (documentOf markdown)).destinations

/-- How often a document refers to a name in lines that are no part of its contents. -/
def inLeftOut (markdown id : Text) : Nat :=
  (Document.leftOut (protectedBody markdown)).total (Citation.mark id)

/-- How often a document refers to a name in its formulas. -/
def inFormulas (markdown id : Text) : Nat :=
  ((marks (protectedBody markdown)).flatMap Mark.hidden).count (Citation.mark id)

/-- **Which references a paper resolves.** Every reference of a document stands in a
passage, in the destination of a link, in a line that is left out or in a formula. Those
in passages come out as commands of citation. A token is left in the paper exactly when
one stands in the source of a formula that is set: formulas are given back when references
are resolved already. -/
theorem paper_cites (clean : Clean config template markdown) :
    (Citation.TokenFree (paper config template markdown) ↔
      ∀ token : Math.Token, token.WellFormed →
        token.text <:+: unresolved config template markdown →
          Citation.TokenFree (Math.decode .raw token.text)) ∧
    (parts config template markdown).flatten = paper config template markdown ∧
    ∀ id, inPassages markdown id ≤
        (parts config template markdown).count (command "cite".toList id) ∧
      (references markdown).count id = inPassages markdown id + inDestinations markdown id +
        inLeftOut markdown id + inFormulas markdown id := by
  refine ⟨?_, ?_, fun id => ⟨?_, ?_⟩⟩
  · rw [Citation.tokenFree_iff, marks_paper clean]
    constructor
    · intro free token wellFormed inside
      apply Citation.tokenFree_iff.mpr
      intro digits member
      exact free digits (List.mem_flatMap.mpr
        ⟨.formula token, mem_marks_iff.mpr ⟨wellFormed, inside⟩, member⟩)
    · intro free digits member
      obtain ⟨mark, listed, hidden⟩ := List.mem_flatMap.mp member
      cases mark with
      | citation others => cases hidden
      | formula token =>
        obtain ⟨wellFormed, inside⟩ := mem_marks_iff.mp listed
        exact Citation.tokenFree_iff.mp (free token wellFormed inside) digits hidden
  · rw [paper_eq_replaceAll clean, Scanner.replaceAll, List.flatMap_def]
    exact congrArg List.flatten (List.map_congr_left fun piece _ => by cases piece <;> rfl)
  · have least := (setAs_unresolved clean (Citation.mark id)).1
    rw [tally_singleton] at least
    exact Nat.le_trans least (count_parts config template markdown id)
  · have total := spells_protectedBody clean (Citation.mark id)
    rw [tally_singleton, Contents.total_append] at total
    rw [count_references clean, total]
    rfl

/-- References in the title, a list, a quotation beside a formula, and a heading with a
link. -/
def scatteredReferences : Text :=
  ("# On [^a]\n\n- *one* [^b]\n\n> $n$ by [^a]\n\n---\n\n" ++
  "## [More [^a]](y[^b])\n\n[^a]: A.\n").toList

/-- The paper of these references has a command for each of the three to one name. -/
theorem paper_cites_scatteredReferences :
    Clean Config.standard placeholder scatteredReferences ∧
      inPassages scatteredReferences ['a'] = 3 ∧
      3 ≤ (parts Config.standard placeholder scatteredReferences).count
        (command "cite".toList ['a']) := by
  have clean : Clean Config.standard placeholder scatteredReferences := by decide +kernel
  have set : inPassages scatteredReferences ['a'] = 3 := by decide +kernel
  have cited := ((paper_cites clean).2.2 ['a']).1
  rw [set] at cited
  exact ⟨clean, set, cited⟩

/-- A document with a reference in a formula only. -/
def referenceInFormula : Text :=
  "See $a[^k]$.\n\n[^k]: Knuth.".toList

/-- The token of a reference in a formula is left in the paper. -/
theorem paper_referenceInFormula :
    Clean Config.standard placeholder referenceInFormula ∧
      references referenceInFormula = [['k']] ∧
      paper Config.standard placeholder referenceInFormula =
        ("See $aCITATION-REF-6b-END$.\n\n\\begin\x7bthebibliography\x7d\x7b99\x7d\n\n" ++
        "\\bibitem\x7bk\x7d Knuth.\n\n\\end\x7bthebibliography\x7d").toList ∧
      ¬ Citation.TokenFree (paper Config.standard placeholder referenceInFormula) := by
  have written : paper Config.standard placeholder referenceInFormula =
      ("See $aCITATION-REF-6b-END$.\n\n\\begin\x7bthebibliography\x7d\x7b99\x7d\n\n" ++
      "\\bibitem\x7bk\x7d Knuth.\n\n\\end\x7bthebibliography\x7d").toList := by
    decide +kernel
  refine ⟨by decide +kernel, by decide +kernel, written, ?_⟩
  rw [written]
  decide +kernel

end Latex

end Scriptorium
