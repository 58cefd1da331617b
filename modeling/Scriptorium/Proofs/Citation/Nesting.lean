import Scriptorium.Proofs.Citation.Marker
import Scriptorium.Proofs.Entry
/-! # Markers inside of markers

Tokens are made of the characters that the names in markers are made of. So a marker with
others inside of its brackets is none itself, but becomes one when tokens are put in for the
inner ones (`Citation.tokenize_append_marker`). This is the only way in which putting tokens
into a line leaves a definition or a reference in it (`Citation.isSettled_tokenize_iff`).
-/

namespace Scriptorium

namespace Citation

open Extraction (lineReferences)

variable {s rest front behind id line name lead u : Text} {marker : Marker} {c : Char}

/-! ## Definitions and references -/

/-- A definition is a marker with a colon at the start of a line. -/
theorem definition?_isSome_iff : (Line.definition? s).isSome ↔
    ∃ id rest, IsName id ∧ s = markerText id ++ ':' :: rest := by
  constructor
  · intro found
    obtain ⟨_, read⟩ := Option.isSome_iff_exists.mp found
    simp only [Line.definition?, Option.bind_eq_bind, Option.bind_eq_some_iff, Prod.exists] at read
    obtain ⟨_, behind, opening, id, after, named, _, last, closing, -⟩ := read
    obtain ⟨split, nonempty, allowed, -⟩ := Scanner.run_eq_some named
    refine ⟨id, last, ⟨nonempty, allowed⟩, ?_⟩
    rw [Scanner.literal_eq_some_iff.mp opening, split, Scanner.literal_eq_some_iff.mp closing,
      markerText]
    simp only [List.cons_append, List.nil_append, List.append_assoc]
  · rintro ⟨id, rest, isName, rfl⟩
    have run : Line.citationId? (id ++ ']' :: ':' :: rest) = some (id, ']' :: ':' :: rest) := by
      refine Scanner.run_append isName.nonempty isName.allowed fun d first => ?_
      rw [List.head?_cons, Option.mem_some_iff] at first
      exact first ▸ by decide
    have opening : Scanner.literal ['[', '^'] ('[' :: '^' :: (id ++ ']' :: ':' :: rest)) =
        some ((), id ++ ']' :: ':' :: rest) := Scanner.literal_append ['[', '^'] _
    have closing : Scanner.literal [']', ':'] (']' :: ':' :: rest) = some ((), rest) :=
      Scanner.literal_append [']', ':'] rest
    have whole : markerText id ++ ':' :: rest = '[' :: '^' :: (id ++ ']' :: ':' :: rest) := by
      simp only [markerText, List.cons_append, List.append_assoc, List.nil_append]
    rw [whole, Line.definition?]
    simp only [opening, run, closing, Option.bind_eq_bind, Option.bind_some, Option.isSome_some]

/-- A marker is read where one is written. -/
theorem exists_marker? (isName : IsName id) (rest : Text) :
    ∃ marker behind, marker? (markerText id ++ rest) = some (marker, behind) ∧ marker.id = id ∧
      (marker.hasColon = true ↔ rest.head? = some ':') := by
  by_cases colon : rest.head? = some ':'
  · obtain ⟨behind, rfl⟩ := List.head?_eq_some_iff.mp colon
    refine ⟨⟨id, true⟩, behind, marker?_eq_some_iff.mpr ⟨isName, ?_, fun plain => by cases plain⟩,
      rfl, iff_of_true rfl colon⟩
    rw [Marker.text, if_pos rfl, List.append_assoc, List.singleton_append]
  · refine ⟨⟨id, false⟩, rest, marker?_eq_some_iff.mpr ⟨isName, ?_, fun _ => colon⟩, rfl,
      iff_of_false Bool.false_ne_true colon⟩
    rw [Marker.text, if_neg Bool.false_ne_true, List.append_nil]

/-- A line refers to a name when a marker of one stands in it without a colon behind. -/
theorem lineReferences_ne_nil_iff : lineReferences s ≠ [] ↔
    ∃ front id behind, IsName id ∧ s = front ++ (markerText id ++ behind) ∧
      behind.head? ≠ some ':' := by
  induction s using Scanner.match_induction length_lt_of_marker? with
  | nil =>
    refine iff_of_false (fun member => member (by simp [lineReferences, Scanner.pieces])) ?_
    rintro ⟨front, id, behind, -, whole, -⟩
    have nothing := (List.append_eq_nil_iff.mp (List.append_eq_nil_iff.mp whole.symm).2).1
    exact List.cons_ne_nil _ _ nothing
  | plain c cs absent ih =>
    rw [Extraction.lineReferences_of_none absent, ih]
    constructor
    · rintro ⟨front, id, behind, isName, rfl, plain⟩
      exact ⟨c :: front, id, behind, isName, rfl, plain⟩
    · rintro ⟨front, id, behind, isName, whole, plain⟩
      cases front with
      | nil =>
        obtain ⟨_, _, read, -⟩ := exists_marker? isName behind
        rw [whole, List.nil_append, read] at absent
        cases absent
      | cons d front =>
        cases whole
        exact ⟨front, id, behind, isName, rfl, plain⟩
  | found s marker rest read shorter ih =>
    obtain ⟨isName, whole, alone⟩ := marker?_eq_some_iff.mp read
    rw [Extraction.lineReferences_of_some read shorter]
    cases colon : marker.hasColon with
    | false =>
      refine iff_of_true (List.cons_ne_nil _ _) ⟨[], marker.id, rest, isName, ?_, alone colon⟩
      rw [whole, Marker.text, colon]
      simp
    | true =>
      rw [if_pos rfl, List.nil_append, ih]
      constructor
      · rintro ⟨front, id, behind, isName, rfl, plain⟩
        exact ⟨marker.text ++ front, id, behind, isName, by rw [whole, List.append_assoc], plain⟩
      · rintro ⟨front, id, behind, isOther, same, plain⟩
        cases front with
        | nil =>
          obtain ⟨other, _, again, -, sign⟩ := exists_marker? isOther behind
          rw [same, List.nil_append, again] at read
          cases read
          exact absurd (sign.mp colon) plain
        | cons d front =>
          rw [whole, Marker.text, markerText] at same
          obtain ⟨rfl, tail⟩ := List.cons_eq_cons.mp same
          have bracket : '[' ∉ '^' :: marker.id ++ [']'] ++ [':'] := by
            have named := isName.not_mem (c := '[') (by decide)
            simp [named]
          rw [colon, if_pos rfl] at tail
          obtain ⟨front', -, rfl⟩ := Text.exists_append_of_not_mem bracket tail
          exact ⟨front', id, behind, isOther, rfl, plain⟩

/-! ## What tokens are read from -/

private theorem isMarkChar_of_mem_token (nonempty : id ≠ []) (member : c ∈ token id) :
    isMarkChar c = true := by
  have isWord : (Mark.citation (Hex.encode id)).IsWord := isDigits_encode nonempty
  exact Mark.isMarkChar_of_mem isWord member

private theorem Marker.not_mem_tail_tokenized (isName : IsName marker.id) :
    '[' ∉ marker.tokenized.tail := by
  unfold Marker.tokenized
  split
  · intro member
    obtain ⟨_, tail, split⟩ := List.exists_cons_of_ne_nil (l := marker.text) (by
      rw [Marker.text, markerText]
      exact List.cons_ne_nil _ _)
    rw [split] at member
    exact absurd (isName.continuesMarker split _ member) (by decide)
  · intro member
    have inside := isMarkChar_of_mem_token isName.nonempty (List.mem_of_mem_tail member)
    exact absurd inside (by decide)

private theorem isCitationChar_of_mem_token (member : c ∈ token id) :
    Line.isCitationChar c = true := by
  have digits : Hex.digits.all Line.isCitationChar = true := by decide
  rw [token_eq, tokenText_eq] at member
  rcases List.mem_append.mp member with lead | member
  · exact List.all_eq_true.mp (by decide : tokenLead.all Line.isCitationChar = true) c lead
  · rcases List.mem_append.mp member with digit | closing
    · exact List.all_eq_true.mp digits c (Hex.mem_encode digit)
    · exact List.all_eq_true.mp (by decide : tokenEnd.all Line.isCitationChar = true) c closing

/-- A bracket in a text with tokens stood in the text. -/
theorem exists_of_tokenize_eq_append_bracket (same : tokenize s = front ++ '[' :: u) :
    ∃ before behind, s = before ++ '[' :: behind ∧ tokenize ('[' :: behind) = '[' :: u := by
  induction s using Scanner.match_induction length_lt_of_marker? generalizing front with
  | nil =>
    rw [tokenize_nil] at same
    exact absurd (List.append_eq_nil_iff.mp same.symm).2 (List.cons_ne_nil _ _)
  | plain d cs absent ih =>
    cases front with
    | nil =>
      rw [List.nil_append] at same
      have first := same
      rw [tokenize_of_none absent] at first
      obtain ⟨rfl, -⟩ := List.cons_eq_cons.mp first
      exact ⟨[], cs, rfl, same⟩
    | cons e front =>
      rw [tokenize_of_none absent] at same
      obtain ⟨rfl, later⟩ := List.cons_eq_cons.mp same
      obtain ⟨before, behind, rfl, found⟩ := ih later
      exact ⟨d :: before, behind, rfl, found⟩
  | found s marker rest read shorter ih =>
    obtain ⟨isName, whole, -⟩ := marker?_eq_some_iff.mp read
    cases front with
    | nil =>
      have opening : ∃ tail, s = '[' :: tail := by
        rw [whole, Marker.text, markerText]
        exact ⟨_, rfl⟩
      obtain ⟨tail, rfl⟩ := opening
      exact ⟨[], tail, rfl, same⟩
    | cons e front =>
      obtain ⟨d, tail, written⟩ := List.exists_cons_of_ne_nil marker.tokenized_ne_nil
      have bracket := marker.not_mem_tail_tokenized isName
      rw [tokenize_of_some read, written] at same
      rw [written] at bracket
      obtain ⟨front', -, later⟩ :=
        Text.exists_append_of_not_mem bracket (List.cons_eq_cons.mp same).2
      obtain ⟨before, behind, rfl, found⟩ := ih later
      exact ⟨marker.text ++ before, behind, by rw [whole, List.append_assoc], found⟩

/-- The name of a marker in a text with tokens was made of a text up to the closing bracket. -/
theorem exists_of_tokenize_eq_append_closing (named : ∀ c ∈ id, Line.isCitationChar c = true)
    (same : tokenize s = id ++ ']' :: u) :
    ∃ name behind, s = name ++ ']' :: behind ∧ tokenize name = id ∧ tokenize behind = u := by
  induction s using Scanner.match_induction length_lt_of_marker? generalizing id with
  | nil =>
    rw [tokenize_nil] at same
    exact absurd (List.append_eq_nil_iff.mp same.symm).2 (List.cons_ne_nil _ _)
  | plain d cs absent ih =>
    rw [tokenize_of_none absent] at same
    cases id with
    | nil =>
      obtain ⟨rfl, later⟩ := List.cons_eq_cons.mp same
      exact ⟨[], cs, rfl, tokenize_nil, later⟩
    | cons e id =>
      obtain ⟨rfl, later⟩ := List.cons_eq_cons.mp same
      obtain ⟨allowed, named⟩ := List.forall_mem_cons.mp named
      obtain ⟨name, behind, rfl, spelled, rest⟩ := ih named later
      have other : d ≠ '[' := by
        rintro rfl
        exact absurd allowed (by decide)
      exact ⟨d :: name, behind, rfl, by rw [tokenize_cons_of_ne other, spelled], rest⟩
  | found s marker rest read shorter ih =>
    obtain ⟨isName, whole, alone⟩ := marker?_eq_some_iff.mp read
    rw [tokenize_of_some read] at same
    cases colon : marker.hasColon with
    | true =>
      rw [Marker.tokenized, if_pos colon, Marker.text, markerText] at same
      cases id with
      | nil => exact absurd (List.cons_eq_cons.mp same).1 (by decide)
      | cons e id =>
        obtain ⟨rfl, -⟩ := List.cons_eq_cons.mp same
        exact absurd (named '[' List.mem_cons_self) (by decide)
    | false =>
      have token : marker.tokenized = token marker.id := by
        rw [Marker.tokenized, colon, if_neg Bool.false_ne_true]
      have closing : ']' ∉ marker.tokenized := fun member =>
        absurd (isCitationChar_of_mem_token (token ▸ member)) (by decide)
      obtain ⟨id', rfl, later⟩ := Text.exists_append_of_not_mem closing same
      obtain ⟨name, behind, rfl, spelled, ends⟩ :=
        ih (fun c member => named c (List.mem_append_right _ member)) later
      have again : marker? (marker.text ++ name) = some (marker, name) := by
        refine marker?_eq_some_iff.mpr ⟨isName, rfl, fun plain first => alone plain ?_⟩
        rw [List.head?_append, first]
        rfl
      exact ⟨marker.text ++ name, behind, by rw [whole, List.append_assoc],
        by rw [tokenize_of_some again, spelled], ends⟩

/-- Where the tokens of a text make up a name, they do so in front of a closing bracket too. -/
theorem tokenize_append_closing (named : ∀ c ∈ tokenize name, Line.isCitationChar c = true)
    (behind : Text) :
    tokenize (name ++ ']' :: behind) = tokenize name ++ ']' :: tokenize behind := by
  induction name using Scanner.match_induction length_lt_of_marker? with
  | nil => rw [tokenize_nil, List.nil_append, tokenize_cons_of_ne (by decide), List.nil_append]
  | plain d cs absent ih =>
    rw [tokenize_of_none absent] at named ⊢
    obtain ⟨allowed, named⟩ := List.forall_mem_cons.mp named
    have other : d ≠ '[' := by
      rintro rfl
      exact absurd allowed (by decide)
    rw [List.cons_append, tokenize_cons_of_ne other, ih named, List.cons_append]
  | found s marker rest read shorter ih =>
    obtain ⟨isName, whole, alone⟩ := marker?_eq_some_iff.mp read
    rw [tokenize_of_some read] at named ⊢
    have again : marker? (s ++ ']' :: behind) = some (marker, rest ++ ']' :: behind) := by
      refine marker?_eq_some_iff.mpr ⟨isName, by rw [whole, List.append_assoc], ?_⟩
      intro plain first
      rw [List.head?_append] at first
      cases later : rest.head? with
      | none =>
        rw [later] at first
        exact absurd (Option.some.inj first) (by decide)
      | some d =>
        rw [later] at first
        exact alone plain (later.trans first)
    rw [tokenize_of_some again, ih fun c member => named c (List.mem_append_right _ member),
      List.append_assoc]

/-- A character that no marker and no token starts with stays at the start of a text. -/
theorem head?_tokenize (bracket : c ≠ '[') (lead : c ≠ 'C') :
    (tokenize s).head? = some c ↔ s.head? = some c := by
  cases s with
  | nil => rw [tokenize_nil]
  | cons d cs =>
    cases read : marker? (d :: cs) with
    | none => rw [tokenize_of_none read, List.head?_cons, List.head?_cons]
    | some found =>
      have opening := (marker?_eq_some_iff.mp read).2.1
      rw [Marker.text, markerText] at opening
      obtain ⟨rfl, -⟩ := List.cons_eq_cons.mp opening
      have first : found.1.tokenized.head? = some '[' ∨ found.1.tokenized.head? = some 'C' := by
        unfold Marker.tokenized
        split
        · left
          rw [Marker.text, markerText]
          rfl
        · right
          rw [token_eq, tokenText_eq]
          rfl
      refine iff_of_false ?_ fun same => bracket (Option.some.inj same).symm
      rw [tokenize_of_some read, List.head?_append]
      rcases first with first | first
      · rw [first]
        exact fun same => bracket (Option.some.inj same).symm
      · rw [first]
        exact fun same => lead (Option.some.inj same).symm

/-! ## Characters that stay -/

/-- Tokens bring no start of a text about, and hide none. -/
theorem prefix_tokenize_iff (signs : ∀ c ∈ lead, c ≠ '[' ∧ c ≠ 'C') :
    lead <+: tokenize s ↔ lead <+: s := by
  induction lead generalizing s with
  | nil => exact iff_of_true List.nil_prefix List.nil_prefix
  | cons c lead ih =>
    obtain ⟨⟨bracket, letter⟩, later⟩ := List.forall_mem_cons.mp signs
    have first : (tokenize s).head? = some c ↔ s.head? = some c := head?_tokenize bracket letter
    constructor
    · intro start
      obtain ⟨tail, written⟩ := start
      obtain ⟨behind, rfl⟩ := List.head?_eq_some_iff.mp (first.mp (by rw [← written]; rfl))
      have start : c :: lead <+: tokenize (c :: behind) := ⟨tail, written⟩
      rw [tokenize_cons_of_ne bracket] at start
      exact List.cons_prefix_cons.mpr ⟨rfl, (ih later).mp (List.cons_prefix_cons.mp start).2⟩
    · rintro ⟨behind, rfl⟩
      rw [List.cons_append, tokenize_cons_of_ne bracket]
      exact List.cons_prefix_cons.mpr ⟨rfl, (ih later).mpr (List.prefix_append lead behind)⟩

/-- Blank characters at the start of a text may be dropped before or after the tokens are put in. -/
theorem trimStart_tokenize (s : Text) : (tokenize s).trimStart = tokenize s.trimStart := by
  induction s with
  | nil =>
    rw [tokenize_nil]
    exact tokenize_nil.symm
  | cons c s ih =>
    cases blank : isBlank c with
    | true =>
      have other : c ≠ '[' := by
        rintro rfl
        exact absurd blank (by decide)
      rw [tokenize_cons_of_ne other, Text.trimStart, Text.trimStart,
        List.dropWhile_cons_of_pos blank, List.dropWhile_cons_of_pos blank]
      exact ih
    | false =>
      have solid : ∀ d ∈ (tokenize (c :: s)).head?, isBlank d = false := by
        intro d first
        by_contra blank'
        rw [Bool.not_eq_false] at blank'
        have signs : ∀ e ∈ ['[', 'C'], d ≠ e := by
          rintro e member rfl
          have visible : ∀ e ∈ ['[', 'C'], isBlank e = false :=
            List.all_iff_forall_prop.mp (by decide)
          rw [visible d member] at blank'
          cases blank'
        have same := (head?_tokenize (signs '[' (by decide)) (signs 'C' (by decide))).mp first
        cases same
        rw [blank] at blank'
        cases blank'
      rw [Text.trimStart, Text.trimStart,
        List.dropWhile_cons_of_neg (by rw [blank]; exact Bool.false_ne_true)]
      cases written : tokenize (c :: s) with
      | nil => rfl
      | cons d tail =>
        rw [written] at solid
        exact List.dropWhile_cons_of_neg (by rw [solid d rfl]; exact Bool.false_ne_true)

/-- Tokens make no fence of a line and take none away. -/
theorem isFence_tokenize (line : Text) :
    Line.isFence (tokenize line).trimStart = Line.isFence line.trimStart := by
  rw [trimStart_tokenize, Bool.eq_iff_iff, Line.isFence_iff, Line.isFence_iff,
    prefix_tokenize_iff (List.all_iff_forall_prop.mp (by decide)),
    prefix_tokenize_iff (List.all_iff_forall_prop.mp (by decide))]

/-- A line without references is tokenized to itself. -/
theorem tokenize_of_lineReferences_eq_nil (none : lineReferences s = []) : tokenize s = s := by
  induction s using Scanner.match_induction length_lt_of_marker? with
  | nil => exact tokenize_nil
  | plain c cs absent ih =>
    rw [Extraction.lineReferences_of_none absent] at none
    rw [tokenize_of_none absent, ih none]
  | found s marker rest read shorter ih =>
    rw [Extraction.lineReferences_of_some read shorter] at none
    obtain ⟨here, later⟩ := List.append_eq_nil_iff.mp none
    have colon : marker.hasColon = true := by
      by_contra plain
      rw [if_neg plain] at here
      cases here
    rw [tokenize_of_some read, ih later, Marker.tokenized, if_pos colon,
      ← (marker?_eq_some_iff.mp read).2.1]

/-! ## Settled lines -/

/-- A line that is no definition and refers to nothing. -/
structure IsSettled (line : Text) : Prop where
  undefined : Line.definition? line = none
  unreferring : lineReferences line = []

/-- A marker with others inside of its brackets, that has a name when tokens stand for those.
With a colon behind it, it stands at the start of the line. -/
def Nests (line : Text) : Prop :=
  ∃ front name behind, line = front ++ (markerText name ++ behind) ∧ '[' ∈ name ∧
    IsName (tokenize name) ∧ (behind.head? = some ':' → front = [])

/-- What a line says about citations: a marker of a name, at its start or without a colon. -/
theorem not_isSettled_iff : ¬ IsSettled line ↔
    ∃ front id behind, IsName id ∧ line = front ++ (markerText id ++ behind) ∧
      (behind.head? = some ':' → front = []) := by
  constructor
  · intro unsettled
    by_cases referring : lineReferences line = []
    · have defined : (Line.definition? line).isSome := by
        rw [Option.isSome_iff_ne_none]
        exact fun undefined => unsettled ⟨undefined, referring⟩
      obtain ⟨id, rest, isName, whole⟩ := definition?_isSome_iff.mp defined
      exact ⟨[], id, ':' :: rest, isName, whole, fun _ => rfl⟩
    · obtain ⟨front, id, behind, isName, whole, plain⟩ := lineReferences_ne_nil_iff.mp referring
      exact ⟨front, id, behind, isName, whole, fun colon => absurd colon plain⟩
  · rintro ⟨front, id, behind, isName, whole, start⟩ settled
    by_cases colon : behind.head? = some ':'
    · obtain ⟨rest, rfl⟩ := List.head?_eq_some_iff.mp colon
      have defined := definition?_isSome_iff.mpr ⟨id, rest, isName, rfl⟩
      rw [start colon, List.nil_append] at whole
      rw [← whole, settled.undefined] at defined
      cases defined
    · exact lineReferences_ne_nil_iff.mpr ⟨front, id, behind, isName, whole, colon⟩
        settled.unreferring

private theorem markerText_append (name behind : Text) :
    markerText name ++ behind = '[' :: '^' :: (name ++ ']' :: behind) := by
  simp only [markerText, List.cons_append, List.append_assoc, List.nil_append]

/-- A marker with others inside of it is left, with their tokens for a name. -/
theorem tokenize_append_marker (name : Text) (isName : IsName (tokenize name))
    (nested : '[' ∈ name) (front behind : Text) :
    tokenize (front ++ (markerText name ++ behind)) =
      tokenize front ++ (markerText (tokenize name) ++ tokenize behind) := by
  have absent : marker? (markerText name ++ behind) = none := by
    cases read : marker? (markerText name ++ behind) with
    | none => rfl
    | some found =>
      exfalso
      obtain ⟨isOther, whole, -⟩ := marker?_eq_some_iff.mp read
      rw [Marker.text, List.append_assoc, markerText_append, markerText_append] at whole
      obtain ⟨-, -, same⟩ := List.cons_eq_cons.mp whole |>.imp_right List.cons_eq_cons.mp
      -- The name would end before its bracket, but the tokens leave no closing one in it.
      have closing : ']' ∉ found.1.id := isOther.not_mem (by decide)
      obtain ⟨later, reached, across⟩ := Text.exists_append_of_not_mem closing same.symm
      cases later with
      | nil =>
        rw [List.append_nil] at reached
        exact isOther.not_mem (by decide) (reached ▸ nested)
      | cons d later =>
        obtain ⟨rfl, -⟩ := List.cons_eq_cons.mp across
        have bracket : '[' ∉ found.1.id := isOther.not_mem (by decide)
        rw [reached, tokenize_append_of_not_mem bracket, tokenize_cons_of_ne (by decide)] at isName
        exact isName.not_mem (by decide) (List.mem_append_right _ List.mem_cons_self)
  rw [markerText_append] at absent
  rw [markerText_append, markerText_append, tokenize_append_cons (by decide),
    tokenize_of_none absent, tokenize_cons_of_ne (by decide),
    tokenize_append_closing isName.allowed]

/-- A marker that starts a text with tokens, where one started the text itself, has a colon behind
it: any other has given way to its token. -/
theorem hasColon_of_tokenize_eq {found : Marker × Text} (isName : IsName id)
    (read : marker? s = some found) (here : tokenize s = markerText id ++ behind) :
    found.1.hasColon = true ∧ behind.head? = some ':' := by
  rw [tokenize_of_some read] at here
  cases colon : found.1.hasColon with
  | false =>
    rw [Marker.tokenized, colon, if_neg Bool.false_ne_true, token_eq, tokenText_eq,
      markerText_append] at here
    exact absurd (List.cons_eq_cons.mp here).1 (by decide)
  | true =>
    obtain ⟨isOther, -, -⟩ := marker?_eq_some_iff.mp read
    rw [Marker.tokenized, if_pos colon] at here
    have again : marker? (markerText id ++ behind) = some (found.1, tokenize found.2) :=
      marker?_eq_some_iff.mpr ⟨isOther, here.symm, fun plain => by
        rw [colon] at plain
        cases plain⟩
    obtain ⟨other, _, read', -, sign⟩ := exists_marker? isName behind
    rw [again] at read'
    cases read'
    exact ⟨rfl, sign.mp colon⟩

/-- A marker in a line with tokens that was none in the line had others inside of it. -/
theorem nests_of_tokenize_eq (undefined : Line.definition? line = none) (isName : IsName id)
    (whole : tokenize line = front ++ (markerText id ++ behind))
    (start : behind.head? = some ':' → front = []) : Nests line := by
  have bracket := whole
  rw [markerText_append] at bracket
  obtain ⟨before, inside, rfl, here⟩ := exists_of_tokenize_eq_append_bracket bracket
  have same : tokenize before = front := by
    rw [tokenize_append_cons (by decide), here] at bracket
    exact List.append_cancel_right bracket
  have empty : behind.head? = some ':' → before = [] := by
    intro colon
    by_contra nonempty
    exact tokenize_ne_nil nonempty (same.trans (start colon))
  cases read : marker? ('[' :: inside) with
  | some found =>
    -- Only a colon keeps a marker, and then the line that it starts is a definition.
    exfalso
    obtain ⟨isOther, opening, -⟩ := marker?_eq_some_iff.mp read
    rw [← markerText_append] at here
    obtain ⟨colon, sign⟩ := hasColon_of_tokenize_eq isName read here
    rw [Marker.text, if_pos colon, List.append_assoc] at opening
    have defined := definition?_isSome_iff.mpr ⟨_, _, isOther, opening⟩
    rw [empty sign, List.nil_append] at undefined
    rw [undefined] at defined
    cases defined
  | none =>
    rw [tokenize_of_none read] at here
    have later := (List.cons_eq_cons.mp here).2
    have first := (head?_tokenize (c := '^') (by decide) (by decide)).mp
      (congrArg List.head? later)
    obtain ⟨inside, rfl⟩ := List.head?_eq_some_iff.mp first
    rw [tokenize_cons_of_ne (by decide)] at later
    obtain ⟨name, rest, rfl, spelled, ends⟩ :=
      exists_of_tokenize_eq_append_closing isName.allowed (List.cons_eq_cons.mp later).2
    refine ⟨before, name, rest, by rw [markerText_append], ?_, spelled ▸ isName, fun colon => ?_⟩
    · by_contra plain
      rw [tokenize_of_not_mem plain] at spelled
      obtain ⟨_, _, read', -⟩ := exists_marker? (spelled ▸ isName) rest
      rw [markerText_append, read] at read'
      cases read'
    · apply empty
      rw [← ends]
      exact (head?_tokenize (by decide) (by decide)).mpr colon

/-- **Putting tokens into a line leaves nothing to do** unless markers are nested in it. -/
theorem isSettled_tokenize_iff (undefined : Line.definition? line = none) :
    IsSettled (tokenize line) ↔ ¬ Nests line := by
  rw [← not_iff_not, not_not, not_isSettled_iff]
  constructor
  · rintro ⟨front, id, behind, isName, whole, start⟩
    exact nests_of_tokenize_eq undefined isName whole start
  · rintro ⟨front, name, behind, rfl, nested, isName, start⟩
    refine ⟨tokenize front, tokenize name, tokenize behind, isName,
      tokenize_append_marker name isName nested front behind, fun colon => ?_⟩
    rw [start ((head?_tokenize (by decide) (by decide)).mp colon), tokenize_nil]

/-! ## Blank ends -/

/-- Blank characters behind a text do not settle it, nor unsettle it. -/
theorem isSettled_append_of_blank {behind : Text} (blank : ∀ c ∈ behind, isBlank c = true) :
    IsSettled (s ++ behind) ↔ IsSettled s := by
  have closing : ']' ∉ behind := fun member => absurd (blank _ member) (by decide)
  have colon : ':' ∉ behind := fun member => absurd (blank _ member) (by decide)
  rw [← not_iff_not, not_isSettled_iff, not_isSettled_iff]
  constructor
  · rintro ⟨front, id, rest, isName, whole, start⟩
    have bracket : s ++ behind = (front ++ '[' :: '^' :: id) ++ ']' :: rest := by
      rw [whole, markerText_append]
      simp only [List.append_assoc, List.cons_append]
    obtain ⟨rest', rfl, rfl⟩ := Text.exists_of_append_eq_append_cons closing bracket
    refine ⟨front, id, rest', isName, ?_, fun first => start ?_⟩
    · rw [markerText_append]
      simp only [List.append_assoc, List.cons_append]
    · rw [List.head?_append, first]
      rfl
  · rintro ⟨front, id, rest, isName, rfl, start⟩
    refine ⟨front, id, rest ++ behind, isName, by simp only [List.append_assoc], fun first => ?_⟩
    rw [List.head?_append] at first
    cases rest with
    | nil => exact absurd (List.mem_of_mem_head? first) colon
    | cons d rest => exact start first

private theorem isSettled_nil : IsSettled [] where
  undefined := rfl
  unreferring := by rw [lineReferences, Scanner.pieces]; rfl

/-- Blank characters at its end do not settle a line, nor unsettle it. -/
theorem isSettled_trimEnd (s : Text) : IsSettled s.trimEnd ↔ IsSettled s := by
  obtain ⟨behind, whole, blank⟩ := s.exists_trimEnd_append
  rw [← isSettled_append_of_blank blank, ← whole]

/-- A blank line is settled. -/
theorem isSettled_of_trimEnd_eq_nil (blank : s.trimEnd = []) : IsSettled s := by
  rw [← isSettled_trimEnd, blank]
  exact isSettled_nil

/-! ## Brackets -/

/-- Putting tokens into a line takes one bracket out for each reference. -/
theorem count_tokenize (s : Text) :
    (tokenize s).count '[' + (lineReferences s).length = s.count '[' := by
  induction s using Scanner.match_induction length_lt_of_marker? with
  | nil =>
    rw [tokenize_nil, isSettled_nil.unreferring]
    rfl
  | plain c cs absent ih =>
    rw [tokenize_of_none absent, Extraction.lineReferences_of_none absent, List.count_cons,
      List.count_cons, ← ih]
    omega
  | found s marker rest read shorter ih =>
    obtain ⟨isName, whole, -⟩ := marker?_eq_some_iff.mp read
    have named : marker.id.count '[' = 0 := List.count_eq_zero.mpr (isName.not_mem (by decide))
    have token : (token marker.id).count '[' = 0 :=
      List.count_eq_zero.mpr fun member =>
        absurd (isCitationChar_of_mem_token member) (by decide)
    rw [tokenize_of_some read, Extraction.lineReferences_of_some read shorter, List.count_append,
      whole, List.count_append, ← ih, Marker.tokenized, Marker.text]
    cases marker.hasColon with
    | true => simp only [↓reduceIte, List.nil_append]; omega
    | false =>
      simp [token, named, markerText]
      omega

/-- Tokens bring no characters with them but their own. -/
theorem not_mem_tokenize (other : isMarkChar c = false) (absent : c ∉ s) : c ∉ tokenize s := by
  induction s using Scanner.match_induction length_lt_of_marker? with
  | nil => rwa [tokenize_nil]
  | plain d cs none ih =>
    obtain ⟨different, later⟩ := List.ne_and_not_mem_of_not_mem_cons absent
    rw [tokenize_of_none none]
    exact List.not_mem_cons_of_ne_of_not_mem different (ih later)
  | found s marker rest read shorter ih =>
    obtain ⟨isName, whole, -⟩ := marker?_eq_some_iff.mp read
    rw [whole] at absent
    rw [tokenize_of_some read, Marker.tokenized]
    refine List.not_mem_append ?_ (ih fun member => absent (List.mem_append_right _ member))
    split
    · exact fun member => absent (List.mem_append_left _ member)
    · intro member
      have inside := isMarkChar_of_mem_token isName.nonempty member
      rw [other] at inside
      cases inside

end Citation

end Scriptorium
