import Mathlib.Data.Bool.AllAny
import Mathlib.Data.List.Basic
import Scriptorium.Proofs.Citation.Extraction
/-! # Markers of citations

A marker is read where it is written (`Citation.marker?_eq_some_iff`). The characters that it
goes on with behind its first bracket are few, so a text may be cut at any other without
cutting a marker (`Citation.pieces_append_cons`), and putting tokens into a text may be done on
the two sides of such a character (`Citation.tokenize_append_cons`). In particular it may be
done line by line (`Citation.tokenize_joinLines`), before or after the end of a text is
trimmed (`Citation.closeText_tokenize`).
-/

namespace Scriptorium

/-- Closing a text leaves it without blank characters at its end, and puts a line feed there unless
nothing is left. -/
theorem Extraction.closeText_eq (s : Text) :
    closeText s = if s.trimEnd = [] then [] else s.trimEnd ++ ['\n'] := by
  unfold closeText
  cases s.trimEnd with
  | nil => rfl
  | cons c cs => rw [if_neg (List.cons_ne_nil c cs)]

namespace Citation

variable {s rest front behind id : Text} {marker : Marker} {c : Char}

/-- The form of the names in markers. -/
structure IsName (id : Text) : Prop where
  nonempty : id ≠ []
  allowed : ∀ c ∈ id, Line.isCitationChar c = true

/-- A sign that may not stand in a name does not stand in one. -/
theorem IsName.not_mem (isName : IsName id) (other : Line.isCitationChar c = false) : c ∉ id := by
  intro member
  rw [isName.allowed c member] at other
  cases other

/-- A marker as it is written, with its colon. -/
def Marker.text (marker : Marker) : Text :=
  markerText marker.id ++ if marker.hasColon then [':'] else []

/-- A marker that is read stands there as it is written, with its colon if one follows. -/
theorem eq_text_append_of_marker? (read : marker? s = some (marker, rest)) :
    IsName marker.id ∧ s = marker.text ++ rest ∧
      (marker.hasColon = false → rest.head? ≠ some ':') := by
  have whole := (eq_of_marker?_eq_some read).2
  rw [← List.append_assoc] at whole
  simp only [marker?, Option.bind_eq_bind, Option.bind_eq_some_iff, Prod.exists] at read
  obtain ⟨_, after, opening, id, closing, named, _, last, bracket, same⟩ := read
  obtain ⟨-, nonempty, allowed, -⟩ := Scanner.run_eq_some named
  split at same
  · cases same
    exact ⟨⟨nonempty, allowed⟩, whole, fun plain => by cases plain⟩
  · rename_i other
    cases same
    refine ⟨⟨nonempty, allowed⟩, whole, fun _ first => ?_⟩
    obtain ⟨tail, behind⟩ := List.head?_eq_some_iff.mp first
    exact other tail behind

/-- A marker is read, whatever follows it, unless that is a colon. -/
theorem IsName.marker?_text_append (isName : IsName marker.id)
    (alone : marker.hasColon = false → rest.head? ≠ some ':') :
    marker? (marker.text ++ rest) = some (marker, rest) := by
  obtain ⟨id, hasColon⟩ := marker
  have run : ∀ tail : Text, Line.citationId? (id ++ ']' :: tail) = some (id, ']' :: tail) := by
    intro tail
    refine Scanner.run_append isName.nonempty isName.allowed fun d first => ?_
    rw [List.head?_cons, Option.mem_some_iff] at first
    exact first ▸ by decide
  have opening : ∀ tail : Text,
      Scanner.literal ['[', '^'] ('[' :: '^' :: tail) = some ((), tail) :=
    Scanner.literal_append ['[', '^']
  have closing : ∀ tail : Text, Scanner.literal [']'] (']' :: tail) = some ((), tail) :=
    Scanner.literal_append [']']
  have whole : Marker.text ⟨id, hasColon⟩ ++ rest =
      '[' :: '^' :: (id ++ ']' :: ((if hasColon then [':'] else []) ++ rest)) := by
    simp only [Marker.text, markerText, List.cons_append, List.append_assoc, List.nil_append]
  rw [whole, marker?]
  simp only [opening, run, closing, Option.bind_eq_bind, Option.bind_some]
  cases hasColon with
  | true => rfl
  | false =>
    rw [if_neg Bool.false_ne_true, List.nil_append]
    split
    · exact absurd rfl (alone rfl)
    · rfl

/-- A marker is read where it is written, up to its colon if one follows. -/
theorem marker?_eq_some_iff : marker? s = some (marker, rest) ↔
    IsName marker.id ∧ s = marker.text ++ rest ∧
      (marker.hasColon = false → rest.head? ≠ some ':') := by
  refine ⟨eq_text_append_of_marker?, ?_⟩
  rintro ⟨isName, rfl, alone⟩
  exact isName.marker?_text_append alone

private theorem marker?_cons_of_ne (other : c ≠ '[') (cs : Text) : marker? (c :: cs) = none := by
  cases read : marker? (c :: cs) with
  | none => rfl
  | some found =>
    have whole := (marker?_eq_some_iff.mp read).2.1
    rw [Marker.text, markerText] at whole
    exact absurd (List.cons_eq_cons.mp whole).1 other

/-- A character that a marker goes on with behind its first bracket. -/
def continuesMarker (c : Char) : Bool :=
  Line.isCitationChar c || c == '^' || c == ']' || c == ':'

/-- Behind its first character a marker consists of characters that continue one. -/
theorem IsName.continuesMarker (isName : IsName marker.id) {first : Char} {tail : Text}
    (split : marker.text = first :: tail) : ∀ c ∈ tail, continuesMarker c = true := by
  rw [Marker.text, markerText] at split
  obtain ⟨-, rfl⟩ := List.cons_eq_cons.mp split
  have named : ∀ c ∈ marker.id, Citation.continuesMarker c = true := by
    intro c member
    rw [Citation.continuesMarker, isName.allowed c member]
    rfl
  have signs : ∀ c ∈ ['^', ']', ':'], Citation.continuesMarker c = true :=
    List.all_iff_forall_prop.mp (by decide)
  intro c member
  cases colon : marker.hasColon <;> simp [colon] at member <;> grind

/-- Where no marker goes on, a marker in front is the same whatever stands behind. -/
theorem marker?_append_cons (outside : continuesMarker c = false) (nonempty : front ≠ [])
    (behind : Text) : marker? (front ++ c :: behind) =
      (marker? front).map fun found => (found.1, found.2 ++ c :: behind) := by
  have notColon : c ≠ ':' := by
    rintro rfl
    cases outside
  cases read : marker? front with
  | some found =>
    obtain ⟨isName, whole, alone⟩ := marker?_eq_some_iff.mp read
    refine marker?_eq_some_iff.mpr ⟨isName, ?_, fun plain first => ?_⟩
    · rw [whole, List.append_assoc]
    · rw [List.head?_append] at first
      cases later : found.2.head? with
      | none =>
        rw [later] at first
        exact notColon (Option.some.inj first)
      | some d =>
        rw [later] at first
        exact alone plain (later.trans first)
  | none =>
    cases across : marker? (front ++ c :: behind) with
    | none => rfl
    | some found =>
      exfalso
      obtain ⟨isName, whole, alone⟩ := marker?_eq_some_iff.mp across
      rcases List.append_eq_append_iff.mp whole with ⟨part, reached, later⟩ | ⟨part, inside, later⟩
      · cases part with
        | nil =>
          rw [List.append_nil] at reached
          have here : marker? front = some (found.1, []) :=
            marker?_eq_some_iff.mpr ⟨isName, by rw [reached, List.append_nil],
              fun _ first => by cases first⟩
          rw [read] at here
          cases here
        | cons d part =>
          obtain ⟨rfl, -⟩ := List.cons_eq_cons.mp later
          obtain ⟨e, tail, rfl⟩ := List.exists_cons_of_ne_nil nonempty
          have inside := isName.continuesMarker reached c
            (List.mem_append_right tail List.mem_cons_self)
          rw [outside] at inside
          cases inside
      · have here : marker? front = some (found.1, part) := by
          refine marker?_eq_some_iff.mpr ⟨isName, inside, fun plain first => alone plain ?_⟩
          rw [later, List.head?_append, first]
          rfl
        rw [read] at here
        cases here

/-- No marker reaches across a character that continues none. -/
theorem pieces_append_cons (outside : continuesMarker c = false) (front behind : Text) :
    Scanner.pieces marker? (front ++ c :: behind) =
      Scanner.pieces marker? front ++ Scanner.pieces marker? (c :: behind) :=
  Scanner.pieces_append length_lt_of_marker?
    (fun _ _ _ read => ⟨_, (marker?_eq_some_iff.mp read).2.1.symm⟩) front
    (fun _ nonempty _ => marker?_append_cons outside nonempty behind)

/-! ## Lines with tokens -/

/-- What a marker becomes while a page is rendered. -/
def Marker.tokenized (marker : Marker) : Text :=
  if marker.hasColon then marker.text else token marker.id

private theorem tokenize_eq_replaceAll (s : Text) :
    tokenize s = Scanner.replaceAll marker? Marker.tokenized s := by
  unfold tokenize Scanner.replaceAll
  congr 1
  funext piece
  cases piece with
  | plain c => rfl
  | found marker =>
    obtain ⟨id, hasColon⟩ := marker
    cases hasColon <;> rfl

/-- Where there is no text there are no tokens. -/
theorem tokenize_nil : tokenize [] = [] :=
  Scanner.replaceAll_nil

/-- A character that no marker begins with stays. -/
theorem tokenize_of_none {cs : Text} (absent : marker? (c :: cs) = none) :
    tokenize (c :: cs) = c :: tokenize cs :=
  Scanner.replaceAll_of_none absent

/-- A marker becomes its token, and the search goes on behind it. -/
theorem tokenize_of_some (read : marker? s = some (marker, rest)) :
    tokenize s = marker.tokenized ++ tokenize rest := by
  rw [tokenize_eq_replaceAll,
    Scanner.replaceAll_of_some read (length_lt_of_marker? _ _ _ read), tokenize_eq_replaceAll]

/-- A character other than an opening bracket stays. -/
theorem tokenize_cons_of_ne (other : c ≠ '[') (cs : Text) : tokenize (c :: cs) = c :: tokenize cs :=
  tokenize_of_none (marker?_cons_of_ne other cs)

/-- Putting tokens into a text may be done on the two sides of a character that no marker
goes on with. -/
theorem tokenize_append_cons (outside : continuesMarker c = false) (front behind : Text) :
    tokenize (front ++ c :: behind) = tokenize front ++ tokenize (c :: behind) := by
  unfold tokenize Scanner.replaceAll
  rw [pieces_append_cons outside, List.flatMap_append]

private theorem continuesMarker_of_isBlank (blank : isBlank c = true) :
    continuesMarker c = false := by
  have other := Mark.isMarkChar_of_isBlank blank
  simp only [isMarkChar, Bool.or_eq_false_iff] at other
  have signs : ∀ d ∈ ['_', '-', '^', ']', ':'], c ≠ d := by
    rintro d member rfl
    have solid : ∀ e ∈ ['_', '-', '^', ']', ':'], isBlank e = false :=
      List.all_iff_forall_prop.mp (by decide)
    rw [solid c member] at blank
    cases blank
  simp only [List.forall_mem_cons, ← beq_eq_false_iff_ne] at signs
  simp only [continuesMarker, Line.isCitationChar, other.1.1, signs, Bool.or_self]

/-- Text without opening brackets stays, and the search goes on behind it. -/
theorem tokenize_append_of_not_mem (absent : '[' ∉ front) (behind : Text) :
    tokenize (front ++ behind) = front ++ tokenize behind := by
  induction front with
  | nil => rfl
  | cons d front ih =>
    obtain ⟨other, later⟩ := List.ne_and_not_mem_of_not_mem_cons absent
    rw [List.cons_append, tokenize_cons_of_ne (Ne.symm other), ih later, List.cons_append]

/-- Text without opening brackets holds no marker, so it stays. -/
theorem tokenize_of_not_mem (absent : '[' ∉ s) : tokenize s = s := by
  have whole := tokenize_append_of_not_mem absent []
  rwa [tokenize_nil, List.append_nil] at whole

/-- Blank characters at the end of a text stay there. -/
theorem tokenize_append_of_blank (blank : ∀ c ∈ behind, isBlank c = true) (front : Text) :
    tokenize (front ++ behind) = tokenize front ++ behind := by
  have opening : '[' ∉ behind := fun member => absurd (blank _ member) (by decide)
  cases behind with
  | nil => rw [List.append_nil, List.append_nil]
  | cons d behind =>
    rw [tokenize_append_cons (continuesMarker_of_isBlank (blank d List.mem_cons_self)),
      tokenize_of_not_mem opening]

/-- Tokens are put into lines one by one, or into all of them together. -/
theorem tokenize_joinLines (lines : List Text) :
    tokenize (Text.joinLines lines) = Text.joinLines (lines.map tokenize) := by
  unfold Text.joinLines Text.join
  induction lines with
  | nil => exact tokenize_nil
  | cons line lines ih =>
    cases lines with
    | nil => rw [List.map_singleton, List.intercalate_singleton, List.intercalate_singleton]
    | cons next lines =>
      rw [List.map_cons, List.map_cons, List.intercalate_cons_cons, List.intercalate_cons_cons,
        List.append_assoc, List.append_assoc, List.singleton_append, List.singleton_append,
        tokenize_append_cons (by decide), tokenize_cons_of_ne (by decide), ih, List.map_cons]

/-! ## The end of a text with tokens -/

/-- A marker is never written as nothing. -/
theorem Marker.tokenized_ne_nil (marker : Marker) : marker.tokenized ≠ [] := by
  unfold Marker.tokenized
  split
  · rw [Marker.text, markerText]
    exact List.cons_ne_nil _ _
  · rw [token_eq, tokenText_eq, tokenLead]
    exact List.cons_ne_nil _ _

private theorem Marker.getLast?_tokenized (marker : Marker) :
    ∀ c ∈ marker.tokenized.getLast?, isBlank c = false := by
  intro c last
  unfold Marker.tokenized at last
  split at last
  · rename_i colon
    rw [Marker.text, if_pos colon, List.getLast?_concat] at last
    cases last
    decide
  · rw [token_eq, tokenText_eq, ← List.append_assoc, List.getLast?_append] at last
    cases last
    decide

/-- A text with tokens in it is empty only when the text is. -/
theorem tokenize_ne_nil (nonempty : s ≠ []) : tokenize s ≠ [] := by
  obtain ⟨d, cs, rfl⟩ := List.exists_cons_of_ne_nil nonempty
  cases read : marker? (d :: cs) with
  | none =>
    rw [tokenize_of_none read]
    exact List.cons_ne_nil d _
  | some found =>
    rw [tokenize_of_some read]
    exact List.append_ne_nil_of_left_ne_nil found.1.tokenized_ne_nil _

/-- The last character of a text with tokens is blank only if that of the text is. -/
theorem getLast?_tokenize (last : ∀ c ∈ s.getLast?, isBlank c = false) :
    ∀ c ∈ (tokenize s).getLast?, isBlank c = false := by
  induction s using Scanner.match_induction length_lt_of_marker? with
  | nil => rwa [tokenize_nil]
  | plain d cs absent ih =>
    rw [tokenize_of_none absent]
    by_cases empty : cs = []
    · subst empty
      rwa [tokenize_nil]
    · rw [← List.singleton_append, List.getLast?_append_of_ne_nil _ empty] at last
      rw [← List.singleton_append, List.getLast?_append_of_ne_nil _ (tokenize_ne_nil empty)]
      exact ih last
  | found s marker rest read shorter ih =>
    rw [tokenize_of_some read]
    by_cases empty : rest = []
    · subst empty
      rw [tokenize_nil, List.append_nil]
      exact marker.getLast?_tokenized
    · rw [(marker?_eq_some_iff.mp read).2.1, List.getLast?_append_of_ne_nil _ empty] at last
      rw [List.getLast?_append_of_ne_nil _ (tokenize_ne_nil empty)]
      exact ih last

private theorem trimEnd_tokenize (s : Text) : (tokenize s).trimEnd = tokenize s.trimEnd := by
  obtain ⟨behind, whole, blank⟩ := s.exists_trimEnd_append
  have solid := getLast?_tokenize s.getLast?_trimEnd
  rw [whole, tokenize_append_of_blank blank, Text.trimEnd, Text.dropEndWhile_append_of_all blank,
    Text.dropEndWhile_eq_self solid, ← whole]

/-- The end of a text is closed before or after tokens are put into it. -/
theorem closeText_tokenize (s : Text) :
    Extraction.closeText (tokenize s) = tokenize (Extraction.closeText s) := by
  rw [Extraction.closeText_eq, Extraction.closeText_eq, trimEnd_tokenize]
  by_cases empty : s.trimEnd = []
  · rw [empty, tokenize_nil, if_pos rfl]
    exact tokenize_nil.symm
  · rw [if_neg (tokenize_ne_nil empty), if_neg empty,
      tokenize_append_of_blank (List.forall_mem_singleton.mpr (by decide))]

end Citation

end Scriptorium
