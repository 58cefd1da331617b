import Mathlib.Data.Bool.AllAny
import Scriptorium.Proofs.Entry
import Scriptorium.Proofs.Line
import Scriptorium.Proofs.Math.RoundTrip
/-! # Lines that are run together

Sources may reach over several lines, and tokens stand on one. So protection runs lines
together, but what stands in front of the first source of a line stays
(`Math.Protects.merges`). This settles what the line is: a fence or a heading is told by the
characters that it starts with, and sources start with none of those. So whatever is read off
the lines one by one comes from the original ones, in their order
(`Math.Encodes.filterMap_sublist`).
-/

namespace Scriptorium

namespace Line

variable {c d : Char} {front : Text}

/-- Whether a line is a fence is settled in front of a character that is neither blank nor a
sign of fences. -/
theorem isFence_trim_append_cons (solid : isBlank c = false) (backquote : c ≠ '\x60')
    (tilde : c ≠ '~') (front behind : Text) :
    isFence (front ++ c :: behind).trim = isFence front.trimStart := by
  obtain ⟨rest, trimmed⟩ := Text.exists_trim_append_cons solid front behind
  have same : ∀ sign, c ≠ sign → ([sign, sign, sign] <+: front.trimStart ++ c :: rest ↔
      [sign, sign, sign] <+: front.trimStart) := by
    intro sign other
    exact Text.prefix_append_cons_iff (by simp [other]) front.trimStart rest
  rw [trimmed, Bool.eq_iff_iff, isFence_iff, isFence_iff, same _ backquote, same _ tilde]

/-- The depth of the heading that a line is. -/
def headingDepth? (line : Text) : Option Nat :=
  (heading? line.trim).map fun found => found.1.1

/-- So is how deep a heading it is, in front of a character that is neither blank nor a number
sign. -/
theorem headingDepth?_append_cons (solid : isBlank c = false) (sign : c ≠ '#')
    (front behind : Text) : headingDepth? (front ++ c :: behind) =
      let signs := front.trimStart.takeWhile (· == '#')
      let spaces := (front.trimStart.dropWhile (· == '#')).takeWhile isSpace
      if signs.isEmpty || spaces.isEmpty then none else some signs.length := by
  obtain ⟨rest, trimmed⟩ := Text.exists_trim_append_cons solid front behind
  have notSpace : isSpace c = false := by
    rw [isSpace, Bool.or_eq_false_iff, beq_eq_false_iff_ne, beq_eq_false_iff_ne]
    constructor <;> rintro rfl <;> exact absurd solid (by decide)
  have notSign : (c == '#') = false := beq_eq_false_iff_ne.mpr sign
  have signs : (front.trimStart ++ c :: rest).takeWhile (· == '#') =
      front.trimStart.takeWhile (· == '#') := by
    apply Text.takeWhile_append_cons
    exact notSign
  have behindSigns : (front.trimStart ++ c :: rest).dropWhile (· == '#') =
      front.trimStart.dropWhile (· == '#') ++ c :: rest := by
    apply Text.dropWhile_append_cons
    exact notSign
  simp only [headingDepth?, trimmed, heading?, spaces?, Scanner.run, signs, behindSigns,
    Option.bind_eq_bind]
  cases (front.trimStart.takeWhile (· == '#')).isEmpty with
  | true => rfl
  | false =>
    rw [if_neg Bool.false_ne_true, Option.bind_some, Text.takeWhile_append_cons notSpace]
    cases ((front.trimStart.dropWhile (· == '#')).takeWhile isSpace).isEmpty with
    | true => rfl
    | false => rfl

end Line

namespace Math

variable {kind : Kind} {plain encoded : Text} {long short : List Text}

/-- The second lines are the first ones with some of them run together: what stands in front
of a sign that sources start with stays, and a token stands behind it. -/
inductive Merges : List Text → List Text → Prop where
  | nil : Merges [] []
  | keep (line : Text) {long short : List Text} : Merges long short →
      Merges (line :: long) (line :: short)
  | merge (front behind rest : Text) (group : List Text) {sign : Char} {token : Token}
      {long short : List Text} : sign ∈ ['$', '\\'] → token.WellFormed → Merges long short →
      Merges ((front ++ sign :: behind) :: group ++ long)
        ((front ++ (token.text ++ rest)) :: short)

/-- A character of no mark stands in no token. -/
theorem not_mem_text {c : Char} {token : Token} (wellFormed : token.WellFormed)
    (other : isMarkChar c = false) : c ∉ token.text := by
  intro member
  have isWord : (Mark.formula token).IsWord := wellFormed
  have inside := Mark.isMarkChar_of_mem isWord member
  rw [other] at inside
  cases inside

/-- One more character in front of the first lines. -/
theorem Merges.cons (merges : Merges plain.terminatedLines encoded.terminatedLines) (c : Char) :
    Merges (Text.terminatedLines (c :: plain)) (Text.terminatedLines (c :: encoded)) := by
  by_cases newline : c = '\n'
  · rw [Text.terminatedLines, if_pos newline, Text.terminatedLines, if_pos newline]
    exact .keep _ merges
  · rw [Text.terminatedLines_cons_of_ne newline, Text.terminatedLines_cons_of_ne newline]
    generalize plain.terminatedLines = long at merges
    generalize encoded.terminatedLines = short at merges
    cases merges with
    | nil => exact .keep _ .nil
    | keep line tail => exact .keep _ tail
    | merge front behind rest group isSign wellFormed tail =>
      exact .merge (c :: front) behind rest group isSign wellFormed tail

/-- A token in the place of its source in front of the first lines. -/
theorem Merges.token {token : Token}
    (merges : Merges plain.terminatedLines encoded.terminatedLines)
    (wellFormed : token.WellFormed) (bounded : Bounded token.source) :
    Merges (Text.terminatedLines (token.source ++ plain))
      (Text.terminatedLines (token.text ++ encoded)) := by
  obtain ⟨sign, start, isSign⟩ := bounded.first
  obtain ⟨last, ending, closes⟩ := bounded.last
  have nonempty : token.source ≠ [] := by
    intro empty
    rw [empty] at start
    cases start
  have unended : token.source.getLast? ≠ some '\n' := by
    intro newline
    rw [newline] at ending
    cases ending
    exact absurd closes (by decide)
  obtain ⟨first, group, same, lines⟩ :=
    Text.exists_terminatedLines_append nonempty unended plain
  obtain ⟨behind, rfl⟩ := List.head?_eq_some_iff.mp (same.trans start)
  rw [lines, Text.terminatedLines_append_of_not_mem (not_mem_text wellFormed (by decide))
    (lexicon.text_ne_nil token)]
  generalize plain.terminatedLines = long at merges
  generalize encoded.terminatedLines = short at merges
  cases merges with
  | nil => exact .merge [] behind _ group isSign wellFormed .nil
  | keep line tail => exact .merge [] behind _ group isSign wellFormed tail
  | @merge front behind' rest group' other _ long short isOther wellFormed' tail =>
    have regroup : (sign :: behind) :: group ++
        ((front ++ other :: behind') :: group' ++ long).tail =
          (sign :: behind) :: (group ++ group') ++ long :=
      (List.append_assoc ((sign :: behind) :: group) group' long).symm
    rw [regroup]
    exact .merge [] behind _ (group ++ group') isSign wellFormed tail

/-- **A layer of tokens** runs lines together and leaves the other ones as they are. -/
theorem Protects.merges (protects : Protects kind plain encoded) :
    Merges plain.terminatedLines encoded.terminatedLines := by
  unfold Protects at protects
  induction protects with
  | nil => exact .nil
  | keep c _ ih => exact ih.cons c
  | word token wellFormed spells _ ih => exact ih.token wellFormed spells.bounded

/-- **What is read off lines** one by one comes from the original ones in their order, when
nothing else is read off a line with a token than off the line that it begins like. -/
theorem Merges.filterMap_sublist {β : Type} {read : Text → Option β} (merges : Merges long short)
    (same : ∀ (front behind rest : Text) (sign : Char) (token : Token), sign ∈ ['$', '\\'] →
      token.WellFormed → read (front ++ (token.text ++ rest)) = none ∨
        read (front ++ (token.text ++ rest)) = read (front ++ sign :: behind)) :
    (short.filterMap read).Sublist (long.filterMap read) := by
  induction merges with
  | nil => exact List.Sublist.slnil
  | keep line _ ih =>
    rw [List.filterMap_cons, List.filterMap_cons]
    cases read line with
    | none => exact ih
    | some value => exact ih.cons_cons value
  | @merge front behind rest group sign token long short isSign wellFormed _ ih =>
    have later : (short.filterMap read).Sublist ((group ++ long).filterMap read) := by
      rw [List.filterMap_append]
      exact ih.trans (List.sublist_append_right _ _)
    rw [List.cons_append, List.filterMap_cons, List.filterMap_cons]
    rcases same front behind rest sign token isSign wellFormed with none | like
    · rw [none]
      cases read (front ++ sign :: behind) with
      | none => exact later
      | some value => exact later.cons value
    · rw [like]
      cases read (front ++ sign :: behind) with
      | none => exact later
      | some value => exact later.cons_cons value

/-! ## What is read off protected lines -/

private theorem exists_text_eq_cons (token : Token) : ∃ tail, token.text = 'L' :: tail :=
  ⟨_, Token.text_eq token⟩

private theorem isBlank_of_sign {sign : Char} (isSign : sign ∈ ['$', '\\']) :
    isBlank sign = false := by
  have all : ∀ sign ∈ ['$', '\\'], isBlank sign = false :=
    List.all_iff_forall_prop.mp (by decide)
  exact all sign isSign

/-- A token in the place of a sign makes no fence of a line and takes none away. -/
theorem isFenceLine_token {sign : Char} (isSign : sign ∈ ['$', '\\']) (token : Token)
    (front behind rest : Text) :
    isFenceLine (front ++ (token.text ++ rest)) = isFenceLine (front ++ sign :: behind) := by
  obtain ⟨tail, spelled⟩ := exists_text_eq_cons token
  have others : ∀ sign ∈ ['$', '\\'], sign ≠ '\x60' ∧ sign ≠ '~' :=
    List.all_iff_forall_prop.mp (by decide)
  obtain ⟨backquote, tilde⟩ := others sign isSign
  rw [isFenceLine, isFenceLine, spelled, List.cons_append,
    Line.isFence_trim_append_cons (by decide) (by decide) (by decide),
    Line.isFence_trim_append_cons (isBlank_of_sign isSign) backquote tilde]

/-- A token is no heading where its source is none. -/
theorem headingDepth?_token {sign : Char} (isSign : sign ∈ ['$', '\\']) (token : Token)
    (front behind rest : Text) : Line.headingDepth? (front ++ (token.text ++ rest)) =
      Line.headingDepth? (front ++ sign :: behind) := by
  obtain ⟨tail, spelled⟩ := exists_text_eq_cons token
  have others : ∀ sign ∈ ['$', '\\'], sign ≠ '#' :=
    List.all_iff_forall_prop.mp (by decide)
  rw [spelled, List.cons_append, Line.headingDepth?_append_cons (by decide) (by decide),
    Line.headingDepth?_append_cons (isBlank_of_sign isSign) (others sign isSign)]

private theorem not_tokenFree_token {token : Token} (wellFormed : token.WellFormed)
    (front rest : Text) :
    ¬ TokenFree (front ++ (token.text ++ rest)) :=
  fun free => free token wellFormed ⟨front, rest, List.append_assoc ..⟩

/-- Under three layers, what is read off lines one by one comes from the original ones. -/
theorem Encodes.filterMap_sublist {β : Type} {read : Text → Option β}
    (encodes : Encodes plain encoded)
    (same : ∀ (front behind rest : Text) (sign : Char) (token : Token), sign ∈ ['$', '\\'] →
      token.WellFormed → read (front ++ (token.text ++ rest)) = none ∨
        read (front ++ (token.text ++ rest)) = read (front ++ sign :: behind)) :
    (encoded.terminatedLines.filterMap read).Sublist (plain.terminatedLines.filterMap read) := by
  obtain ⟨displayed, inlined, display, inline, environment⟩ := encodes
  exact (environment.merges.filterMap_sublist same).trans
    ((inline.merges.filterMap_sublist same).trans (display.merges.filterMap_sublist same))

/-- Lines that pass a test which no line with a token passes are lines of the original. -/
theorem Encodes.filter_sublist {test : Text → Bool} (encodes : Encodes plain encoded)
    (free : ∀ line, test line = true → TokenFree line) :
    (encoded.terminatedLines.filter test).Sublist (plain.terminatedLines.filter test) := by
  rw [← List.filterMap_eq_filter]
  apply encodes.filterMap_sublist
  intro front behind rest sign token _ wellFormed
  left
  rw [Option.guard, if_neg]
  exact fun passes => not_tokenFree_token wellFormed front rest (free _ passes)

/-- What is encoded is empty only when the source is. -/
theorem Encodes.ne_nil (encodes : Encodes plain encoded) (nonempty : plain ≠ []) :
    encoded ≠ [] := by
  obtain ⟨displayed, inlined, display, inline, environment⟩ := encodes
  intro empty
  subst empty
  obtain rfl := environment.eq_nil
  obtain rfl := inline.eq_nil
  exact nonempty display.eq_nil

private theorem Protects.eq_nil_of_nil (protects : Protects kind [] encoded) : encoded = [] := by
  unfold Protects at protects
  generalize empty : ([] : Text) = long at protects
  cases protects with
  | nil => rfl
  | keep c _ => cases empty
  | word token _ spells _ =>
    obtain ⟨sign, start, -⟩ := spells.bounded.first
    rw [(List.append_eq_nil_iff.mp empty.symm).1] at start
    cases start

/-- A line feed at the end of a text stays there. -/
theorem Protects.getLast? (protects : Protects kind plain encoded)
    (closed : plain.getLast? = some '\n') : encoded.getLast? = some '\n' := by
  unfold Protects at protects
  induction protects with
  | nil => cases closed
  | @keep c long short tail ih =>
    rw [List.getLast?_cons] at closed ⊢
    cases long with
    | nil =>
      obtain rfl := Protects.eq_nil_of_nil tail
      exact closed
    | cons d long =>
      rw [ih (by rw [← closed, List.getLast?_cons]; rfl)]
      rfl
  | @word token long short _ spells _ ih =>
    rw [List.getLast?_append] at closed ⊢
    cases ending : long.getLast? with
    | none =>
      rw [ending, Option.none_or] at closed
      obtain ⟨last, final, closes⟩ := spells.bounded.last
      rw [closed] at final
      cases final
      exact absurd closes (by decide)
    | some c =>
      rw [ending, Option.some_or] at closed
      rw [ih (ending.trans closed)]
      rfl

/-- What is encoded ends a line when the source does. -/
theorem Encodes.getLast? (encodes : Encodes plain encoded) (closed : plain.getLast? = some '\n') :
    encoded.getLast? = some '\n' := by
  obtain ⟨displayed, inlined, display, inline, environment⟩ := encodes
  exact environment.getLast? (inline.getLast? (display.getLast? closed))

/-- What is encoded holds no fence when the source holds none. -/
theorem Encodes.unfenced (encodes : Encodes plain encoded)
    (unfenced : ∀ line ∈ plain.terminatedLines, isFenceLine line = false) :
    ∀ line ∈ encoded.terminatedLines, isFenceLine line = false := by
  -- The fences are counted: a line with a token is one when the line that it begins like is.
  let read : Text → Option Unit := fun line => if isFenceLine line then some () else none
  have none : plain.terminatedLines.filterMap read = [] := by
    apply List.filterMap_eq_nil_iff.mpr
    intro line member
    simp only [read, unfenced line member, Bool.false_eq_true, ↓reduceIte]
  have fewer : (encoded.terminatedLines.filterMap read).Sublist
      (plain.terminatedLines.filterMap read) := by
    apply encodes.filterMap_sublist
    intro front behind rest sign token isSign _
    right
    simp only [read, isFenceLine_token isSign token front behind rest]
  rw [none] at fewer
  intro line member
  have absent := List.filterMap_eq_nil_iff.mp (List.sublist_nil.mp fewer) line member
  by_contra fence
  rw [Bool.not_eq_false] at fence
  simp only [read, fence, ↓reduceIte] at absent
  cases absent

end Math

end Scriptorium
