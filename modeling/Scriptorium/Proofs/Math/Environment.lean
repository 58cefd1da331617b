import Mathlib.Combinatorics.Enumerative.DyckWord
import Scriptorium.Proofs.Math.Lines
/-! # Environments as a whole

Openings and closings of one name are steps up and down (`Math.brackets`). Over a text whose
steps never go below where they began the search for a closing goes on behind it
(`Math.environmentEnd?_append`), so an environment with a balanced body is read up to its own
closing (`Math.environment?_environmentText`). By itself in a text it becomes one token when it
holds no code, for then neither lines nor code spans cut it apart; and code that it does hold
stays as it is (`Math.encode_environment`).
-/

namespace Scriptorium.Math

open DyckStep

variable {kind : Kind} {name body before after s : Text}

/-- The name of an environment: letters, and perhaps an asterisk. -/
def IsEnvironmentName (name : Text) : Prop :=
  ∃ letters, letters ≠ [] ∧ (∀ c ∈ letters, isAsciiLetter c = true) ∧
    (name = letters ∨ name = letters ++ ['*'])

/-- An environment as it is written. -/
def environmentText (name body : Text) : Text :=
  beginText name ++ (body ++ endText name)

/-- The openings and closings of one name in a text, as steps up and down. -/
def brackets (name : Text) : Text → List DyckStep
  | [] => []
  | c :: cs =>
    if endText name <+: c :: cs then D :: brackets name cs
    else if beginText name <+: c :: cs then U :: brackets name cs
    else brackets name cs

/-! ## The end of an environment -/

private theorem not_mem_of_isEnvironmentName {c : Char} (isName : IsEnvironmentName name)
    (notLetter : isAsciiLetter c = false) (notAsterisk : c ≠ '*') : c ∉ name := by
  obtain ⟨letters, -, all, form⟩ := isName
  have absent : c ∉ letters := by
    intro member
    rw [all c member] at notLetter
    cases notLetter
  rcases form with rfl | rfl
  · exact absent
  · exact List.not_mem_append absent (List.not_mem_cons_of_ne_of_not_mem notAsterisk
      List.not_mem_nil)

/-- What opens an environment behind the backslash. -/
theorem beginText_eq_cons (name : Text) :
    beginText name = '\\' :: (['b', 'e', 'g', 'i', 'n', '\x7b'] ++ (name ++ ['\x7d'])) :=
  rfl

/-- What closes an environment behind the backslash. -/
theorem endText_eq_cons (name : Text) :
    endText name = '\\' :: (['e', 'n', 'd', '\x7b'] ++ (name ++ ['\x7d'])) :=
  rfl

/-- Nothing that begins with a backslash and holds no other one reaches over a backslash. -/
theorem backslash_prefix_append_iff {lead : Text} (absent : '\\' ∉ lead) (c : Char)
    (front behind : Text) : '\\' :: lead <+: c :: (front ++ '\\' :: behind) ↔
      '\\' :: lead <+: c :: front := by
  rw [List.cons_prefix_cons, List.cons_prefix_cons, Text.prefix_append_cons_iff absent]

private theorem endText_prefix_append_iff (isName : IsEnvironmentName name) (c : Char)
    (front behind : Text) : endText name <+: c :: (front ++ '\\' :: behind) ↔
      endText name <+: c :: front := by
  have absent := not_mem_of_isEnvironmentName (c := '\\') isName (by decide) (by decide)
  rw [endText_eq_cons]
  exact backslash_prefix_append_iff (by simp [absent]) c front behind

private theorem beginText_prefix_append_iff (isName : IsEnvironmentName name) (c : Char)
    (front behind : Text) : beginText name <+: c :: (front ++ '\\' :: behind) ↔
      beginText name <+: c :: front := by
  have absent := not_mem_of_isEnvironmentName (c := '\\') isName (by decide) (by decide)
  rw [beginText_eq_cons]
  exact backslash_prefix_append_iff (by simp [absent]) c front behind

/-- What is found behind a text, with that text in front of it. -/
def passing (front : Text) (found : Text × Text) : Text × Text :=
  (front ++ found.1, found.2)

/-- What is found behind two texts is found behind both together, the first of one character. -/
theorem map_passing_cons (c : Char) (front : Text) (found : Option (Text × Text)) :
    (found.map (passing front)).map (passing [c]) = found.map (passing (c :: front)) :=
  Option.map_map ..

/-- What is found behind two texts is found behind both together. -/
theorem map_passing_append (front behind : Text) (found : Option (Text × Text)) :
    (found.map (passing behind)).map (passing front) = found.map (passing (front ++ behind)) := by
  have both : passing front ∘ passing behind = passing (front ++ behind) :=
    funext fun parts => Prod.ext (List.append_assoc ..).symm rfl
  rw [Option.map_map, both]

section

variable {c : Char} {cs : Text}

/-- A closing takes the search one step down. -/
theorem environmentEnd?_cons_of_closes (closes : endText name <+: c :: cs) (depth : Nat) :
    environmentEnd? name (depth + 1) (c :: cs) =
      (environmentEnd? name depth cs).map (passing [c]) := by
  obtain ⟨rest, whole⟩ := closes
  rw [environmentEnd?, Text.dropStart?_eq_some_iff.mpr whole.symm]
  rfl

private theorem environmentEnd?_cons_of_not_closes (unclosed : ¬ endText name <+: c :: cs)
    (depth : Nat) :
    environmentEnd? name depth (c :: cs) = (environmentEnd? name
      (if (beginText name).isPrefixOf (c :: cs) then depth + 1 else depth) cs).map
        (passing [c]) := by
  rw [environmentEnd?, Text.dropStart?_eq_none_iff.mpr unclosed]
  rfl

/-- An opening takes the search one step up. -/
theorem environmentEnd?_cons_of_opens (unclosed : ¬ endText name <+: c :: cs)
    (opens : beginText name <+: c :: cs) (depth : Nat) : environmentEnd? name depth (c :: cs) =
      (environmentEnd? name (depth + 1) cs).map (passing [c]) := by
  rw [environmentEnd?_cons_of_not_closes unclosed, if_pos (List.isPrefixOf_iff_prefix.mpr opens)]

/-- What neither opens nor closes the environment is passed over. -/
theorem environmentEnd?_cons_of_plain (unclosed : ¬ endText name <+: c :: cs)
    (plain : ¬ beginText name <+: c :: cs) (depth : Nat) : environmentEnd? name depth (c :: cs) =
      (environmentEnd? name depth cs).map (passing [c]) := by
  rw [environmentEnd?_cons_of_not_closes unclosed, if_neg (mt List.isPrefixOf_iff_prefix.mp plain)]

end

/-- Steps from a height do not lead below the ground. -/
def Above (height : Nat) (steps : List DyckStep) : Prop :=
  ∀ i, (steps.take i).count D ≤ height + (steps.take i).count U

/-- The height that steps lead to. -/
def heightBehind (height : Nat) (steps : List DyckStep) : Nat :=
  height + steps.count U - steps.count D

section

variable {height : Nat} {steps : List DyckStep}

/-- Steps that start with one up stay above the ground from one step higher. -/
theorem Above.up (above : Above height (U :: steps)) : Above (height + 1) steps := by
  intro i
  have next := above (i + 1)
  rw [List.take_succ_cons, List.count_cons_self, List.count_cons_of_ne (by decide)] at next
  omega

/-- Steps that start with one down start above the ground, and stay above it from one step lower. -/
theorem Above.down (above : Above height (D :: steps)) :
    ∃ lower, height = lower + 1 ∧ Above lower steps := by
  have first := above 1
  rw [List.take_succ_cons, List.take_zero] at first
  obtain ⟨lower, rfl⟩ : ∃ lower, height = lower + 1 := Nat.exists_eq_add_one.mpr first
  refine ⟨lower, rfl, fun i => ?_⟩
  have next := above (i + 1)
  rw [List.take_succ_cons, List.count_cons_self, List.count_cons_of_ne (by decide)] at next
  omega

@[simp]
theorem heightBehind_up : heightBehind height (U :: steps) = heightBehind (height + 1) steps := by
  rw [heightBehind, heightBehind, List.count_cons_self, List.count_cons_of_ne (by decide),
    Nat.add_right_comm, Nat.add_assoc]

@[simp]
theorem heightBehind_down :
    heightBehind (height + 1) (D :: steps) = heightBehind height steps := by
  rw [heightBehind, heightBehind, List.count_cons_self, List.count_cons_of_ne (by decide)]
  omega

end

/-- **The search for a closing passes over a text** whose steps do not lead below the place
where the search began, and goes on from the place that they lead to. -/
theorem environmentEnd?_append (isName : IsEnvironmentName name) {depth : Nat} (behind : Text)
    (above : Above depth (brackets name s)) : environmentEnd? name depth (s ++ '\\' :: behind) =
      (environmentEnd? name (heightBehind depth (brackets name s)) ('\\' :: behind)).map
        (passing s) := by
  induction s generalizing depth with
  | nil =>
    change _ = (environmentEnd? name depth _).map id
    rw [Option.map_id, List.nil_append, id]
  | cons c s ih =>
    -- Openings and closings hold one backslash, their first character, so none of them reaches
    -- over the end of the text, and its steps are those that the search sees.
    rw [List.cons_append]
    by_cases closes : endText name <+: c :: s
    · have steps : brackets name (c :: s) = D :: brackets name s := by
        rw [brackets, if_pos closes]
      rw [steps] at above ⊢
      obtain ⟨lower, rfl, later⟩ := above.down
      have closes' := (endText_prefix_append_iff isName c s behind).mpr closes
      rw [environmentEnd?_cons_of_closes closes', ih later, map_passing_cons, heightBehind_down]
    · have unclosed := mt (endText_prefix_append_iff isName c s behind).mp closes
      by_cases opens : beginText name <+: c :: s
      · have steps : brackets name (c :: s) = U :: brackets name s := by
          rw [brackets, if_neg closes, if_pos opens]
        rw [steps] at above ⊢
        have opens' := (beginText_prefix_append_iff isName c s behind).mpr opens
        rw [environmentEnd?_cons_of_opens unclosed opens', ih above.up, map_passing_cons,
          heightBehind_up]
      · have steps : brackets name (c :: s) = brackets name s := by
          rw [brackets, if_neg closes, if_neg opens]
        rw [steps] at above ⊢
        have plain := mt (beginText_prefix_append_iff isName c s behind).mp opens
        rw [environmentEnd?_cons_of_plain unclosed plain, ih above, map_passing_cons]

/-- The openings and closings of a name in a text are balanced. -/
def IsBalanced (name s : Text) : Prop :=
  ∃ word : DyckWord, word.toList = brackets name s

/-- A closing ends the environment when no other one is open inside of it. -/
theorem environmentEnd?_of_closes (closes : endText name ++ rest = s) :
    environmentEnd? name 0 s = some (endText name, rest) := by
  cases s with
  | nil => cases closes
  | cons c cs => rw [environmentEnd?, Text.dropStart?_eq_some_iff.mpr closes.symm]

/-- The closing behind a balanced text is found. -/
theorem environmentEnd?_of_isBalanced (isName : IsEnvironmentName name)
    (balanced : IsBalanced name body) (after : Text) :
    environmentEnd? name 0 (body ++ (endText name ++ after)) =
      some (body ++ endText name, after) := by
  obtain ⟨word, steps⟩ := balanced
  have above : Above 0 (brackets name body) := by
    intro i
    rw [Nat.zero_add, ← steps]
    exact word.count_D_le_count_U i
  have back : heightBehind 0 (brackets name body) = 0 := by
    rw [heightBehind, Nat.zero_add, ← steps, word.count_U_eq_count_D, Nat.sub_self]
  have spelled : endText name ++ after =
      '\\' :: (['e', 'n', 'd', '\x7b'] ++ (name ++ ['\x7d']) ++ after) := rfl
  rw [spelled, environmentEnd?_append isName _ above, back, ← spelled,
    environmentEnd?_of_closes rfl]
  rfl

/-- The name of an environment is read up to the brace behind it. -/
theorem environmentName?_append (isName : IsEnvironmentName name) (rest : Text) :
    environmentName? (name ++ '\x7d' :: rest) = some (name, '\x7d' :: rest) := by
  obtain ⟨letters, nonempty, all, form⟩ := isName
  have run (c : Char) (behind : Text) (other : isAsciiLetter c = false) :
      Scanner.run isAsciiLetter (letters ++ c :: behind) = some (letters, c :: behind) := by
    refine Scanner.run_append nonempty all fun d first => ?_
    cases first
    exact other
  rcases form with rfl | rfl
  · rw [environmentName?, run '\x7d' rest (by decide)]
    rfl
  · rw [environmentName?, List.append_assoc, List.singleton_append,
      run '*' ('\x7d' :: rest) (by decide)]
    rfl

/-- The name of an environment is read off its opening. -/
theorem beginName?_beginText_append (isName : IsEnvironmentName name) (rest : Text) :
    beginName? (beginText name ++ rest) = some (name, rest) := by
  have lead : Scanner.literal "\\begin\x7b".toList (beginLead ++ (name ++ '\x7d' :: rest)) =
      some ((), name ++ '\x7d' :: rest) :=
    Scanner.literal_append beginLead _
  rw [beginText_eq, List.append_assoc, List.append_assoc, List.singleton_append, beginName?, lead]
  simp only [Option.bind_eq_bind, Option.bind_some, environmentName?_append isName]
  rfl

/-- **An environment with a balanced body** is read up to its own closing. -/
theorem environment?_environmentText (isName : IsEnvironmentName name)
    (balanced : IsBalanced name body) (after : Text) :
    environment? (environmentText name body ++ after) =
      some (environmentText name body, after) := by
  rw [environment?, environmentText, List.append_assoc, List.append_assoc,
    beginName?_beginText_append isName]
  simp only [Option.bind_eq_bind, Option.bind_some, environmentEnd?_of_isBalanced isName balanced]

/-! ## Texts without sources -/

/-- The sign that sources of a kind begin with. -/
def Kind.sign : Kind → Char
  | .display | .inline => '$'
  | .environment => '\\'

/-- No source begins with a character other than the sign of its kind. -/
theorem source?_cons_of_ne {c : Char} (other : c ≠ kind.sign) (cs : Text) :
    source? kind (c :: cs) = none := by
  cases kind with
  | display =>
    simp only [source?]
    unfold display?
    split
    · rename_i same
      cases same
      exact absurd rfl other
    · rfl
  | inline =>
    simp only [source?]
    unfold inline?
    split
    · rename_i same
      cases same
      exact absurd rfl other
    · rfl
  | environment =>
    have none : beginName? (c :: cs) = none := by
      cases read : beginName? (c :: cs) with
      | none => rfl
      | some found =>
        obtain ⟨name, rest⟩ := found
        have whole := eq_of_beginName?_eq_some read
        rw [beginText_eq_cons, List.cons_append] at whole
        exact absurd (List.cons_eq_cons.mp whole).1 other
    rw [source?, environment?, none]
    rfl

/-- In front of no source, where its sign is absent. -/
theorem source?_append_of_not_mem {front : Text} (absent : kind.sign ∉ front) (rest : Text) :
    ∀ part, part ≠ [] → part <:+ front → source? kind (part ++ rest) = none := by
  intro part nonempty suffix
  cases part with
  | nil => exact absurd rfl nonempty
  | cons c part =>
    rw [List.cons_append]
    refine source?_cons_of_ne (fun same => absent ?_) _
    exact same ▸ suffix.subset List.mem_cons_self

private theorem encodePieces_map_plain_append (counters : Counters) (front : Text)
    (rest : List (Piece Text)) : encodePieces kind counters (front.map .plain ++ rest) =
      (front ++ (encodePieces kind counters rest).1, (encodePieces kind counters rest).2) := by
  induction front with
  | nil => rfl
  | cons c front ih =>
    rw [List.map_cons, List.cons_append, encodePieces, ih]
    rfl

private theorem encodeKind_of_not_mem (absent : kind.sign ∉ s) (counters : Counters) :
    encodeKind kind counters s = (s, counters) := by
  have plain := Scanner.pieces_append_of_none (source?_append_of_not_mem absent [])
  rw [List.append_nil, Scanner.pieces] at plain
  rw [encodeKind, plain, encodePieces_map_plain_append, encodePieces, List.append_nil]

/-- An environment between texts without backslashes becomes one token. -/
theorem encodeKind_environment (isName : IsEnvironmentName name)
    (balanced : IsBalanced name body) (front : '\\' ∉ before)
    (behind : '\\' ∉ after) (counters : Counters) :
    (encodeKind .environment counters (before ++ (environmentText name body ++ after))).1 =
      before ++ ((Token.ofSource .environment counters.environment
        (environmentText name body)).text ++ after) := by
  have read : source? .environment (environmentText name body ++ after) =
      some (environmentText name body, after) :=
    environment?_environmentText isName balanced after
  have shorter : after.length < (environmentText name body ++ after).length := by
    rw [environmentText, beginText_eq_cons]
    simp only [List.length_append, List.length_cons]
    omega
  have sign : Kind.environment.sign ∉ after := behind
  have afterwards := encodeKind_of_not_mem sign (counters.increment .environment)
  rw [encodeKind] at afterwards
  rw [encodeKind, Scanner.pieces_append_of_none (source?_append_of_not_mem front _),
    Scanner.pieces_of_some read shorter, encodePieces_map_plain_append, encodePieces, afterwards]
  rfl

/-! ## Code spans -/

/-- Code spans stand on one line, between two backquotes. -/
theorem eq_of_codeSpan? {code rest : Text} (read : codeSpan? s = some (code, rest)) :
    ∃ inside, code = '\x60' :: (inside ++ ['\x60']) ∧ '\n' ∉ inside := by
  simp only [codeSpan?, Option.orElse_eq_orElse, Option.orElse_eq_or, Option.or_eq_some_iff] at read
  rcases read with double | ⟨-, single⟩
  · unfold doubleCodeSpan? at double
    split at double
    · split at double
      · rename_i inside behind cut
        split at double
        · cases double
        · rename_i oneLine
          cases double
          refine ⟨'\x60' :: (inside ++ ['\x60']), ?_, ?_⟩
          · simp only [List.cons_append, List.append_assoc, List.nil_append]
          · simpa using oneLine
      · cases double
    · cases double
  · unfold singleCodeSpan? at single
    split at single
    · split at single
      · cases single
        refine ⟨_, rfl, fun member => ?_⟩
        have inside := List.all_eq_true.mp List.all_takeWhile _ member
        simp at inside
      · cases single
    · cases single

/-- Code among the pieces of a text stands in it. -/
theorem code_of_found_mem {code : Text} (member : .found code ∈ Scanner.pieces codeSpan? s) :
    ∃ inside, code = '\x60' :: (inside ++ ['\x60']) ∧ '\n' ∉ inside ∧ code <:+: s := by
  have ends : ∀ s code rest, codeSpan? s = some (code, rest) → rest <:+ s :=
    fun _ code _ read => ⟨code, (eq_of_codeSpan?_eq_some read).symm⟩
  obtain ⟨part, rest, suffix, read⟩ := Scanner.exists_of_found_mem_pieces ends member
  obtain ⟨inside, form, oneLine⟩ := eq_of_codeSpan? read
  have start : code <+: part := ⟨rest, (eq_of_codeSpan?_eq_some read).symm⟩
  exact ⟨inside, form, oneLine, start.isInfix.trans suffix.isInfix⟩

private theorem stretches_map_plain (nonempty : s ≠ []) :
    stretches (s.map .plain) = [.prose s] := by
  induction s with
  | nil => exact absurd rfl nonempty
  | cons c s ih =>
    rw [List.map_cons, stretches]
    cases s with
    | nil => rfl
    | cons d s => rw [ih (List.cons_ne_nil d s)]

/-- A text without code is one stretch. -/
theorem stretches_of_no_code (nonempty : s ≠ [])
    (none : ∀ inside, '\n' ∉ inside → ¬ '\x60' :: (inside ++ ['\x60']) <:+: s) :
    stretches (Scanner.pieces codeSpan? s) = [.prose s] := by
  have absent : ∀ part, part ≠ [] → part <:+ s → codeSpan? (part ++ []) = Option.none := by
    intro part _ suffix
    rw [List.append_nil]
    cases read : codeSpan? part with
    | none => rfl
    | some found =>
      obtain ⟨inside, form, oneLine⟩ := eq_of_codeSpan? read
      have start : found.1 <+: part := ⟨found.2, (eq_of_codeSpan?_eq_some read).symm⟩
      exact absurd (form ▸ start.isInfix.trans suffix.isInfix) (none inside oneLine)
  have plain := Scanner.pieces_append_of_none absent
  rw [List.append_nil, Scanner.pieces, List.append_nil] at plain
  rw [plain, stretches_map_plain nonempty]

/-- Lines that hold one backquote at most hold no code. -/
theorem not_infix_of_single (single : ∀ line ∈ s.terminatedLines, line.count '\x60' ≤ 1)
    {inside : Text} (oneLine : '\n' ∉ inside) : ¬ '\x60' :: (inside ++ ['\x60']) <:+: s := by
  intro code
  have whole : '\n' ∉ '\x60' :: (inside ++ ['\x60']) :=
    List.not_mem_cons_of_ne_of_not_mem (by decide) (List.not_mem_append oneLine (by decide))
  obtain ⟨line, listed, within⟩ :=
    Text.exists_mem_terminatedLines whole (List.cons_ne_nil _ _) code
  have two : 2 ≤ ('\x60' :: (inside ++ ['\x60'])).count '\x60' := by
    rw [List.count_cons_self, List.count_append, List.count_singleton_self]
    omega
  have more := within.sublist.count_le '\x60'
  have one := single line listed
  omega

/-- Code begins and ends where there are backquotes. -/
theorem code_infix_of_not_mem {front behind inside : Text} (first : '\x60' ∉ front)
    (second : '\x60' ∉ behind)
    (code : '\x60' :: (inside ++ ['\x60']) <:+: front ++ (s ++ behind)) :
    '\x60' :: (inside ++ ['\x60']) <:+: s := by
  obtain ⟨left, right, split⟩ := code
  have opening : front ++ (s ++ behind) = left ++ '\x60' :: (inside ++ '\x60' :: right) := by
    simp only [← split, List.append_assoc, List.cons_append, List.nil_append]
  obtain ⟨left', -, later⟩ := Text.exists_append_of_not_mem first opening
  have closing : s ++ behind = (left' ++ '\x60' :: inside) ++ '\x60' :: right := by
    simp only [later, List.append_assoc, List.cons_append]
  obtain ⟨right', whole, -⟩ := Text.exists_of_append_eq_append_cons second closing
  refine ⟨left', right', ?_⟩
  simp only [whole, List.append_assoc, List.cons_append, List.nil_append]

/-- What is code among the pieces of a text is code among its stretches. -/
theorem code_mem_stretches {code : Text} {parts : List (Piece Text)}
    (member : .found code ∈ parts) : .code code ∈ stretches parts := by
  fun_induction stretches parts with
  | case1 => cases member
  | case2 other rest ih =>
    rcases List.mem_cons.mp member with same | later
    · cases same
      exact List.mem_cons_self
    · exact List.mem_cons_of_mem _ (ih later)
  | case3 c rest text others stretch ih =>
    have listed := ih (by simpa using member)
    rw [stretch] at listed
    exact List.mem_cons_of_mem _ (by simpa using listed)
  | case4 c rest _ ih => exact List.mem_cons_of_mem _ (ih (by simpa using member))

/-- Code stays where it is. -/
theorem infix_encodeStretches {code : Text} {parts : List Stretch}
    (member : .code code ∈ parts) (counters : Counters) :
    code <:+: (encodeStretches counters parts).1 := by
  induction parts generalizing counters with
  | nil => cases member
  | cons part parts ih =>
    rcases List.mem_cons.mp member with rfl | later
    · exact (List.prefix_append code _).isInfix
    · cases part with
      | code text => exact (ih later counters).trans (List.suffix_append text _).isInfix
      | prose text => exact (ih later _).trans (List.suffix_append _ _).isInfix

/-! ## Environments between other texts -/

/-- A text that is not empty and has no fences is protected as one segment. -/
theorem encode_of_unfenced (nonempty : s ≠ [])
    (unfenced : ∀ line ∈ s.terminatedLines, isFenceLine line = false) :
    encode s = (encodeProse .zero s).1 := by
  have noMore : ∀ text, (segments false []).head? ≠ some (.prose text) := by
    rw [segments]
    exact not_prose_nil
  have parts := segments_append (Text.terminatedLines_ne_nil nonempty) unfenced noMore
  rw [List.append_nil, Text.flatten_terminatedLines, segments] at parts
  rw [encode, parts]
  exact List.append_nil _

/-- An environment stands in a text by itself: what it holds opens and closes its name in
balance, and there is no other mathematics, no fence and no code around it. -/
structure StandsBetween (before name body after : Text) : Prop where
  named : IsEnvironmentName name
  balanced : IsBalanced name body
  noDollar : '$' ∉ body
  around : ∀ c ∈ ['$', '\\', '\x60'], c ∉ before ∧ c ∉ after
  unfenced : ∀ line ∈ Text.terminatedLines (before ++ (environmentText name body ++ after)),
    isFenceLine line = false

/-- The token of the first environment of a text: its number is zero, and its payload spells the
bytes of the whole environment. -/
def environmentToken (name body : Text) : Token where
  kind := .environment
  number := ['0']
  payload := Hex.spelledBytes (environmentText name body)

/-- The first environment is encoded as its token. -/
theorem ofSource_eq_environmentToken (name body : Text) :
    Token.ofSource .environment 0 (environmentText name body) = environmentToken name body :=
  congrArg (Token.mk .environment ['0']) (Hex.encode_eq_spelledBytes _)

private theorem append_environmentText_ne_nil (before name body after : Text) :
    before ++ (environmentText name body ++ after) ≠ [] := by
  rw [environmentText, beginText_eq_cons]
  simp

/-- What opens and closes an environment holds neither signs of other mathematics nor of code. -/
theorem not_mem_beginText_endText {c : Char} (isName : IsEnvironmentName name)
    (sign : c ∈ ['$', '\x60']) : c ∉ beginText name ∧ c ∉ endText name := by
  have foreign : ∀ c ∈ ['$', '\x60'], isAsciiLetter c = false ∧ c ≠ '*' ∧ c ≠ '\\' ∧
      c ∉ ['b', 'e', 'g', 'i', 'n', '\x7b'] ∧ c ∉ ['e', 'n', 'd', '\x7b'] ∧ c ∉ ['\x7d'] :=
    List.all_iff_forall_prop.mp (by decide)
  obtain ⟨notLetter, notAsterisk, notBackslash, notBegin, notEnd, notBrace⟩ := foreign c sign
  have absent := not_mem_of_isEnvironmentName isName notLetter notAsterisk
  have rest := List.not_mem_append absent notBrace
  rw [beginText_eq_cons, endText_eq_cons]
  exact ⟨List.not_mem_cons_of_ne_of_not_mem notBackslash (List.not_mem_append notBegin rest),
    List.not_mem_cons_of_ne_of_not_mem notBackslash (List.not_mem_append notEnd rest)⟩

namespace StandsBetween

private theorem not_mem_dollar (stands : StandsBetween before name body after) :
    '$' ∉ before ++ (environmentText name body ++ after) := by
  obtain ⟨front, behind⟩ := stands.around '$' (by decide)
  obtain ⟨opening, closing⟩ := not_mem_beginText_endText stands.named (c := '$') (by decide)
  exact List.not_mem_append front (List.not_mem_append
    (List.not_mem_append opening (List.not_mem_append stands.noDollar closing)) behind)

/-- All code of the text is code of the body. -/
theorem infix_body (stands : StandsBetween before name body after) {inside : Text}
    (code : '\x60' :: (inside ++ ['\x60']) <:+:
      before ++ (environmentText name body ++ after)) :
    '\x60' :: (inside ++ ['\x60']) <:+: body := by
  obtain ⟨front, behind⟩ := stands.around '\x60' (by decide)
  obtain ⟨opening, closing⟩ := not_mem_beginText_endText stands.named (c := '\x60') (by decide)
  have parts : before ++ (environmentText name body ++ after) =
      (before ++ beginText name) ++ (body ++ (endText name ++ after)) := by
    simp only [environmentText, List.append_assoc]
  rw [parts] at code
  exact code_infix_of_not_mem (List.not_mem_append front opening)
    (List.not_mem_append closing behind) code

/-- The text has no fences, so it is protected as one segment. -/
theorem encode_eq (stands : StandsBetween before name body after) :
    encode (before ++ (environmentText name body ++ after)) =
      (encodeProse .zero (before ++ (environmentText name body ++ after))).1 :=
  encode_of_unfenced (append_environmentText_ne_nil before name body after) stands.unfenced

/-- Where the body holds no code, the environment becomes its token. -/
theorem encode_of_no_code (stands : StandsBetween before name body after)
    (none : ∀ inside, '\n' ∉ inside → ¬ '\x60' :: (inside ++ ['\x60']) <:+: body) :
    encode (before ++ (environmentText name body ++ after)) =
      before ++ ((environmentToken name body).text ++ after) := by
  have absent := stands.not_mem_dollar
  have displayed : encodeKind .display .zero _ = _ := encodeKind_of_not_mem absent .zero
  have inlined : encodeKind .inline .zero _ = _ := encodeKind_of_not_mem absent .zero
  have stretch := stretches_of_no_code (append_environmentText_ne_nil before name body after)
    fun inside oneLine code => none inside oneLine (stands.infix_body code)
  have replaced := encodeKind_environment stands.named stands.balanced
    (stands.around '\\' (by decide)).1 (stands.around '\\' (by decide)).2 .zero
  rw [stands.encode_eq, encodeProse, stretch]
  rw [← ofSource_eq_environmentToken]
  simp only [encodeStretches, encodeText, displayed, inlined, replaced, List.append_nil]
  rfl

/-- Code of the text stays where it is. -/
theorem infix_encode (stands : StandsBetween before name body after) {code : Text}
    (member : .found code ∈
      Scanner.pieces codeSpan? (before ++ (environmentText name body ++ after))) :
    code <:+: encode (before ++ (environmentText name body ++ after)) := by
  rw [stands.encode_eq]
  exact infix_encodeStretches (code_mem_stretches member) .zero

private theorem not_mem_backquote (stands : StandsBetween before name body after) :
    '\x60' ∉ before ++ ((environmentToken name body).text ++ after) := by
  obtain ⟨front, behind⟩ := stands.around '\x60' (by decide)
  have token := not_mem_text (Token.wellFormed_ofSource .environment 0
    (environmentText name body)) (c := '\x60') (by decide)
  rw [ofSource_eq_environmentToken] at token
  exact List.not_mem_append front (List.not_mem_append token behind)

end StandsBetween

/-- **An environment is protected as a whole** that stands by itself and holds no code: it
becomes one token, which spells it. Code inside of it stays as it is, and then the environment
is no token. -/
theorem encode_environment (stands : StandsBetween before name body after) :
    ((∀ line ∈ body.terminatedLines, line.count '\x60' ≤ 1) →
      encode (before ++ (environmentText name body ++ after)) =
        before ++ ((environmentToken name body).text ++ after)) ∧
    ∀ code, .found code ∈
        Scanner.pieces codeSpan? (before ++ (environmentText name body ++ after)) →
      code <:+: encode (before ++ (environmentText name body ++ after)) ∧
        encode (before ++ (environmentText name body ++ after)) ≠
          before ++ ((environmentToken name body).text ++ after) := by
  constructor
  · intro single
    exact stands.encode_of_no_code fun inside oneLine => not_infix_of_single single oneLine
  · intro code member
    have kept := stands.infix_encode member
    refine ⟨kept, fun whole => ?_⟩
    obtain ⟨inside, rfl, -, -⟩ := code_of_found_mem member
    rw [whole] at kept
    exact stands.not_mem_backquote (kept.subset List.mem_cons_self)

/-- Inside of a proof: another one, and a backquote on each of two lines. -/
def nestedProof : Text :=
  "a \x60 b\n\\begin\x7bproof\x7dc\\end\x7bproof\x7d d \x60\n".toList

private theorem standsBetween_nestedProof :
    StandsBetween "Before\n".toList "proof".toList nestedProof " behind".toList where
  named :=
    ⟨"proof".toList, by decide, List.all_iff_forall_prop.mp (by decide), .inl rfl⟩
  balanced := ⟨DyckWord.nest 0, by decide⟩
  noDollar := by decide
  around := List.all_iff_forall_prop.mp (by decide)
  unfenced := by decide

private theorem standsBetween_code : StandsBetween [] ['a'] "\x60x\x60".toList [] where
  named := ⟨['a'], by decide, List.all_iff_forall_prop.mp (by decide), .inl rfl⟩
  balanced := ⟨0, by decide⟩
  noDollar := by decide
  around := List.all_iff_forall_prop.mp (by decide)
  unfenced := by decide

/-- A proof inside of another one is protected with it, and code inside of an environment stays. -/
theorem encode_environment_nestedProof :
    encode ("Before\n".toList ++ (environmentText "proof".toList nestedProof ++
        " behind".toList)) = "Before\n".toList ++
          ((environmentToken "proof".toList nestedProof).text ++ " behind".toList) ∧
      "\x60x\x60".toList <:+:
        encode ([] ++ (environmentText ['a'] "\x60x\x60".toList ++ [])) :=
  ⟨(encode_environment standsBetween_nestedProof).1 (by decide),
    ((encode_environment standsBetween_code).2 _ (by decide +kernel)).1⟩

/-- An environment that is not protected as a whole, because it holds code. -/
theorem encode_environment_code :
    StandsBetween [] ['a'] "\x60x\x60".toList [] ∧
      encode ([] ++ (environmentText ['a'] "\x60x\x60".toList ++ [])) ≠
        [] ++ ((environmentToken ['a'] "\x60x\x60".toList).text ++ []) :=
  ⟨standsBetween_code, by decide +kernel⟩

end Scriptorium.Math
