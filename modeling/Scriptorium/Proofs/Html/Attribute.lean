import Scriptorium.Proofs.Text.Separation
/-! # The values of an attribute

The values that an attribute has in a text of HTML are what stands in quotes behind its
lead, its name with the equals sign (`Html.Attribute.values`). A text that is passed over
has no part in them (`Html.Attribute.values_append`). A text that *yields* values has these
in front of whatever follows it (`Html.Attribute.Yields`): it yields the value behind a
quote that the lead stands before (`Html.Attribute.Yields.quoted`), and nothing behind any
other quote (`Html.Attribute.Yields.quote`).
-/

namespace Scriptorium.Html

/-- Characters that stand in no name of an attribute, besides the quote and the equals
sign. -/
def delimiters : Text :=
  ['<', '>', '[', ']', '^', '\n']

/-- An attribute by its name. -/
structure Attribute where
  name : Text
  plain : ∀ c ∈ name, c ∉ '"' :: '=' :: delimiters

namespace Attribute

/-- The attribute that holds destinations. -/
def href : Attribute := ⟨"href".toList, by simp [delimiters]⟩

/-- The attribute that names an element, with the blank before it. -/
def elementId : Attribute := ⟨" id".toList, by simp [delimiters]⟩

/-- What stands before the quote of a value. -/
def lead (attr : Attribute) : Text :=
  attr.name ++ ['=']

/-- Reads the value of an attribute. -/
def scan (attr : Attribute) : Scanner Text := fun s => do
  let (_, rest) ← Scanner.literal (attr.lead ++ ['"']) s
  let (_, behind) ← Scanner.literal ['"'] (rest.dropWhile (· != '"'))
  some (rest.takeWhile (· != '"'), behind)

/-- The values that an attribute has in a text, in order. -/
def values (attr : Attribute) (s : Text) : List Text :=
  (Scanner.pieces attr.scan s).filterMap Lexicon.wordOf?

/-- A text in which no value of an attribute is opened. -/
def IsAbsent (attr : Attribute) (s : Text) : Prop :=
  ¬ attr.lead ++ ['"'] <:+: s

/-- A character that stands neither in the lead nor is the quote behind it. -/
def IsForeign (attr : Attribute) (c : Char) : Prop :=
  c ∉ attr.lead ++ ['"']

/-- Texts that no opening of a value reaches across, since one ends or the other starts
with a foreign character. -/
def Apart (attr : Attribute) (front behind : Text) : Prop :=
  (∀ c ∈ front.getLast?, attr.IsForeign c) ∨ ∀ c ∈ behind.head?, attr.IsForeign c

variable {attr : Attribute} {front value s t rest : Text} {c : Char}

/-- The lead of an attribute holds no double quote. -/
theorem unquoted_lead (attr : Attribute) : '"' ∉ attr.lead := by
  intro member
  rcases List.mem_append.mp member with named | equals
  · exact attr.plain _ named (by decide)
  · exact absurd equals (by decide)

/-- A delimiter is foreign to every attribute. -/
theorem isForeign_of_mem (delimiter : c ∈ delimiters) : attr.IsForeign c := by
  intro member
  rcases List.mem_append.mp member with lead | closing
  · rcases List.mem_append.mp lead with named | last
    · exact attr.plain c named (List.mem_cons_of_mem _ (List.mem_cons_of_mem _ delimiter))
    · rw [List.mem_singleton.mp last] at delimiter
      exact absurd delimiter (by decide)
  · rw [List.mem_singleton.mp closing] at delimiter
    exact absurd delimiter (by decide)

/-- Two texts agree up to their first quotes. -/
theorem eq_of_append_quote {left right behind : Text} (leftWhole : '"' ∉ left)
    (rightWhole : '"' ∉ right) (same : left ++ '"' :: rest = right ++ '"' :: behind) :
    left = right ∧ rest = behind := by
  obtain ⟨part, rfl, split⟩ := Text.exists_append_of_not_mem leftWhole same
  cases part with
  | nil => exact ⟨(List.append_nil left).symm, (List.cons_eq_cons.mp split).2⟩
  | cons c part =>
    obtain ⟨rfl, -⟩ := List.cons_eq_cons.mp split
    exact absurd (List.mem_append_right left List.mem_cons_self) rightWhole

/-- An attribute is its lead and its value in double quotes, and nothing else is. -/
theorem scan_eq_some_iff :
    attr.scan s = some (value, rest) ↔
      '"' ∉ value ∧ s = attr.lead ++ '"' :: (value ++ '"' :: rest) := by
  simp only [scan, Option.bind_eq_bind, Option.bind_eq_some_iff, Prod.exists]
  constructor
  · rintro ⟨_, behind, lead, _, after, closing, same⟩
    cases same
    have whole : '"' ∉ behind.takeWhile (· != '"') := by
      intro member
      simpa using List.all_eq_true.mp List.all_takeWhile _ member
    have closes : behind.dropWhile (· != '"') = '"' :: rest :=
      Scanner.literal_eq_some_iff.mp closing
    refine ⟨whole, ?_⟩
    rw [Scanner.literal_eq_some_iff.mp lead, List.append_assoc, List.singleton_append, ← closes,
      List.takeWhile_append_dropWhile]
  · rintro ⟨whole, rfl⟩
    have inside : ∀ c ∈ value, (c != '"') = true := by
      intro c member
      rw [bne_iff_ne]
      rintro rfl
      exact whole member
    have behind : (value ++ '"' :: rest).dropWhile (· != '"') = '"' :: rest := by
      rw [List.dropWhile_append_of_pos inside]
      rfl
    have taken : (value ++ '"' :: rest).takeWhile (· != '"') = value := by
      rw [List.takeWhile_append_of_pos inside, List.takeWhile_cons_of_neg (by simp),
        List.append_nil]
    refine ⟨(), value ++ '"' :: rest, Scanner.literal_eq_some_iff.mpr (by simp), (), rest, ?_, ?_⟩
    · rw [behind]
      exact Scanner.literal_append ['"'] rest
    · rw [taken]

/-- What is behind an attribute is shorter than the text it stands in. -/
theorem length_lt_of_scan (read : attr.scan s = some (value, rest)) :
    rest.length < s.length := by
  obtain ⟨-, rfl⟩ := scan_eq_some_iff.mp read
  simp only [List.length_append, List.length_cons]
  omega

@[simp]
theorem values_nil : attr.values [] = [] := by
  simp [values, Scanner.pieces]

/-- The values of a text are the one it begins with and those behind it. -/
theorem values_of_scan (read : attr.scan s = some (value, rest)) :
    attr.values s = value :: attr.values rest := by
  rw [values, Scanner.pieces_of_some read (length_lt_of_scan read)]
  rfl

/-- A character that no attribute begins with has no values. -/
theorem values_of_none {cs : Text} (absent : attr.scan (c :: cs) = none) :
    attr.values (c :: cs) = attr.values cs := by
  rw [values, Scanner.pieces_of_none absent]
  rfl

/-- **A text is passed over** in which no value is opened, with what follows. -/
theorem values_append_of_none (absent : ∀ part, part ≠ [] → part <:+ front →
      ¬ attr.lead ++ ['"'] <+: part ++ rest) :
    attr.values (front ++ rest) = attr.values rest := by
  have none : ∀ part, part ≠ [] → part <:+ front → attr.scan (part ++ rest) = none := by
    intro part nonempty suffix
    cases read : attr.scan (part ++ rest) with
    | none => rfl
    | some found =>
      obtain ⟨value, behind⟩ := found
      obtain ⟨-, whole⟩ := scan_eq_some_iff.mp read
      refine absurd ⟨value ++ '"' :: behind, ?_⟩ (absent part nonempty suffix)
      rw [whole, List.append_assoc, List.singleton_append]
  rw [values, Scanner.pieces_append_of_none none, List.filterMap_append]
  simp [values, Lexicon.wordOf?, Function.comp_def]

/-- No value is opened in a text without the attribute, nor across its end where a foreign
character stands there. -/
theorem IsAbsent.not_prefix_append (absent : attr.IsAbsent front)
    (apart : attr.Apart front rest) {part : Text} (nonempty : part ≠ []) (suffix : part <:+ front) :
    ¬ attr.lead ++ ['"'] <+: part ++ rest := by
  intro opens
  rcases List.prefix_or_prefix_of_prefix opens (List.prefix_append part rest) with
    inside | ⟨across, whole⟩
  · exact absent (inside.isInfix.trans suffix.isInfix)
  · rw [← whole, List.prefix_append_right_inj] at opens
    rcases apart with last | first
    · obtain ⟨earlier, rfl⟩ := suffix
      apply last (part.getLast nonempty)
      · rw [List.getLast?_append, List.getLast?_eq_some_getLast nonempty]
        rfl
      · rw [← whole]
        exact List.mem_append_left across (List.getLast_mem nonempty)
    · cases across with
      | nil =>
        rw [List.append_nil] at whole
        exact absent (whole ▸ suffix.isInfix)
      | cons c across =>
        obtain ⟨behind, rfl⟩ := opens
        apply first c rfl
        rw [← whole]
        exact List.mem_append_right part List.mem_cons_self

/-- A text without the attribute is passed over up to a foreign character. -/
theorem values_append (absent : attr.IsAbsent front) (apart : attr.Apart front rest) :
    attr.values (front ++ rest) = attr.values rest :=
  values_append_of_none fun _ => absent.not_prefix_append apart

/-- A text without double quotes holds no attribute. -/
theorem isAbsent_of_not_mem (unquoted : '"' ∉ s) : attr.IsAbsent s :=
  fun inside => unquoted (inside.subset (List.mem_append_right _ List.mem_cons_self))

/-- An attribute that stands in no text stands in no part of it. -/
theorem IsAbsent.of_infix (absent : attr.IsAbsent t) (inside : s <:+: t) : attr.IsAbsent s :=
  fun opens => absent (opens.trans inside)

/-- A foreign sign in front of a text brings no attribute about. -/
theorem IsAbsent.cons (absent : attr.IsAbsent s) (foreign : attr.IsForeign c) :
    attr.IsAbsent (c :: s) := by
  intro opens
  rcases List.infix_cons_iff.mp opens with ⟨behind, whole⟩ | inside
  · have starts : c ∈ (attr.lead ++ ['"'] ++ behind).head? := by
      rw [whole]
      rfl
    apply foreign
    cases spelled : attr.lead ++ ['"'] with
    | nil => exact absurd spelled (by simp)
    | cons d lead =>
      rw [spelled] at starts
      exact Option.some.inj starts ▸ List.mem_cons_self
  · exact absent inside

/-- A foreign sign behind a text brings no attribute about. -/
theorem IsAbsent.concat (absent : attr.IsAbsent s) (foreign : attr.IsForeign c) :
    attr.IsAbsent (s ++ [c]) := by
  intro opens
  rcases List.infix_concat_iff.mp opens with suffix | inside
  · rcases List.suffix_concat_iff.mp suffix with empty | ⟨front, whole, -⟩
    · exact absurd empty (by simp)
    · apply foreign
      rw [whole]
      exact List.mem_append_right front List.mem_cons_self
  · exact absent inside

/-! ## Texts that yield values -/

/-- The value of some attribute when it is this one, by what stands before its quote. -/
def given (attr : Attribute) (front value : Text) : List Text :=
  if attr.lead.isSuffixOf front then [value] else []

/-- A text that has the given values in front of those of any text behind it. -/
def Yields (attr : Attribute) (s : Text) (found : List Text) : Prop :=
  ∀ rest, attr.values (s ++ rest) = found ++ attr.values rest

namespace Yields

variable {found more : List Text}

/-- The empty text yields nothing. -/
theorem nil : attr.Yields [] [] :=
  fun _ => rfl

/-- Two texts yield what each of them does. -/
theorem append (first : attr.Yields s found) (second : attr.Yields t more) :
    attr.Yields (s ++ t) (found ++ more) := by
  intro rest
  rw [List.append_assoc, first, second, List.append_assoc]

/-- A text that yields nothing makes no difference in front of another. -/
theorem skip (first : attr.Yields s []) (second : attr.Yields t more) :
    attr.Yields (s ++ t) more :=
  first.append second

/-- A text that yields nothing makes no difference behind another. -/
theorem last (first : attr.Yields s found) (second : attr.Yields t []) :
    attr.Yields (s ++ t) found := by
  have both := first.append second
  rwa [List.append_nil] at both

/-- What a text yields are its values. -/
theorem values_eq (yields : attr.Yields s found) : attr.values s = found := by
  have whole := yields []
  rwa [List.append_nil, values_nil, List.append_nil] at whole

/-- A text without the attribute yields nothing when it ends with a foreign character. -/
theorem of_isAbsent (absent : attr.IsAbsent s)
    (last : ∀ c ∈ s.getLast?, attr.IsForeign c) : attr.Yields s [] :=
  fun _ => values_append absent (.inl last)

/-- A text without the attribute may stand before a delimiter. -/
theorem behind (yields : attr.Yields s found) (absent : attr.IsAbsent front)
    (first : ∃ c ∈ delimiters, s.head? = some c) : attr.Yields (front ++ s) found := by
  obtain ⟨c, delimiter, starts⟩ := first
  intro rest
  have apart : attr.Apart front (s ++ rest) := by
    refine .inr fun d member => ?_
    rw [List.head?_append, starts] at member
    exact Option.some.inj member ▸ isForeign_of_mem delimiter
  rw [List.append_assoc, values_append absent apart, yields]

/-- A quote that the lead does not stand before opens nothing. -/
theorem quote (unquoted : '"' ∉ front) (other : ¬ attr.lead <:+ front) :
    attr.Yields (front ++ ['"']) [] := by
  intro rest
  apply values_append_of_none
  intro part nonempty suffix opens
  obtain ⟨behind, whole⟩ := opens
  obtain ⟨body, rfl⟩ : ∃ body, part = body ++ ['"'] := by
    rcases List.suffix_concat_iff.mp suffix with empty | ⟨body, same, -⟩
    · exact absurd empty nonempty
    · exact ⟨body, same⟩
  have inside : body <:+ front := by
    obtain ⟨earlier, same⟩ := suffix
    rw [← List.append_assoc] at same
    exact ⟨earlier, List.append_cancel_right same⟩
  simp only [List.append_assoc, List.singleton_append] at whole
  have same := eq_of_append_quote attr.unquoted_lead
    (fun member => unquoted (inside.subset member)) whole
  exact other (same.1 ▸ inside)

/-- What the lead and a quote stand before is a value. -/
theorem quoted (unquoted : '"' ∉ front) (whole : '"' ∉ value) :
    attr.Yields (front ++ (attr.lead ++ '"' :: (value ++ ['"']))) [value] := by
  intro rest
  have read : attr.scan (attr.lead ++ '"' :: (value ++ '"' :: rest)) =
      some (value, rest) := scan_eq_some_iff.mpr ⟨whole, rfl⟩
  have split : front ++ (attr.lead ++ '"' :: (value ++ ['"'])) ++ rest =
      front ++ (attr.lead ++ '"' :: (value ++ '"' :: rest)) := by
    simp only [List.append_assoc, List.cons_append, List.nil_append]
  rw [split, values_append_of_none, values_of_scan read]
  · rfl
  · rintro part nonempty suffix ⟨behind, opens⟩
    rw [List.append_assoc, List.singleton_append, ← List.append_assoc] at opens
    have before : '"' ∉ part ++ attr.lead := by
      intro member
      rcases List.mem_append.mp member with early | late
      · exact unquoted (suffix.subset early)
      · exact attr.unquoted_lead late
    have same := (eq_of_append_quote attr.unquoted_lead before opens).1
    exact nonempty (List.self_eq_append_left.mp same)

/-- A value of some attribute, which is yielded when it is this one. -/
theorem assigned (unquoted : '"' ∉ front) (whole : '"' ∉ value) (equals : '=' ∉ value) :
    attr.Yields (front ++ '"' :: (value ++ ['"'])) (attr.given front value) := by
  by_cases here : attr.lead <:+ front
  · obtain ⟨before, rfl⟩ := here
    have early : '"' ∉ before := fun member => unquoted (List.mem_append_left _ member)
    rw [given, if_pos (List.isSuffixOf_iff_suffix.mpr (List.suffix_append before attr.lead)),
      List.append_assoc]
    exact quoted early whole
  · have other : ¬ attr.lead <:+ value := by
      intro suffix
      exact equals (suffix.subset (List.mem_append_right attr.name List.mem_cons_self))
    have both := (quote unquoted here).append (quote whole other)
    rw [given, if_neg (mt List.isSuffixOf_iff_suffix.mp here)]
    rwa [List.append_assoc, List.singleton_append] at both

/-- A text with one value in double quotes yields that value. -/
theorem constant
    (plain : (front.contains '"' || value.contains '"' || value.contains '=') = false) :
    attr.Yields (front ++ '"' :: (value ++ ['"'])) (attr.given front value) := by
  simp only [Bool.or_eq_false_iff, List.contains_eq_mem, decide_eq_false_iff_not] at plain
  exact assigned plain.1.1 plain.1.2 plain.2

/-- What stands between attributes, up to a delimiter. -/
theorem between (unquoted : '"' ∉ s) (last : ∃ c ∈ delimiters, s.getLast? = some c) :
    attr.Yields s [] := by
  obtain ⟨c, delimiter, ends⟩ := last
  apply of_isAbsent (isAbsent_of_not_mem unquoted)
  intro d member
  rw [ends] at member
  exact Option.some.inj member ▸ isForeign_of_mem delimiter

/-- A text without double quotes yields nothing, whatever plain text stands around it. -/
theorem around {before after : Text} (whole : '"' ∉ s)
    (plain : (before ++ after).contains '"' = false)
    (last : ∃ c ∈ delimiters, after.getLast? = some c) :
    attr.Yields (before ++ (s ++ after)) [] := by
  obtain ⟨c, delimiter, ends⟩ := last
  simp only [List.contains_eq_mem, decide_eq_false_iff_not, List.mem_append, not_or] at plain
  apply between
  · simp only [List.mem_append, not_or]
    exact ⟨plain.1, whole, plain.2⟩
  · exact ⟨c, delimiter, by rw [List.getLast?_append, List.getLast?_append, ends]; rfl⟩

/-- Texts yield together what each of them yields. -/
theorem flatMap {α : Type} {items : List α} {text : α → Text} {found : α → List Text}
    (each : ∀ item ∈ items, attr.Yields (text item) (found item)) :
    attr.Yields (items.flatMap text) (items.flatMap found) := by
  induction items with
  | nil => exact nil
  | cons item items ih =>
    obtain ⟨here, later⟩ := List.forall_mem_cons.mp each
    rw [List.flatMap_cons, List.flatMap_cons]
    exact here.append (ih later)

end Yields

end Attribute

end Scriptorium.Html
