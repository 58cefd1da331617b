import Scriptorium.Proofs.Citation.Token
import Scriptorium.Proofs.Math.Token
import Scriptorium.Proofs.Text.Rewriting
/-! # Marks

The tokens that stand in a document on its way into a paper are those of references and
those of formulas. Together they are one lexicon (`Mark.lexicon`), since neither sort
starts inside of the other. They are made of letters, digits and hyphens
(`Mark.isMarkChar_of_mem`), so all other characters keep them apart (`Mark.separates`).
-/

namespace Scriptorium

/-- A token of a reference, by its digits, or of a formula. -/
inductive Mark where
  | citation (digits : Text)
  | formula (token : Math.Token)
  deriving DecidableEq, Repr

/-- The characters that marks are made of. -/
def isMarkChar (c : Char) : Bool :=
  isAsciiAlphanumeric c || isDecimalDigit c || isHyphen c

namespace Mark

/-- A mark as it is written. -/
def text : Mark → Text
  | citation digits => Citation.tokenText digits
  | formula token => token.text

/-- The form of marks. -/
def IsWord : Mark → Prop
  | citation digits => Citation.IsDigits digits
  | formula token => token.WellFormed

/-- A mark at the start of a text. -/
def scan : Scanner Mark := fun s =>
  match Citation.token? s with
  | some (digits, rest) => some (.citation digits, rest)
  | none => (Math.token? s).map fun (token, rest) => (.formula token, rest)

variable {mark : Mark} {s rest : Text} {c : Char}

/-- No mark is written as nothing. -/
theorem text_ne_nil (mark : Mark) : mark.text ≠ [] := by
  cases mark with
  | citation digits => exact Citation.lexicon.text_ne_nil digits
  | formula token => exact Math.lexicon.text_ne_nil token

private theorem head?_text_citation (digits : Text) :
    (text (.citation digits)).head? = some 'C' := by
  rw [text, Citation.tokenText_eq]
  rfl

private theorem head?_text_formula (token : Math.Token) :
    (text (.formula token)).head? = some 'L' := by
  rw [text, Math.Token.text_eq]
  rfl

/-- What is read as a mark is its text, and nothing else is. -/
theorem scan_eq_some_iff : scan s = some (mark, rest) ↔ mark.IsWord ∧ s = mark.text ++ rest := by
  unfold scan
  cases cited : Citation.token? s with
  | some found =>
    obtain ⟨digits, behind⟩ := found
    obtain ⟨isDigits, whole⟩ := Citation.token?_eq_some_iff.mp cited
    cases mark with
    | citation other =>
      rw [IsWord, text, ← Citation.token?_eq_some_iff, cited]
      simp
    | formula token =>
      constructor
      · intro same
        cases same
      · rintro ⟨-, same⟩
        have first := congrArg List.head? (whole.symm.trans same)
        rw [List.head?_append, List.head?_append, head?_text_formula] at first
        rw [show Citation.tokenText digits = text (.citation digits) from rfl,
          head?_text_citation] at first
        cases first
  | none =>
    cases mark with
    | citation other =>
      rw [IsWord, text, ← Citation.token?_eq_some_iff, cited]
      simp
    | formula token =>
      rw [IsWord, text, ← Math.token?_eq_some_iff]
      simp only [Option.map_eq_some_iff, Prod.mk.injEq, formula.injEq, Prod.exists]
      constructor
      · rintro ⟨_, _, read, rfl, rfl⟩
        exact read
      · exact fun read => ⟨token, rest, read, rfl, rfl⟩

/-! ## Neither sort starts inside of the other -/

private theorem not_mem_citation {digits : Text} (isDigits : Citation.IsDigits digits) :
    'L' ∉ Citation.tokenText digits := by
  rw [Citation.tokenText_eq]
  intro member
  rcases List.mem_append.mp member with lead | member
  · exact absurd lead (by decide)
  · rcases List.mem_append.mp member with digit | closing
    · exact isDigits.not_mem (by decide) digit
    · exact absurd closing (by decide)

/-- Letters and digits before a closing do not start a reference token. -/
theorem letters_ne_citation {letters : Text}
    (alphanumeric : ∀ c ∈ letters, isAsciiAlphanumeric c = true) (digits behind : Text) :
    letters ++ (Math.tokenEnd ++ rest) ≠ Citation.tokenText digits ++ behind := by
  intro same
  have hyphen : isAsciiAlphanumeric '-' = false := by decide
  have left : (letters ++ (Math.tokenEnd ++ rest)).dropWhile isAsciiAlphanumeric =
      Math.tokenEnd ++ rest := by
    rw [List.dropWhile_append_of_pos alphanumeric]
    simp [Math.tokenEnd, hyphen]
  have right : (Citation.tokenText digits ++ behind).dropWhile isAsciiAlphanumeric =
      '-' :: 'R' :: ('E' :: 'F' :: '-' :: (digits ++ Citation.tokenEnd) ++ behind) := by
    rw [Citation.tokenText_eq]
    rfl
  rw [same, right] at left
  simp [Math.tokenEnd] at left

/-- No token of a reference starts inside of a formula's. -/
theorem citation_not_suffix {token : Math.Token} {digits part behind : Text}
    (wellFormed : token.WellFormed) (nonempty : part ≠ []) (suffix : part <:+ token.text) :
    part ++ rest ≠ Citation.tokenText digits ++ behind := by
  intro same
  have start : 'C' ∈ part.head? := by
    have first := congrArg List.head? same
    rw [show Citation.tokenText digits = text (.citation digits) from rfl, List.head?_append,
      List.head?_append, head?_text_citation] at first
    cases part with
    | nil => exact absurd rfl nonempty
    | cons c part => exact first
  -- Only the payload can bring a capital C, and behind it comes the closing.
  have outside : ∀ front tail : Text, part = front ++ tail → front ≠ [] → 'C' ∈ front := by
    rintro front tail rfl filled
    cases front with
    | nil => exact absurd rfl filled
    | cons c front =>
      cases Option.mem_some_iff.mp start
      exact List.mem_cons_self
  rw [Math.Token.text_eq] at suffix
  have number : part <:+ token.payload ++ Math.tokenEnd := by
    rcases Text.suffix_append_cases suffix with suffix | ⟨front, filled, inside, whole⟩
    · rcases Text.suffix_append_cases suffix with suffix | ⟨front, filled, inside, whole⟩
      · rcases List.suffix_cons_iff.mp suffix with rfl | suffix
        · cases start
        · rcases Text.suffix_append_cases suffix with suffix | ⟨front, filled, inside, whole⟩
          · rcases List.suffix_cons_iff.mp suffix with rfl | suffix
            · cases start
            · exact suffix
          · have digit := wellFormed.digits 'C' (inside.subset (outside front _ whole filled))
            exact absurd digit (by decide)
      · have tag := inside.subset (outside front _ whole filled)
        cases kind : token.kind <;> rw [kind] at tag <;> exact absurd tag (by decide)
    · have lead := inside.subset (outside front _ whole filled)
      exact absurd lead (by decide)
  rcases Text.suffix_append_cases number with closing | ⟨letters, filled, inside, whole⟩
  · cases part with
    | nil => exact nonempty rfl
    | cons c part =>
      cases Option.mem_some_iff.mp start
      exact absurd (closing.subset List.mem_cons_self) (by decide)
  · rw [whole, List.append_assoc] at same
    exact letters_ne_citation (fun c member => wellFormed.letters c (inside.subset member))
      digits behind same

/-- **The marks as a lexicon.** -/
def lexicon : Lexicon Mark where
  scan := scan
  text := text
  IsWord := IsWord
  text_ne_nil := text_ne_nil
  scan_eq_some_iff := scan_eq_some_iff
  eq_text_of_suffix := by
    intro word other part rest behind isWord isOther nonempty suffix same
    cases word with
    | citation digits =>
      cases other with
      | citation others => exact Citation.eq_tokenText_of_suffix isWord nonempty suffix same
      | formula token =>
        exfalso
        have first := congrArg List.head? same
        rw [List.head?_append, List.head?_append, head?_text_formula] at first
        cases part with
        | nil => exact nonempty rfl
        | cons c part =>
          cases Option.some.inj first
          exact not_mem_citation isWord (suffix.subset List.mem_cons_self)
    | formula token =>
      cases other with
      | citation digits => exact absurd same (citation_not_suffix isWord nonempty suffix)
      | formula others => exact Math.Token.eq_text_of_suffix isWord nonempty suffix same

/-! ## The characters of marks -/

private theorem isMarkChar_of_isHexDigit (digit : Citation.isHexDigit c = true) :
    isMarkChar c = true := by
  simp only [Citation.isHexDigit, Bool.or_eq_true, Bool.and_eq_true, decide_eq_true_eq] at digit
  simp only [isMarkChar, isAsciiAlphanumeric, isAsciiLetter, Bool.or_eq_true, Bool.and_eq_true,
    decide_eq_true_eq]
  rcases digit with decimal | ⟨low, high⟩
  · exact .inl (.inl (.inr decimal))
  · exact .inl (.inl (.inl (.inl ⟨low, Char.le_trans high (by decide)⟩)))

/-- Marks are made of letters, digits and hyphens. -/
theorem isMarkChar_of_mem (isWord : mark.IsWord) (member : c ∈ mark.text) :
    isMarkChar c = true := by
  have known : ∀ known : Text, known.all isMarkChar = true → c ∈ known → isMarkChar c = true :=
    fun known all listed => List.all_eq_true.mp all c listed
  cases mark with
  | citation digits =>
    rw [text, Citation.tokenText_eq] at member
    rcases List.mem_append.mp member with lead | member
    · exact known _ (by decide) lead
    · rcases List.mem_append.mp member with digit | closing
      · exact isMarkChar_of_isHexDigit (Citation.IsDigits.hexadecimal isWord c digit)
      · exact known _ (by decide) closing
  | formula token =>
    rw [text, Math.Token.text_eq] at member
    simp only [List.mem_append, List.mem_cons] at member
    rcases member with lead | tag | rfl | number | rfl | letters | closing
    · exact known _ (by decide) lead
    · cases kind : token.kind <;> rw [kind] at tag <;> exact known _ (by decide) tag
    · decide
    · rw [isMarkChar, Math.Token.WellFormed.digits isWord c number]
      simp
    · decide
    · rw [isMarkChar, Math.Token.WellFormed.letters isWord c letters]
      simp
    · exact known _ (by decide) closing

/-- No mark holds a line feed. -/
theorem isMarkChar_newline : isMarkChar '\n' = false := by
  decide

/-- No mark holds a backslash. -/
theorem isMarkChar_backslash : isMarkChar '\\' = false := by
  decide

/-- A character that equals one of no mark is of none. -/
theorem isMarkChar_of_beq {d : Char} (other : isMarkChar d = false) (same : (c == d) = true) :
    isMarkChar c = false := by
  rwa [beq_iff_eq.mp same]

/-- All other characters keep marks apart. -/
theorem separates (other : isMarkChar c = false) : lexicon.Separates c := by
  intro mark isWord member
  rw [isMarkChar_of_mem isWord member] at other
  cases other

/-- Every mark ends with a hyphen and a word in capitals. -/
theorem tokenEnd_subset (mark : Mark) : Math.tokenEnd ⊆ mark.text := by
  intro c member
  cases mark with
  | citation digits =>
    rw [text, Citation.tokenText_eq]
    exact List.mem_append_right _ (List.mem_append_right _ member)
  | formula token =>
    rw [text, Math.Token.text_eq]
    simp only [List.mem_append, List.mem_cons]
    exact .inr (.inr (.inr (.inr (.inr (.inr member)))))

/-- No mark holds a blank character. -/
theorem isMarkChar_of_isBlank (blank : isBlank c = true) : isMarkChar c = false := by
  have known : ([9, 10, 11, 12, 13, 0x20, 0x85, 0xA0, 0x1680, 0x2000, 0x2001, 0x2002, 0x2003,
      0x2004, 0x2005, 0x2006, 0x2007, 0x2008, 0x2009, 0x200A, 0x2028, 0x2029, 0x202F, 0x205F,
      0x3000].all fun n => !isMarkChar (Char.ofNat n)) = true := by
    decide
  have listed : c.toNat ∈ [9, 10, 11, 12, 13, 0x20, 0x85, 0xA0, 0x1680, 0x2000, 0x2001, 0x2002,
      0x2003, 0x2004, 0x2005, 0x2006, 0x2007, 0x2008, 0x2009, 0x200A, 0x2028, 0x2029, 0x202F,
      0x205F, 0x3000] := by
    simp only [isBlank, Bool.or_eq_true, Bool.and_eq_true, decide_eq_true_eq, beq_iff_eq] at blank
    simp only [List.mem_cons, List.not_mem_nil, or_false]
    omega
  have same := List.all_eq_true.mp known _ listed
  rw [Char.ofNat_toNat] at same
  simpa using same

end Mark

/-! ## The marks of a text -/

/-- The marks of a text, in order. -/
def marks (s : Text) : List Mark :=
  Mark.lexicon.words s

section

variable {c : Char} {s : Text}

@[simp]
theorem marks_nil : marks [] = [] :=
  Lexicon.words_nil

/-- The marks of a text are those that stand in it. -/
theorem mem_marks_iff {mark : Mark} : mark ∈ marks s ↔ Mark.lexicon.Holds s mark :=
  Lexicon.mem_words_iff

/-- A text without hyphens holds no mark. -/
theorem marks_of_no_hyphen (absent : '-' ∉ s) : marks s = [] :=
  Lexicon.words_eq_nil_of_not_mem (fun mark _ => mark.tokenEnd_subset (by decide)) absent

/-- A text without capitals holds no mark. -/
theorem marks_of_no_capital (absent : 'E' ∉ s) : marks s = [] :=
  Lexicon.words_eq_nil_of_not_mem (fun mark _ => mark.tokenEnd_subset (by decide)) absent

/-- A part of a text without marks holds none. -/
theorem marks_eq_nil_of_within {part : Text} (inside : part <:+: s) (none : marks s = []) :
    marks part = [] := by
  apply List.eq_nil_iff_forall_not_mem.mpr
  intro mark member
  obtain ⟨isWord, within⟩ := mem_marks_iff.mp member
  have held : mark ∈ marks s := mem_marks_iff.mpr ⟨isWord, within.trans inside⟩
  rw [none] at held
  cases held

/-- A mark in a text is one of its marks, whatever stands on its two sides. -/
theorem marks_append_text {mark : Mark} (isWord : mark.IsWord) (front behind : Text) :
    marks (front ++ (mark.text ++ behind)) = marks front ++ mark :: marks behind :=
  Lexicon.words_append_text isWord front behind

/-- The text of a mark holds that mark and no other. -/
theorem marks_text {mark : Mark} (isWord : mark.IsWord) : marks mark.text = [mark] :=
  Lexicon.words_text isWord

/-- No mark reaches out of a text without the letters that marks start with. -/
theorem marks_append_of_no_start {front : Text} (citation : 'C' ∉ front) (formula : 'L' ∉ front)
    (behind : Text) : marks (front ++ behind) = marks behind := by
  induction front with
  | nil => rfl
  | cons c front ih =>
    obtain ⟨notC, citation⟩ := List.ne_and_not_mem_of_not_mem_cons citation
    obtain ⟨notL, formula⟩ := List.ne_and_not_mem_of_not_mem_cons formula
    refine (Lexicon.words_of_none ?_).trans (ih citation formula)
    cases read : Mark.scan (c :: (front ++ behind)) with
    | none => exact read
    | some found =>
      exfalso
      obtain ⟨mark, rest⟩ := found
      obtain ⟨-, whole⟩ := Mark.scan_eq_some_iff.mp read
      have first := congrArg List.head? whole
      rw [List.head?_append] at first
      cases mark with
      | citation digits =>
        rw [Mark.head?_text_citation] at first
        exact notC (Option.some.inj first).symm
      | formula token =>
        rw [Mark.head?_text_formula] at first
        exact notL (Option.some.inj first).symm

/-- No mark reaches across a character of none. -/
theorem marks_append_cons (other : isMarkChar c = false) (front behind : Text) :
    marks (front ++ c :: behind) = marks front ++ marks behind :=
  Lexicon.words_append_cons (Mark.separates other) front behind

/-- A character of no mark in front of a text makes no difference. -/
theorem marks_cons (other : isMarkChar c = false) (behind : Text) :
    marks (c :: behind) = marks behind :=
  Lexicon.words_cons (Mark.separates other) behind

/-- A character of no mark behind a text makes no difference. -/
theorem marks_concat (other : isMarkChar c = false) (front : Text) :
    marks (front ++ [c]) = marks front :=
  Lexicon.words_concat (Mark.separates other) front

/-- Characters of no mark may be dropped in front of a text. -/
theorem marks_dropWhile {p : Char → Bool} (other : ∀ c, p c = true → isMarkChar c = false)
    (s : Text) : marks (s.dropWhile p) = marks s :=
  Lexicon.words_dropWhile (fun c member => Mark.separates (other c member)) s

@[simp]
theorem marks_trimStart (s : Text) : marks s.trimStart = marks s :=
  marks_dropWhile (fun _ => Mark.isMarkChar_of_isBlank) s

@[simp]
theorem marks_trimEnd (s : Text) : marks s.trimEnd = marks s :=
  Lexicon.words_dropEndWhile (fun _ blank => Mark.separates (Mark.isMarkChar_of_isBlank blank)) s

@[simp]
theorem marks_trim (s : Text) : marks s.trim = marks s :=
  Lexicon.words_stripWhere (fun _ blank => Mark.separates (Mark.isMarkChar_of_isBlank blank)) s

/-- Blank text holds no mark. -/
theorem marks_of_isAllBlank (blank : s.isAllBlank = true) : marks s = [] := by
  have all : ∀ c ∈ s, Mark.lexicon.Separates c := fun c member =>
    Mark.separates (Mark.isMarkChar_of_isBlank (List.all_eq_true.mp blank c member))
  have none := Lexicon.words_append_of_all all []
  rwa [List.append_nil, Lexicon.words_nil] at none

/-- No mark reaches across the end of a text. -/
def Closes (s : Text) : Prop :=
  ∀ behind, marks (s ++ behind) = marks s ++ marks behind

/-- No mark reaches across the end of the empty text. -/
theorem closes_nil : Closes [] := by
  intro behind
  rw [marks_nil]
  rfl

/-- No mark reaches across the end of two texts when none reaches across the end of either. -/
theorem Closes.append {front behind : Text} (first : Closes front) (second : Closes behind) :
    Closes (front ++ behind) := by
  intro later
  rw [List.append_assoc, first, second, first, List.append_assoc]

/-- The marks of a text are those of its lines. -/
theorem flatMap_marks_lines (s : Text) : s.lines.flatMap marks = marks s :=
  Lexicon.words_lines (Mark.separates Mark.isMarkChar_newline) (Mark.separates (by decide)) s

/-- The lines of a text without marks hold none. -/
theorem marks_of_mem_lines (none : marks s = []) : ∀ line ∈ s.lines, marks line = [] := by
  rw [← flatMap_marks_lines] at none
  exact List.flatMap_eq_nil_iff.mp none

/-- A text that starts and ends with other characters is delimited. -/
theorem Mark.delimited {d : Char} (first : isMarkChar c = false) (last : isMarkChar d = false)
    (start : s.head? = some c) (ending : s.getLast? = some d) : Mark.lexicon.Delimited s where
  nonempty empty := by
    rw [empty] at start
    cases start
  first e member := by
    rw [start] at member
    exact Option.mem_some_iff.mp member ▸ Mark.separates first
  last e member := by
    rw [ending] at member
    exact Option.mem_some_iff.mp member ▸ Mark.separates last

/-- Where no mark reaches into a text its marks stand between those around it. -/
theorem marks_between (delimited : Mark.lexicon.Delimited s) (front behind : Text) :
    marks (front ++ (s ++ behind)) = marks front ++ (marks s ++ marks behind) :=
  delimited.words_between front behind

/-- The marks of parts are those of each, with text between them that no mark reaches into and that
holds none. -/
theorem marks_join {separator : Text} (delimited : Mark.lexicon.Delimited separator)
    (none : marks separator = []) (parts : List Text) :
    marks (Text.join separator parts) = parts.flatMap marks :=
  Lexicon.words_join delimited none parts

/-- The marks of parts are those of each, with a character of no mark between them. -/
theorem marks_join_char (other : isMarkChar c = false) (parts : List Text) :
    marks (Text.join [c] parts) = parts.flatMap marks :=
  Lexicon.words_join_char (Mark.separates other) parts

/-- The marks of a text are those of its parts between other characters. -/
theorem flatMap_marks_splitOn (other : isMarkChar c = false) (s : Text) :
    (s.splitOn c).flatMap marks = marks s :=
  Lexicon.flatMap_words_splitOn (Mark.separates other) s

@[simp]
theorem marks_joinLines (lines : List Text) : marks (Text.joinLines lines) = lines.flatMap marks :=
  marks_join_char Mark.isMarkChar_newline lines

end

end Scriptorium
