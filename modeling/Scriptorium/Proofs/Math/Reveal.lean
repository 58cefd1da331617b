import Mathlib.Data.List.Basic
import Scriptorium.Proofs.Mark
import Scriptorium.Proofs.Math.RoundTrip
/-! # What giving back reveals

Giving mathematics back replaces the tokens of formulas one by one, whatever stands
around them (`Math.decode_raw_eq`). For this a token of each kind has to spell a text that
no mark reaches out of, which holds of the tokens that protection makes
(`Math.sound_encode`). The marks that are revealed are those that the formulas hide
(`Mark.hidden`, `Math.marks_decode`).
-/

namespace Scriptorium

namespace Mark

/-- The digits of a mark of a reference. -/
def digits? : Mark → Option Text
  | citation digits => some digits
  | formula _ => none

/-- The token of a mark of a formula. -/
def token? : Mark → Option Math.Token
  | citation _ => none
  | formula token => some token

/-- What is read as the token of a citation is read as a mark, and as one of a citation. -/
theorem token?_eq (s : Text) : Citation.token? s = (scan s).bind fun found =>
    found.1.digits?.map fun digits => (digits, found.2) := by
  unfold scan
  cases Citation.token? s with
  | some found => rfl
  | none => cases Math.token? s <;> rfl

private theorem mathToken?_eq (s : Text) : Math.token? s = (scan s).bind fun found =>
    found.1.token?.map fun token => (token, found.2) := by
  cases read : Math.token? s with
  | some found =>
    obtain ⟨token, rest⟩ := found
    have here : scan s = some (.formula token, rest) :=
      scan_eq_some_iff.mpr (Math.token?_eq_some_iff.mp read)
    rw [here]
    rfl
  | none =>
    unfold scan
    rw [read]
    cases Citation.token? s <;> rfl

end Mark

namespace Math

variable {kind : Kind} {s t : Text}

/-- What a mark becomes when the tokens of one kind are given back. -/
def reveal (kind : Kind) (mark : Mark) : Text :=
  (mark.token?.map (Token.markup .raw kind)).getD mark.text

/-- Tokens of one kind are revealed among all marks. -/
theorem decodeKind_eq (kind : Kind) (s : Text) :
    decodeKind .raw kind s = Scanner.replaceAll Mark.lexicon.scan (reveal kind) s :=
  Lexicon.replaceAll_pick Mark.mathToken?_eq s

private theorem decodeKind_text {mark : Mark} (isWord : mark.IsWord) (kind : Kind) :
    decodeKind .raw kind mark.text = reveal kind mark := by
  rw [decodeKind_eq]
  exact Lexicon.replaceAll_text isWord

/-- No mark reaches into what the tokens of a kind in a text become. -/
def Reveals (kind : Kind) (s : Text) : Prop :=
  ∀ mark ∈ marks s, reveal kind mark = mark.text ∨ Mark.lexicon.Delimited (reveal kind mark)

private theorem marks_decodeKind (reveals : Reveals kind s) :
    marks (decodeKind .raw kind s) = (marks s).flatMap fun mark => marks (reveal kind mark) := by
  rw [decodeKind_eq]
  exact Lexicon.words_replaceAll reveals

private theorem marks_decodeKind_subset (reveals : Reveals kind s) (fewer : marks t ⊆ marks s) :
    marks (decodeKind .raw kind t) ⊆ marks (decodeKind .raw kind s) := by
  have reveals' : Reveals kind t := fun mark member => reveals mark (fewer member)
  rw [marks_decodeKind reveals, marks_decodeKind reveals']
  intro mark member
  obtain ⟨outer, listed, inside⟩ := List.mem_flatMap.mp member
  exact List.mem_flatMap.mpr ⟨outer, fewer listed, inside⟩

/-- A text in which each pass gives back texts that no mark reaches into. -/
structure Sound (s : Text) : Prop where
  environment : Reveals .environment s
  inline : Reveals .inline (decodeKind .raw .environment s)
  display : Reveals .display (decodeKind .raw .inline (decodeKind .raw .environment s))

/-- What is sound stays so when it has fewer marks. -/
theorem Sound.mono (sound : Sound s) (fewer : marks t ⊆ marks s) : Sound t where
  environment mark member := sound.environment mark (fewer member)
  inline mark member :=
    sound.inline mark (marks_decodeKind_subset sound.environment fewer member)
  display mark member := by
    have inlined := marks_decodeKind_subset sound.environment fewer
    exact sound.display mark (marks_decodeKind_subset sound.inline inlined member)

/-- Each mark of a sound text is sound. -/
theorem Sound.text (sound : Sound s) {mark : Mark} (member : mark ∈ marks s) : Sound mark.text := by
  apply sound.mono
  intro other inside
  rw [marks_text (mem_marks_iff.mp member).1, List.mem_singleton] at inside
  exact inside ▸ member

/-- Two passes in a row give back each mark in two passes. -/
theorem decodeKind_decodeKind {other : Kind} (reveals : Reveals kind s) :
    decodeKind .raw other (decodeKind .raw kind s) = Scanner.replaceAll Mark.lexicon.scan
      (fun mark => decodeKind .raw other (reveal kind mark)) s := by
  rw [decodeKind_eq kind, decodeKind_eq other, Lexicon.replaceAll_replaceAll reveals]
  simp only [decodeKind_eq]

/-- **Giving back goes mark by mark.** -/
theorem decode_raw_eq (sound : Sound s) : decode .raw s =
    Scanner.replaceAll Mark.lexicon.scan (fun mark => decode .raw mark.text) s := by
  rw [decode, decodeKind_decodeKind sound.inline, decodeKind_eq .environment,
    Lexicon.replaceAll_replaceAll sound.environment]
  apply Lexicon.replaceAll_congr
  intro mark member
  have isWord := (mem_marks_iff.mp member).1
  have later : Reveals .inline (reveal .environment mark) := by
    rw [← decodeKind_text isWord]
    exact (sound.text member).inline
  rw [decode, decodeKind_text isWord, decodeKind_decodeKind later]

/-- The marks behind giving back are those that each mark is given back as. -/
theorem marks_decode (sound : Sound s) :
    marks (decode .raw s) = (marks s).flatMap fun mark => marks (decode .raw mark.text) := by
  have each : ∀ {s}, Sound s → marks (decode .raw s) =
      ((marks s).flatMap fun mark => marks (reveal .environment mark)).flatMap fun mark =>
        (marks (reveal .inline mark)).flatMap fun mark => marks (reveal .display mark) := by
    intro s sound
    rw [decode, marks_decodeKind sound.display, marks_decodeKind sound.inline,
      marks_decodeKind sound.environment, List.flatMap_assoc]
  rw [each sound, List.flatMap_assoc]
  apply List.flatMap_congr
  intro mark member
  rw [each (sound.text member), marks_text (mem_marks_iff.mp member).1, List.flatMap_singleton]

private theorem decode_raw_citation {digits : Text} (isDigits : Citation.IsDigits digits) :
    decode .raw (Citation.tokenText digits) = Citation.tokenText digits := by
  have stays : ∀ kind, decodeKind .raw kind (Citation.tokenText digits) =
      Citation.tokenText digits := by
    intro kind
    have isWord : Mark.IsWord (.citation digits) := isDigits
    exact decodeKind_text isWord kind
  rw [decode, stays, stays, stays]

end Math

/-- The marks that are revealed when a mark is given back: those in the source of a
formula. -/
def Mark.hidden : Mark → List Mark
  | .citation _ => []
  | .formula token => marks (Math.decode .raw token.text)

namespace Math

/-- Behind giving back, a text holds its marks of references and those that were
hidden. -/
theorem count_decode (sound : Sound s) (digits : Text) :
    (marks (decode .raw s)).count (.citation digits) = (marks s).count (.citation digits) +
      ((marks s).flatMap Mark.hidden).count (.citation digits) := by
  have words : ∀ mark ∈ marks s, mark.IsWord := fun mark member => (mem_marks_iff.mp member).1
  rw [marks_decode sound]
  generalize marks s = found at words ⊢
  induction found with
  | nil => rfl
  | cons mark found ih =>
    obtain ⟨isWord, later⟩ := List.forall_mem_cons.mp words
    have rest := ih later
    rw [List.flatMap_cons, List.flatMap_cons, List.count_append, List.count_append, rest]
    cases mark with
    | citation others =>
      have same : marks (decode .raw (Mark.text (.citation others))) = [.citation others] :=
        (congrArg marks (decode_raw_citation isWord)).trans (marks_text isWord)
      rw [same, Mark.hidden, List.count_cons, List.count_cons, List.count_nil]
      omega
    | formula token =>
      rw [Mark.hidden, List.count_cons_of_ne (by exact fun same => by cases same), Mark.text]
      omega

/-! ## Protected texts -/

/-- No mark reaches into a source that is bounded. -/
theorem Bounded.delimited {source : Text} (bounded : Bounded source) :
    Mark.lexicon.Delimited source := by
  obtain ⟨⟨c, first, sign⟩, d, last, sign'⟩ := bounded
  have signs : (['$', '\\', '\x7d'].all fun c => !isMarkChar c) = true := by decide
  have other : ∀ c, c ∈ ['$', '\\', '\x7d'] → isMarkChar c = false := by
    intro c member
    simpa using List.all_eq_true.mp signs c member
  refine Mark.delimited (other c ?_) (other d ?_) first last
  · simp only [List.mem_cons, List.not_mem_nil, or_false] at sign ⊢
    exact sign.imp_right .inl
  · simp only [List.mem_cons, List.not_mem_nil, or_false] at sign' ⊢
    exact sign'.imp_right .inr

/-- The tokens of a layer spell sources. -/
theorem Protects.spells {plain encoded : Text} (protects : Protects kind plain encoded)
    (free : ∀ token : Token, token.kind = kind → ¬ lexicon.Holds plain token) {token : Token}
    (holds : lexicon.Holds encoded token) (ofKind : token.kind = kind) : token.Spells kind := by
  by_contra other
  exact protects.absent other (free token ofKind) holds

/-- No mark reaches into what the tokens of a layer become. -/
theorem Protects.reveals {plain encoded : Text} (protects : Protects kind plain encoded)
    (free : ∀ token : Token, token.kind = kind → ¬ lexicon.Holds plain token) :
    Reveals kind encoded := by
  intro mark member
  obtain ⟨isWord, inside⟩ := mem_marks_iff.mp member
  cases mark with
  | citation digits => exact .inl rfl
  | formula token =>
    by_cases ofKind : token.kind = kind
    · right
      have spells := protects.spells free ⟨isWord, inside⟩ ofKind
      obtain ⟨source, spelled⟩ := Option.ne_none_iff_exists'.mp spells.spelled
      have delimited := spells.bounded.delimited
      subst ofKind
      rw [Token.source, spelled] at delimited
      rw [reveal, Mark.token?, Option.map_some, Option.getD_some, Token.markup_of_source spelled]
      exact delimited
    · exact .inl (Token.markup_of_ne ofKind)

/-- Protecting a text without tokens makes tokens that spell sources. -/
theorem sound_encode (free : TokenFree s) : Sound (encode s) := by
  obtain ⟨displayed, inlined, display, inline, environment⟩ := encodes_encode s
  have noneDisplayed : ∀ kind, kind ≠ .display →
      ∀ token : Token, token.kind = kind → ¬ lexicon.Holds displayed token :=
    fun kind different => display.not_holds different fun token _ => free.not_holds token
  have noneInlined := inline.not_holds (show Kind.environment ≠ .inline by decide)
    (noneDisplayed .environment (by decide))
  have first := environment.decodeKind noneInlined
  have second := inline.decodeKind (noneDisplayed .inline (by decide))
  refine ⟨environment.reveals noneInlined, ?_, ?_⟩
  · rw [first]
    exact inline.reveals (noneDisplayed .inline (by decide))
  · rw [first, second]
    exact display.reveals fun token _ => free.not_holds token

end Math

end Scriptorium
