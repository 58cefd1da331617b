import Mathlib.Data.List.Chain
import Scriptorium.Proofs.Latex.Delimiter
import Scriptorium.Proofs.Latex.Repair
/-! # Nested environments

Delimiters nest when each environment is closed by its own name, behind all that is opened
inside of it (`Latex.Nested`). Where quotations hold no other delimiters none of theirs
stands twice in a row (`Latex.Nested.isChain`), so there is nothing to merge, and all other
repairs leave the delimiters of any text alone (`Latex.delimiters_repair`).
-/

namespace Scriptorium.Latex

/-- What an environment must hold: a list an item, and a bibliography an entry. -/
def Filled (name : Text) (inside : List Delimiter) : Prop :=
  (name = "itemize".toList ∨ name = "enumerate".toList → Delimiter.item ∈ inside) ∧
    (name = "thebibliography".toList → Delimiter.entry ∈ inside)

/-- Delimiters of environments that nest, each of which holds what it may. -/
inductive Nested (allows : Text → List Delimiter → Prop) : List Delimiter → Prop
  | nil : Nested allows []
  | item {rest : List Delimiter} : Nested allows rest → Nested allows (.item :: rest)
  | entry {rest : List Delimiter} : Nested allows rest → Nested allows (.entry :: rest)
  | environment {name : Text} {inside rest : List Delimiter} : allows name inside →
      Nested allows inside → Nested allows rest →
      Nested allows (.opens name :: inside ++ .closes name :: rest)

namespace Nested

variable {allows weaker : Text → List Delimiter → Prop} {front behind inside : List Delimiter}
  {name : Text}

/-- Delimiters that are nested are so one behind the other. -/
theorem append (first : Nested allows front) (second : Nested allows behind) :
    Nested allows (front ++ behind) := by
  induction first with
  | nil => exact second
  | item _ ih => exact .item ih
  | entry _ ih => exact .entry ih
  | environment allowed within _ _ ih =>
    rw [List.append_assoc, List.cons_append]
    exact .environment allowed within ih

/-- An environment is nested when what it holds is, and it may hold that. -/
theorem single (allowed : allows name inside) (within : Nested allows inside) :
    Nested allows (.opens name :: inside ++ [.closes name]) :=
  .environment allowed within .nil

/-- Parts whose delimiters are nested are so together. -/
theorem flatMap {α : Type} {parts : List α} {written : α → List Delimiter}
    (each : ∀ part ∈ parts, Nested allows (written part)) :
    Nested allows (parts.flatMap written) := by
  induction parts with
  | nil => exact .nil
  | cons part parts ih =>
    obtain ⟨here, later⟩ := List.forall_mem_cons.mp each
    rw [List.flatMap_cons]
    exact here.append (ih later)

/-- Delimiters that are nested are so when more is allowed. -/
theorem mono (nested : Nested allows front)
    (weakens : ∀ name inside, allows name inside → weaker name inside) : Nested weaker front := by
  induction nested with
  | nil => exact .nil
  | item _ ih => exact .item ih
  | entry _ ih => exact .entry ih
  | environment allowed _ _ within later =>
    exact .environment (weakens _ _ allowed) within later

/-- Nothing is closed before it is opened. -/
theorem head?_ne_closes (nested : Nested allows front) : front.head? ≠ some (.closes name) := by
  cases nested <;> simp

end Nested

/-! ## Quotations -/

/-- The name of quotations. -/
def quoteName : Text := "quote".toList

/-- An environment holds what it must, and a quotation holds no delimiters. -/
def FilledFlat (name : Text) (inside : List Delimiter) : Prop :=
  Filled name inside ∧ (name = quoteName → inside = [])

/-- Whether a delimiter belongs to a quotation. -/
def Delimiter.OfQuote (delimiter : Delimiter) : Prop :=
  delimiter = .opens quoteName ∨ delimiter = .closes quoteName

/-- **No delimiter of a quotation stands twice in a row**, when quotations hold none. -/
theorem Nested.isChain {written : List Delimiter} (nested : Nested FilledFlat written) :
    written.IsChain fun first second => first = second → ¬ first.OfQuote := by
  induction nested with
  | nil => exact .nil
  | item _ ih => exact List.isChain_cons.mpr ⟨fun _ _ _ => by simp [Delimiter.OfQuote], ih⟩
  | entry _ ih => exact List.isChain_cons.mpr ⟨fun _ _ _ => by simp [Delimiter.OfQuote], ih⟩
  | @environment name inside rest allowed _ later ih ihRest =>
    have closing : List.IsChain (fun first second => first = second → ¬ first.OfQuote)
        (.closes name :: rest) := by
      refine List.isChain_cons.mpr ⟨fun next first same => ?_, ihRest⟩
      exact absurd (same ▸ first) later.head?_ne_closes
    by_cases quote : name = quoteName
    · rw [allowed.2 quote]
      exact List.isChain_cons_cons.mpr ⟨nofun, closing⟩
    · have other : ¬ (Delimiter.opens name).OfQuote ∧ ¬ (Delimiter.closes name).OfQuote := by
        simp [Delimiter.OfQuote, quote]
      rw [List.cons_append]
      refine List.isChain_cons.mpr ⟨fun _ _ _ => other.1, ?_⟩
      refine List.isChain_append.mpr ⟨ih, closing, fun last _ next first same => ?_⟩
      rw [same, ← Option.some.inj first]
      exact other.2

/-! ## Repairs -/

/-- What opens an environment is written as its opening. -/
theorem text_opens (name : String) : (Delimiter.opens name.toList).text = openEnvironment name := by
  have lead : Delimiter.opensLead = '\\' :: ("begin".toList ++ ['\x7b']) := rfl
  rw [Delimiter.text, lead, openEnvironment, command]
  simp only [List.append_assoc, List.cons_append, List.nil_append]

/-- What closes an environment is written as its closing. -/
theorem text_closes (name : String) :
    (Delimiter.closes name.toList).text = closeEnvironment name := by
  have lead : Delimiter.closesLead = '\\' :: ("end".toList ++ ['\x7b']) := rfl
  rw [Delimiter.text, lead, closeEnvironment, command]
  simp only [List.append_assoc, List.cons_append, List.nil_append]

/-- Where a delimiter does not stand twice in a row there is nothing to merge. -/
theorem mergeTwice_eq_self {s : Text} {delimiter : Delimiter} (isWord : delimiter.IsWord)
    (once : ¬ [delimiter, delimiter] <:+: delimiters s) : mergeTwice delimiter.text s = s := by
  have absent : ∀ part, part ≠ [] → part <:+ s → twice? delimiter.text (part ++ []) = none := by
    rintro part - ⟨front, rfl⟩
    cases read : twice? delimiter.text (part ++ []) with
    | none => rfl
    | some found =>
      exfalso
      obtain ⟨between, blank, whole⟩ := eq_of_twice?_eq_some read
      have quiet : Quiet between := Quiet.of_not_mem fun member =>
        absurd (List.all_eq_true.mp blank _ member) (by decide)
      have written : Writes (delimiter.text ++ (between ++ delimiter.text))
          ([delimiter] ++ ([] ++ [delimiter])) :=
        (Writes.ofWord _ isWord).append (Writes.append quiet (.ofWord _ isWord))
      obtain ⟨tail, spelled, -⟩ := Delimiter.exists_text_eq isWord
      apply once
      rw [List.append_nil] at whole
      refine ⟨delimiters front, delimiters found.2, ?_⟩
      have here := written found.2
      simp only [List.append_assoc, ← whole] at here
      rw [whole, spelled, List.cons_append, delimiters_append_backslash, ← List.cons_append,
        ← spelled, ← whole, here]
      simp
  have merged : mergeTwice delimiter.text (s ++ []) = s ++ [] :=
    (Scanner.replaceAll_append_of_none absent).trans (congrArg (s ++ ·) Scanner.replaceAll_nil)
  rwa [List.append_nil] at merged

private theorem spares_delimiters : Spares delimiterLexicon where
  newline := separates_delimiters (.inl rfl)
  ampersand front behind := by
    have escaped : Quiet ['\\', '&'] := Quiet.ofLead (by decide) (by decide)
    calc delimiters (front ++ '\\' :: '&' :: behind)
      _ = delimiters front ++ delimiters ('\\' :: '&' :: behind) :=
        delimiters_append_backslash front _
      _ = delimiters front ++ delimiters behind := congrArg (_ ++ ·) (escaped behind)
      _ = delimiters (front ++ '&' :: behind) :=
        (delimiters_append_ampersand front behind).symm

/-- **Repairs keep the delimiters** of a text in which quotations hold none. -/
theorem delimiters_repair {s : Text} (nested : Nested FilledFlat (delimiters s)) :
    delimiters (repair s) = delimiters s := by
  have merged : ∀ delimiter : Delimiter, delimiter.OfQuote → delimiter.IsWord →
      mergeTwice delimiter.text s = s := by
    intro delimiter quote isWord
    refine mergeTwice_eq_self isWord fun twice => ?_
    obtain ⟨front, behind, whole⟩ := twice
    have chain := nested.isChain
    rw [← whole] at chain
    have pair := (List.isChain_append.mp (List.isChain_append.mp chain).1).2.1
    exact List.isChain_pair.mp pair rfl quote
  have letters : quoteName.all isNameChar = true := by decide
  have named : ∀ c ∈ quoteName, isNameChar c = true := List.all_eq_true.mp letters
  have opening : mergeTwice (openEnvironment "quote") s = s :=
    text_opens "quote" ▸ merged (.opens quoteName) (.inl rfl) named
  have closing : mergeTwice (closeEnvironment "quote") s = s :=
    text_closes "quote" ▸ merged (.closes quoteName) (.inr rfl) named
  rw [repair, opening, closing]
  exact spares_delimiters.words_repaired s

end Scriptorium.Latex
