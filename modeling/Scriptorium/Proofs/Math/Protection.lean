import Scriptorium.Math.Encode
import Scriptorium.Proofs.Math.Token
/-! # What protection does to a text

Protection goes over a text in three layers. In each of them tokens of one kind take
the place of the sources that they spell (`Math.Protects`); all else stays. Fences and
code spans cut the text into parts, but the parts of a layer make up the layer of the
whole (`Math.Encodes.append`), so that the protected text is the original one with
three layers of tokens over it (`Math.encodes_encode`).
-/

namespace Scriptorium.Math

/-- What a token stands for. -/
def Token.source (token : Token) : Text :=
  token.source?.getD []

/-- A text starts with a dollar sign or a backslash, and ends with a dollar sign or a
brace, as sources do. -/
structure Bounded (source : Text) : Prop where
  first : ∃ c ∈ source.head?, c ∈ ['$', '\\']
  last : ∃ c ∈ source.getLast?, c ∈ ['$', '\x7d']

/-- A token of a kind spells a source. -/
structure Token.Spells (kind : Kind) (token : Token) : Prop where
  ofKind : token.kind = kind
  spelled : token.source? ≠ none
  bounded : Bounded token.source

/-- The second text is the first one with tokens of one kind in the place of their
sources. -/
def Protects (kind : Kind) : Text → Text → Prop :=
  lexicon.Abbreviates Token.source (Token.Spells kind)

/-- The second text is the first one under three layers of protection. -/
def Encodes (plain encoded : Text) : Prop :=
  ∃ displayed inlined, Protects .display plain displayed ∧ Protects .inline displayed inlined ∧
    Protects .environment inlined encoded

/-- A text encodes itself. -/
theorem Encodes.refl (s : Text) : Encodes s s :=
  ⟨s, s, .refl s, .refl s, .refl s⟩

/-- Protected parts make up a protected whole. -/
theorem Encodes.append {plain plain' encoded encoded' : Text} (first : Encodes plain encoded)
    (second : Encodes plain' encoded') : Encodes (plain ++ plain') (encoded ++ encoded') := by
  obtain ⟨displayed, inlined, display, inline, environment⟩ := first
  obtain ⟨displayed', inlined', display', inline', environment'⟩ := second
  exact ⟨displayed ++ displayed', inlined ++ inlined', display.append display',
    inline.append inline', environment.append environment'⟩

/-! ## Sources -/

/-- The source of displayed mathematics is the start of the text that it is read
from. -/
theorem eq_of_display?_eq_some {s source rest : Text} (read : display? s = some (source, rest)) :
    s = source ++ rest := by
  unfold display? at read
  split at read
  · simp only [Option.map_eq_some_iff, Prod.mk.injEq, Prod.exists] at read
    obtain ⟨body, behind, cut, rfl, rfl⟩ := read
    rw [Text.eq_of_cut?_eq_some cut]
    simp only [List.append_assoc, List.cons_append, List.nil_append]
  · cases read

private theorem eq_of_inline?_eq_some {s source rest : Text}
    (read : inline? s = some (source, rest)) :
    s = source ++ rest := by
  unfold inline? at read
  split at read
  · simp only [Option.bind_eq_bind, Option.bind_eq_some_iff, Prod.exists] at read
    obtain ⟨body, behind, inside, _, _, closing, same⟩ := read
    cases same
    rw [(Scanner.run_eq_some inside).1, Scanner.literal_eq_some_iff.mp closing]
    simp only [List.append_assoc, List.cons_append, List.nil_append]
  · cases read

private theorem eq_of_environmentName?_eq_some {s name rest : Text}
    (read : environmentName? s = some (name, rest)) : s = name ++ rest := by
  simp only [environmentName?, Option.bind_eq_bind, Option.bind_eq_some_iff, Prod.exists] at read
  obtain ⟨letters, behind, run, read⟩ := read
  rw [(Scanner.run_eq_some run).1]
  split at read
  · cases read
    simp only [List.append_assoc, List.cons_append, List.nil_append]
  · cases read
    rfl

/-- What stands before the name in the opening of an environment. -/
def beginLead : Text := ['\\', 'b', 'e', 'g', 'i', 'n', '\x7b']

/-- The opening of an environment is its lead, its name and a closing brace. -/
theorem beginText_eq (name : Text) : beginText name = beginLead ++ (name ++ ['\x7d']) :=
  rfl

/-- What is read as the name of an environment stands in its opening. -/
theorem eq_of_beginName?_eq_some {s name rest : Text} (read : beginName? s = some (name, rest)) :
    s = beginText name ++ rest := by
  simp only [beginName?, Option.bind_eq_bind, Option.bind_eq_some_iff, Prod.exists] at read
  obtain ⟨_, behind, opening, _, _, named, _, _, closing, same⟩ := read
  cases same
  have lead : s = beginLead ++ behind := Scanner.literal_eq_some_iff.mp opening
  rw [lead, eq_of_environmentName?_eq_some named, Scanner.literal_eq_some_iff.mp closing,
    beginText_eq]
  simp only [List.append_assoc]

/-- What ends an environment, and what stands behind it, make up the text. -/
theorem eq_of_environmentEnd?_eq_some {name s body rest : Text} {depth : Nat}
    (read : environmentEnd? name depth s = some (body, rest)) : s = body ++ rest := by
  fun_induction environmentEnd? name depth s generalizing body with
  | case1 => cases read
  | case2 c cs behind closing =>
    cases read
    exact Text.dropStart?_eq_some_iff.mp closing
  | case3 c cs behind closing depth ih =>
    simp only [Option.map_eq_some_iff, Prod.mk.injEq, Prod.exists] at read
    obtain ⟨body, behind, read, rfl, rfl⟩ := read
    rw [ih read, List.cons_append]
  | case4 depth c cs closing deeper =>
    rename_i ih
    simp only [Option.map_eq_some_iff, Prod.mk.injEq, Prod.exists] at read
    obtain ⟨body, behind, read, rfl, rfl⟩ := read
    rw [ih read, List.cons_append]

/-- A source of any kind is the start of the text that it is read from. -/
theorem eq_of_source?_eq_some {kind : Kind} {s source rest : Text}
    (read : source? kind s = some (source, rest)) : s = source ++ rest := by
  cases kind with
  | display => exact eq_of_display?_eq_some read
  | inline => exact eq_of_inline?_eq_some read
  | environment =>
    simp only [source?, environment?, Option.bind_eq_bind, Option.bind_eq_some_iff,
      Prod.exists] at read
    obtain ⟨name, _, opening, body, _, closing, same⟩ := read
    cases same
    rw [eq_of_beginName?_eq_some opening, eq_of_environmentEnd?_eq_some closing,
      List.append_assoc]

/-- What is read as an environment up to its closing ends with a brace. -/
theorem getLast?_of_environmentEnd?_eq_some {name s body rest : Text} {depth : Nat}
    (read : environmentEnd? name depth s = some (body, rest)) : body.getLast? = some '\x7d' := by
  fun_induction environmentEnd? name depth s generalizing body with
  | case1 => cases read
  | case2 c cs behind closing =>
    cases read
    exact List.getLast?_concat ..
  | case3 c cs behind closing depth ih =>
    simp only [Option.map_eq_some_iff, Prod.mk.injEq, Prod.exists] at read
    obtain ⟨body, behind, read, rfl, rfl⟩ := read
    rw [List.getLast?_cons, ih read]
    rfl
  | case4 depth c cs closing deeper =>
    rename_i ih
    simp only [Option.map_eq_some_iff, Prod.mk.injEq, Prod.exists] at read
    obtain ⟨body, behind, read, rfl, rfl⟩ := read
    rw [List.getLast?_cons, ih read]
    rfl

/-- Sources are bounded by signs of mathematics. -/
theorem bounded_of_source?_eq_some {kind : Kind} {s source rest : Text}
    (read : source? kind s = some (source, rest)) : Bounded source := by
  cases kind with
  | display =>
    simp only [source?] at read
    unfold display? at read
    split at read
    · simp only [Option.map_eq_some_iff, Prod.mk.injEq, Prod.exists] at read
      obtain ⟨body, behind, cut, rfl, rfl⟩ := read
      refine ⟨⟨'$', rfl, by decide⟩, '$', ?_, by decide⟩
      rw [List.getLast?_append]
      rfl
    · cases read
  | inline =>
    simp only [source?] at read
    unfold inline? at read
    split at read
    · simp only [Option.bind_eq_bind, Option.bind_eq_some_iff, Prod.exists] at read
      obtain ⟨body, behind, inside, _, _, closing, same⟩ := read
      cases same
      exact ⟨⟨'$', rfl, by decide⟩, '$', List.getLast?_concat .., by decide⟩
    · cases read
  | environment =>
    simp only [source?, environment?, Option.bind_eq_bind, Option.bind_eq_some_iff,
      Prod.exists] at read
    obtain ⟨name, _, opening, body, _, closing, same⟩ := read
    cases same
    refine ⟨⟨'\\', rfl, by decide⟩, '\x7d', ?_, by decide⟩
    rw [List.getLast?_append, getLast?_of_environmentEnd?_eq_some closing]
    rfl

/-! ## Layers -/

/-- Putting one kind under protection adds a layer of that kind. -/
theorem protects_encodeKind (kind : Kind) (counters : Counters) (s : Text) :
    Protects kind s (encodeKind kind counters s).1 := by
  unfold encodeKind
  fun_induction Scanner.pieces (source? kind) s generalizing counters with
  | case1 => exact .nil
  | case2 c cs source rest read fits ih =>
    rw [eq_of_source?_eq_some read]
    let token := Token.ofSource kind (counters.get kind) source
    have spelled : token.source? = some source := Token.source?_ofSource _ _ _
    have same : token.source = source := by
      rw [Token.source, spelled]
      rfl
    have spells : token.Spells kind :=
      ⟨rfl, by rw [spelled]; exact Option.some_ne_none source,
        same ▸ bounded_of_source?_eq_some read⟩
    have layer := Lexicon.Abbreviates.word token (Token.wellFormed_ofSource _ _ _) spells
      (ih (counters.increment kind))
    rw [same] at layer
    exact layer
  | case3 c cs source rest read fits ih => exact .keep c (ih counters)
  | case4 c cs read ih => exact .keep c (ih counters)

private theorem encodes_encodeText (counters : Counters) (s : Text) :
    Encodes s (encodeText counters s).1 :=
  ⟨_, _, protects_encodeKind .display counters s, protects_encodeKind .inline _ _,
    protects_encodeKind .environment _ _⟩

/-! ## Code spans and fences -/

private theorem eq_of_doubleCodeSpan?_eq_some {s code rest : Text}
    (read : doubleCodeSpan? s = some (code, rest)) : s = code ++ rest := by
  unfold doubleCodeSpan? at read
  split at read
  · split at read
    · rename_i body behind cut
      split at read
      · cases read
      · cases read
        rw [Text.eq_of_cut?_eq_some cut]
        simp only [List.append_assoc, List.cons_append, List.nil_append]
    · cases read
  · cases read

/-- Code between single backquotes, and what stands behind it, make up the text. -/
theorem eq_of_singleCodeSpan?_eq_some {s code rest : Text}
    (read : singleCodeSpan? s = some (code, rest)) : s = code ++ rest := by
  unfold singleCodeSpan? at read
  split at read
  · rename_i inside
    split at read
    · rename_i behind stop
      cases read
      have parts := (List.takeWhile_append_dropWhile
        (p := fun c => c != '\x60' && c != '\n') (l := inside)).symm
      rw [stop] at parts
      simpa only [List.append_assoc, List.cons_append, List.nil_append, List.cons.injEq,
        true_and] using parts
    · cases read
  · cases read

/-- What is read as code is a front of the text. -/
theorem eq_of_codeSpan?_eq_some {s code rest : Text} (read : codeSpan? s = some (code, rest)) :
    s = code ++ rest := by
  simp only [codeSpan?, Option.orElse_eq_orElse, Option.orElse_eq_or, Option.or_eq_some_iff] at read
  rcases read with double | ⟨-, single⟩
  · exact eq_of_doubleCodeSpan?_eq_some double
  · exact eq_of_singleCodeSpan?_eq_some single

/-- The text of a stretch. -/
def Stretch.text : Stretch → Text
  | .prose text => text
  | .code text => text

/-- The stretches of a text make it up. -/
theorem flatMap_text_stretches (s : Text) :
    (stretches (Scanner.pieces codeSpan? s)).flatMap Stretch.text = s := by
  have whole : Scanner.replaceAll codeSpan? id s = s :=
    Scanner.replaceAll_eq_self (fun _ _ _ => eq_of_codeSpan?_eq_some) s
  refine Eq.trans ?_ whole
  unfold Scanner.replaceAll
  fun_induction stretches (Scanner.pieces codeSpan? s) with
  | case1 => rfl
  | case2 code rest ih =>
    rw [List.flatMap_cons, List.flatMap_cons, ih]
    rfl
  | case3 c rest text others stretch ih =>
    rw [stretch] at ih
    simp only [List.flatMap_cons] at ih ⊢
    rw [← ih]
    rfl
  | case4 c rest _ ih =>
    rw [List.flatMap_cons, List.flatMap_cons, ih]
    rfl

private theorem encodes_encodeStretches (counters : Counters) (parts : List Stretch) :
    Encodes (parts.flatMap Stretch.text) (encodeStretches counters parts).1 := by
  induction parts generalizing counters with
  | nil => exact .refl []
  | cons part parts ih =>
    cases part with
    | code text => exact (Encodes.refl text).append (ih counters)
    | prose text => exact (encodes_encodeText counters text).append (ih _)

/-- Prose is encoded with tokens in the places of its sources. -/
theorem encodes_encodeProse (counters : Counters) (s : Text) :
    Encodes s (encodeProse counters s).1 := by
  have encodes := encodes_encodeStretches counters (stretches (Scanner.pieces codeSpan? s))
  rwa [flatMap_text_stretches] at encodes

/-- The text of a segment. -/
def Segment.text : Segment → Text
  | .code line => line
  | .prose lines => lines

/-- The segments of lines make up the text of the lines. -/
theorem flatMap_text_segments (inFence : Bool) (lines : List Text) :
    (segments inFence lines).flatMap Segment.text = lines.flatten := by
  fun_induction segments inFence lines with
  | case1 => rfl
  | case2 inFence line lines fenced ih =>
    rw [List.flatMap_cons, ih]
    rfl
  | case3 inFence line lines outside text others segment ih =>
    rw [List.flatten_cons, ← ih, segment, List.flatMap_cons, List.flatMap_cons, Segment.text,
      Segment.text, List.append_assoc]
  | case4 inFence line lines outside _ ih =>
    rw [List.flatMap_cons, ih]
    rfl

private theorem encodes_encodeSegments (counters : Counters) (parts : List Segment) :
    Encodes (parts.flatMap Segment.text) (encodeSegments counters parts).1 := by
  induction parts generalizing counters with
  | nil => exact .refl []
  | cons part parts ih =>
    cases part with
    | code line => exact (Encodes.refl line).append (ih counters)
    | prose text => exact (encodes_encodeProse counters text).append (ih _)

/-- **A protected text is the original one under three layers of tokens.** -/
theorem encodes_encode (s : Text) : Encodes s (encode s) := by
  have encodes := encodes_encodeSegments .zero (segments false s.terminatedLines)
  rwa [flatMap_text_segments, Text.flatten_terminatedLines] at encodes

end Scriptorium.Math
