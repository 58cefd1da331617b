import Scriptorium.Math.Decode
import Scriptorium.Proofs.Math.Protection
/-! # Protected mathematics is given back

Giving back the source of a text is the inverse of putting it under protection, for
every text that holds no token of its own (`Math.decode_raw_encode`). Each layer of
tokens is taken off by the pass of its kind (`Math.Protects.decodeKind`); no layer
brings in tokens of another kind, so each pass finds the tokens of its own layer only
(`Math.Protects.not_holds`), whatever text stands around them.
-/

namespace Scriptorium.Math

/-- A text in which no token occurs. -/
def TokenFree (s : Text) : Prop :=
  ∀ token : Token, token.WellFormed → ¬ token.text <:+: s

/-- A text without tokens holds none. -/
theorem TokenFree.not_holds {s : Text} (free : TokenFree s) (token : Token) :
    ¬ lexicon.Holds s token :=
  fun holds => free token holds.1 holds.2

/-- A text is free of tokens when the recogniser finds none in it. -/
theorem tokenFree_iff (s : Text) : TokenFree s ↔ (lexicon.words s).isEmpty = true := by
  rw [List.isEmpty_iff, List.eq_nil_iff_forall_not_mem]
  exact forall_congr' fun token => by
    rw [Lexicon.mem_words_iff]
    exact not_and.symm

instance : DecidablePred TokenFree := fun s =>
  decidable_of_iff _ (tokenFree_iff s).symm

/-- A token that stands for a source is marked up as that source is. -/
theorem Token.markup_of_source {target : Target} {token : Token} {source : Text}
    (spelled : token.source? = some source) :
    token.markup target token.kind = target.markup token.kind source := by
  rw [Token.markup, if_pos rfl, spelled]

/-- A token of another kind stays. -/
theorem Token.markup_of_ne {target : Target} {kind : Kind} {token : Token}
    (different : token.kind ≠ kind) : token.markup target kind = token.text :=
  if_neg different

/-- The pass of a kind takes off the layer of that kind. -/
theorem Protects.decodeKind {kind : Kind} {plain encoded : Text}
    (protects : Protects kind plain encoded)
    (free : ∀ token : Token, token.kind = kind → ¬ lexicon.Holds plain token) :
    decodeKind .raw kind encoded = plain := by
  apply Lexicon.Abbreviates.replaceAll protects
  · rintro token - ⟨rfl, spelled, -⟩
    obtain ⟨source, spelled⟩ := Option.ne_none_iff_exists'.mp spelled
    rw [Token.markup_of_source spelled, Token.source, spelled]
    rfl
  · intro token holds
    exact Token.markup_of_ne fun ofKind => free token ofKind holds

/-- A layer of one kind brings in no tokens of another kind. -/
theorem Protects.not_holds {kind other : Kind} {plain encoded : Text}
    (protects : Protects kind plain encoded) (different : other ≠ kind)
    (free : ∀ token : Token, token.kind = other → ¬ lexicon.Holds plain token) :
    ∀ token : Token, token.kind = other → ¬ lexicon.Holds encoded token := by
  rintro token rfl
  exact protects.absent (fun spells => different spells.ofKind) (free token rfl)

private theorem decode_of_encodes {plain encoded : Text} (encodes : Encodes plain encoded)
    (free : TokenFree plain) : decode .raw encoded = plain := by
  obtain ⟨displayed, inlined, display, inline, environment⟩ := encodes
  have noneDisplayed : ∀ kind, kind ≠ .display →
      ∀ token : Token, token.kind = kind → ¬ lexicon.Holds displayed token :=
    fun kind different => display.not_holds different fun token _ => free.not_holds token
  have noneInlined := inline.not_holds (show Kind.environment ≠ .inline by decide)
    (noneDisplayed .environment (by decide))
  rw [decode, environment.decodeKind noneInlined,
    inline.decodeKind (noneDisplayed .inline (by decide)),
    display.decodeKind fun token _ => free.not_holds token]

/-- **Giving back undoes protecting.** A text in which no token occurs is the same after
its mathematics and environments have been put under protection and given back. -/
theorem decode_raw_encode {s : Text} (free : TokenFree s) : decode .raw (encode s) = s :=
  decode_of_encodes (encodes_encode s) free

/-- Sources of all three kinds, inside of each other, beside code, beside openings that
nothing closes, and beside text that looks like the parts of tokens. -/
def nestedSources : Text :=
  ("LATEX-INLINE-0-$x$-END \x60$y$\x60 $a $$b$$ c$ \\begin\x7bproof\x7d$i$ $$j$$" ++
  "\\begin\x7bproof\x7d\\end\x7bproof\x7d\\end\x7bproof\x7dLATEX-ENV-1\n\x60\x60\x60\n$z$\n" ++
  "\x60\x60\x60\n\\begin\x7blemma\x7d $open").toList

/-- Sources of all three kinds are read back. -/
theorem decode_raw_encode_nestedSources :
    TokenFree nestedSources ∧ decode .raw (encode nestedSources) = nestedSources := by
  have free : TokenFree nestedSources := by decide +kernel
  exact ⟨free, decode_raw_encode free⟩

end Scriptorium.Math
