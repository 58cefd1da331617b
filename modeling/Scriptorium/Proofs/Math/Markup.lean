import Mathlib.Data.List.Basic
import Scriptorium.Proofs.Math.Reveal
import Scriptorium.Proofs.Name
/-! # Protected mathematics as markup

Given back for a page, a source stands between tags (`Math.container`) with its own text
escaped. The tokens in it pass through that escaping, and are given back between their own
tags by the pass of their kind. So the markup of a text is made token by token
(`Math.decodePasses_eq`), and each character of a formula is escaped once, however deep its
source stands in others (`Math.Token.shown`). In a text that was put under protection every
pass finds only tokens that spell sources (`Math.legible_encode`).
-/

namespace Scriptorium

/-- The signs that stand in a page for the ends of tags and of the values in them. -/
def Html.isSign (c : Char) : Bool :=
  c == '<' || c == '>' || c == '"'

namespace Math

variable {kind : Kind} {s t source : Text} {c : Char}

/-! ## Tokens among other characters -/

private theorem separates_of_mark (separates : Mark.lexicon.Separates c) : lexicon.Separates c :=
  fun token wellFormed => separates (.formula token) wellFormed

private theorem delimited_of_mark (delimited : Mark.lexicon.Delimited s) : lexicon.Delimited s where
  nonempty := delimited.nonempty
  first c member := separates_of_mark (delimited.first c member)
  last c member := separates_of_mark (delimited.last c member)

/-- Every token holds a capital letter that tags do without. -/
theorem words_of_no_capital (absent : 'X' ∉ s) : lexicon.words s = [] := by
  refine Lexicon.words_eq_nil_of_not_mem (fun token _ => ?_) absent
  have spelled : lexicon.text token = _ := token.text_eq
  rw [spelled]
  exact List.mem_append_left _ (by decide)

private theorem words_subset_of_infix (inside : t <:+: s) : lexicon.words t ⊆ lexicon.words s := by
  intro token member
  obtain ⟨wellFormed, within⟩ := Lexicon.mem_words_iff.mp member
  exact Lexicon.mem_words_iff.mpr ⟨wellFormed, within.trans inside⟩

/-- Escaping goes between the tokens of a text. -/
theorem escapeChar_cases (c : Char) : Html.escapeChar c = [c] ∨ lexicon.Separates c ∧
    lexicon.Delimited (Html.escapeChar c) ∧ lexicon.words (Html.escapeChar c) = [] := by
  have reference : ∀ name : Text, isMarkChar c = false → 'X' ∉ '&' :: (name ++ [';']) →
      lexicon.Separates c ∧ lexicon.Delimited ('&' :: (name ++ [';'])) ∧
        lexicon.words ('&' :: (name ++ [';'])) = [] := by
    intro name other absent
    refine ⟨separates_of_mark (Mark.separates other), delimited_of_mark ?_,
      words_of_no_capital absent⟩
    exact Mark.delimited (c := '&') (d := ';') (by decide) (by decide) rfl
      (by rw [← List.cons_append]; exact List.getLast?_concat ..)
  unfold Html.escapeChar
  split
  · exact .inr (reference "amp".toList (by decide) (by decide))
  · exact .inr (reference "lt".toList (by decide) (by decide))
  · exact .inr (reference "gt".toList (by decide) (by decide))
  · exact .inr (reference "quot".toList (by decide) (by decide))
  · exact .inl rfl

private theorem words_escape (s : Text) : lexicon.words (Html.escape s) = lexicon.words s :=
  Lexicon.words_flatMap_eq escapeChar_cases s

/-- Escaping a character of HTML brings no sign of a container about. -/
theorem isSign_escapeChar (c : Char) : (Html.escapeChar c).filter Html.isSign = [] := by
  unfold Html.escapeChar
  split
  any_goals decide
  rename_i notAmp notLt notGt notQuot
  have other : Html.isSign c = false := by
    simp only [Html.isSign, Bool.or_eq_false_iff, beq_eq_false_iff_ne]
    exact ⟨⟨notLt, notGt⟩, notQuot⟩
  rw [List.filter_cons_of_neg (by rw [other]; exact Bool.false_ne_true), List.filter_nil]

/-! ## Containers -/

/-- The tags around a source on a page, and what of it stands between them. -/
structure Container where
  opening : Text
  content : Text
  closing : Text
  deriving DecidableEq, Repr

/-- A container as it is written. -/
def Container.text (container : Container) : Text :=
  container.opening ++ Html.escape container.content ++ container.closing

/-- The container of an environment that is shown as a block with a title. -/
def titledContainer (name body : Text) : Container where
  opening := "<div class=\"latex-env ".toList ++ name ++ "\"><div class=\"env-title\">".toList ++
    titleCase name ++ "</div><div class=\"env-content\">".toList
  content := body.trim
  closing := "</div></div>".toList

/-- The container of an environment: a block with a title, or no tags at all. -/
def environmentContainer (source : Text) : Container :=
  match environmentParts? source with
  | some (name, body) =>
    if titledEnvironments.contains name then titledContainer name body else ⟨[], source, []⟩
  | none => ⟨[], source, []⟩

/-- The container of a source. -/
def container : Kind → Text → Container
  | .display, source => ⟨"<div class=\"math math-display\">".toList, source, "</div>".toList⟩
  | .inline, source => ⟨"<span class=\"math math-inline\">".toList, source, "</span>".toList⟩
  | .environment, source => environmentContainer source

private theorem text_bare (source : Text) : (Container.mk [] source []).text = Html.escape source :=
  List.append_nil _

private theorem environmentHtml_eq (source : Text) :
    environmentHtml source = (environmentContainer source).text := by
  unfold environmentHtml environmentContainer
  cases environmentParts? source with
  | none => exact (text_bare source).symm
  | some parts =>
    dsimp only
    split
    · rfl
    · exact (text_bare source).symm

private theorem markup_html (kind : Kind) (source : Text) :
    Target.markup .html kind source = (container kind source).text := by
  cases kind with
  | display => rfl
  | inline => rfl
  | environment => exact environmentHtml_eq source

/-- Tags, which no token reaches into, and in which none stands. -/
structure IsTags (s : Text) : Prop where
  opens : s.head? = some '<'
  closes : s.getLast? = some '>'
  tokenless : 'X' ∉ s

/-- A part of a source stands between tags, or all of it without any. -/
inductive Container.Encloses (container : Container) (source : Text) : Prop where
  | tagged : IsTags container.opening → container.content <:+: source →
      IsTags container.closing → container.Encloses source
  | bare : container = ⟨[], source, []⟩ → container.Encloses source

/-- What an environment holds is a front of what is read as it. -/
theorem prefix_of_dropEnvironmentEnd? {body : Text} (read : dropEnvironmentEnd? s = some body) :
    body <+: s := by
  simp only [dropEnvironmentEnd?, Option.bind_eq_bind, Option.bind_eq_some_iff, Prod.exists,
    Option.some.injEq] at read
  obtain ⟨_, rest, brace, _, behind, name, _, others, lead, rfl⟩ := read
  have inside : others <:+ s.reverse := by
    rw [Scanner.literal_eq_some_iff.mp brace]
    have start := (Scanner.run_eq_some name).1
    have later : others <:+ behind := by
      rw [Scanner.literal_eq_some_iff.mp lead]
      exact List.suffix_append _ _
    refine List.IsSuffix.trans (later.trans ?_) (List.suffix_append _ rest)
    split at start
    · rw [start]
      exact (List.suffix_append _ _).trans (List.suffix_cons _ _)
    · rw [start]
      exact List.suffix_append _ _
  exact List.reverse_suffix.mp (by rwa [List.reverse_reverse])

private theorem infix_of_environmentParts? {name body : Text}
    (parts : environmentParts? source = some (name, body)) : body <:+: source := by
  simp only [environmentParts?, Option.bind_eq_bind, Option.bind_eq_some_iff, Prod.exists,
    Option.some.injEq, Prod.mk.injEq] at parts
  obtain ⟨_, rest, opening, _, dropped, rfl, rfl⟩ := parts
  rw [eq_of_beginName?_eq_some opening]
  exact (prefix_of_dropEnvironmentEnd? dropped).isInfix.trans (List.suffix_append _ _).isInfix

private theorem isTags_titled {name : Text} (titled : titledEnvironments.contains name = true)
    (body : Text) : IsTags (titledContainer name body).opening where
  opens := rfl
  closes := List.getLast?_append_of_ne_nil _ (by decide)
  tokenless := by
    have plain : titledEnvironments.all (fun name =>
        !(titledContainer name []).opening.contains 'X') = true := by decide
    have tokenless : 'X' ∉ (titledContainer name []).opening := by
      simpa using List.all_eq_true.mp plain name (List.contains_iff_mem.mp titled)
    exact tokenless

private theorem encloses_environment (source : Text) :
    (environmentContainer source).Encloses source := by
  unfold environmentContainer
  cases parts : environmentParts? source with
  | none => exact .bare rfl
  | some found =>
    dsimp only
    split
    · rename_i titled
      have closing : IsTags "</div></div>".toList := ⟨rfl, rfl, by decide⟩
      refine .tagged (isTags_titled titled found.2) ?_ closing
      exact (Text.infix_stripWhere isBlank found.2).trans (infix_of_environmentParts? parts)
    · exact .bare rfl

private theorem encloses (kind : Kind) (source : Text) :
    (container kind source).Encloses source := by
  cases kind with
  | display =>
    have opening : IsTags "<div class=\"math math-display\">".toList := ⟨rfl, rfl, by decide⟩
    have closing : IsTags "</div>".toList := ⟨rfl, rfl, by decide⟩
    exact .tagged opening List.infix_rfl closing
  | inline =>
    have opening : IsTags "<span class=\"math math-inline\">".toList := ⟨rfl, rfl, by decide⟩
    have closing : IsTags "</span>".toList := ⟨rfl, rfl, by decide⟩
    exact .tagged opening List.infix_rfl closing
  | environment => exact encloses_environment source

/-- No token reaches into the tags of a container. -/
theorem IsTags.delimited (tags : IsTags s) : lexicon.Delimited s :=
  delimited_of_mark (Mark.delimited (by decide) (by decide) tags.opens tags.closes)

/-- The tags of a container hold no token. -/
theorem IsTags.words (tags : IsTags s) : lexicon.words s = [] :=
  words_of_no_capital tags.tokenless

/-- Tokens are replaced in the content of a container only. -/
theorem Container.Encloses.replaceAll {container : Container} (encloses : container.Encloses source)
    (write : Token → Text) : Scanner.replaceAll lexicon.scan write container.text =
      container.opening ++ lexicon.rewrite Html.escapeChar write container.content ++
        container.closing := by
  have content : Scanner.replaceAll lexicon.scan write (Html.escape container.content) =
      lexicon.rewrite Html.escapeChar write container.content :=
    Lexicon.replaceAll_flatMap escapeChar_cases container.content
  cases encloses with
  | bare same =>
    subst same
    rw [text_bare, content, List.nil_append, List.append_nil]
  | tagged opening _ closing =>
    rw [Container.text, Lexicon.replaceAll_append (.inr closing.delimited.first),
      Lexicon.replaceAll_append (opening.delimited.apart_right _), content,
      Lexicon.replaceAll_of_words_eq_nil opening.words,
      Lexicon.replaceAll_of_words_eq_nil closing.words]

/-- A container holds the tokens of its content. -/
theorem Container.Encloses.words {container : Container} (encloses : container.Encloses source) :
    lexicon.words container.text = lexicon.words container.content := by
  cases encloses with
  | bare same =>
    subst same
    rw [text_bare, words_escape]
  | tagged opening _ closing =>
    rw [Container.text, Lexicon.words_append (.inr closing.delimited.first),
      Lexicon.words_append (opening.delimited.apart_right _), opening.words, closing.words,
      words_escape, List.nil_append, List.append_nil]

/-- The content of a container is part of its source. -/
theorem Container.Encloses.within {container : Container} (encloses : container.Encloses source) :
    container.content <:+: source := by
  cases encloses with
  | bare same => exact same ▸ List.infix_rfl
  | tagged _ inside _ => exact inside

/-- No token reaches into an escaped source that is bounded. -/
theorem Bounded.delimited_escape (bounded : Bounded source) :
    lexicon.Delimited (Html.escape source) := by
  obtain ⟨⟨c, first, sign⟩, d, last, sign'⟩ := bounded
  have signs : ['$', '\\', '\x7d'].all (fun c =>
      !isMarkChar c && Html.escapeChar c == [c]) = true := by decide
  have kept : ∀ c, c ∈ ['$', '\\', '\x7d'] → isMarkChar c = false ∧ Html.escapeChar c = [c] := by
    intro c member
    simpa using List.all_eq_true.mp signs c member
  obtain ⟨other, same⟩ := kept c (List.mem_append_left ['\x7d'] sign)
  have later : ['$', '\x7d'].Sublist ['$', '\\', '\x7d'] := (List.sublist_cons_self _ _).cons_cons _
  obtain ⟨other', same'⟩ := kept d (later.subset sign')
  apply delimited_of_mark
  refine Mark.delimited other other' ?_ ?_
  · obtain ⟨behind, rfl⟩ := List.head?_eq_some_iff.mp first
    rw [Html.escape, List.flatMap_cons, same]
    rfl
  · obtain ⟨front, rfl⟩ := List.getLast?_eq_some_iff.mp last
    rw [Html.escape, List.flatMap_append, List.flatMap_singleton, same', List.getLast?_concat]

/-- No token reaches into a container whose source is bounded. -/
theorem Container.Encloses.delimited {container : Container} (encloses : container.Encloses source)
    (bounded : Bounded source) : lexicon.Delimited container.text := by
  cases encloses with
  | bare same =>
    subst same
    rw [text_bare]
    exact bounded.delimited_escape
  | tagged opening _ closing =>
    apply delimited_of_mark
    refine Mark.delimited (c := '<') (d := '>') (by decide) (by decide) ?_ ?_
    · rw [Container.text, List.append_assoc, List.head?_append, opening.opens]
      rfl
    · rw [Container.text, List.getLast?_append, closing.closes]
      rfl

/-! ## Passes -/

/-- A text with its tokens of several kinds given back in turn. -/
def decodePasses (target : Target) : List Kind → Text → Text
  | [], s => s
  | kind :: later, s => decodePasses target later (decodeKind target kind s)

/-- The kinds in the order in which they are given back. -/
def passes : List Kind := [.environment, .inline, .display]

private theorem decode_eq_decodePasses (target : Target) (s : Text) :
    decode target s = decodePasses target passes s :=
  rfl

/-- In each pass for a page all tokens of its kind spell sources. -/
def Legible : List Kind → Text → Prop
  | [], _ => True
  | kind :: later, s =>
    (∀ token ∈ lexicon.words s, token.kind = kind → token.Spells kind) ∧
      Legible later (decodeKind .html kind s)

/-- A token as a page shows it behind several passes: a source stands escaped between its
tags, and the tokens in it are shown by the later passes. -/
def Token.shown : List Kind → Token → Text
  | [], token => token.text
  | kind :: later, token =>
    if token.kind = kind then
      let container := container kind token.source
      container.opening ++
        lexicon.rewrite Html.escapeChar (Token.shown later) container.content ++
          container.closing
    else Token.shown later token

/-- The signs of the tags around the sources that a token stands for. -/
def Token.signs : List Kind → Token → Text
  | [], _ => []
  | kind :: later, token =>
    if token.kind = kind then
      let container := container kind token.source
      container.opening.filter Html.isSign ++
        (lexicon.words container.content).flatMap (Token.signs later) ++
          container.closing.filter Html.isSign
    else Token.signs later token

/-- A token that spells its source is marked up as that source is. -/
theorem Token.Spells.markup {token : Token} (spells : token.Spells kind) (target : Target) :
    token.markup target kind = target.markup kind token.source := by
  obtain ⟨source, spelled⟩ := Option.ne_none_iff_exists'.mp spells.spelled
  have same : token.markup target token.kind = target.markup token.kind source :=
    Token.markup_of_source spelled
  rw [spells.ofKind] at same
  rw [same, Token.source, spelled]
  rfl

/-- No token reaches into what a pass for a page writes. -/
theorem markup_html_allowed
    (spells : ∀ token ∈ lexicon.words s, token.kind = kind → token.Spells kind) :
    ∀ token ∈ lexicon.words s, token.markup .html kind = lexicon.text token ∨
      lexicon.Delimited (token.markup .html kind) := by
  intro token member
  by_cases ofKind : token.kind = kind
  · right
    have spells := spells token member ofKind
    rw [spells.markup, markup_html]
    exact (encloses kind token.source).delimited spells.bounded
  · exact .inl (Token.markup_of_ne ofKind)

private theorem markup_raw_allowed
    (spells : ∀ token ∈ lexicon.words s, token.kind = kind → token.Spells kind) :
    ∀ token ∈ lexicon.words s, token.markup .raw kind = lexicon.text token ∨
      lexicon.Delimited (token.markup .raw kind) := by
  intro token member
  by_cases ofKind : token.kind = kind
  · right
    have spells := spells token member ofKind
    rw [spells.markup]
    exact delimited_of_mark spells.bounded.delimited
  · exact .inl (Token.markup_of_ne ofKind)

/-- **The markup of a text is made token by token.** -/
theorem decodePasses_eq {kinds : List Kind} (legible : Legible kinds s) :
    decodePasses .html kinds s = Scanner.replaceAll token? (Token.shown kinds) s := by
  induction kinds generalizing s with
  | nil =>
    exact (Scanner.replaceAll_eq_self (fun _ _ _ read => (token?_eq_some_iff.mp read).2) s).symm
  | cons kind later ih =>
    obtain ⟨spells, legible⟩ := legible
    rw [decodePasses, ih legible, decodeKind]
    refine (Lexicon.replaceAll_replaceAll (markup_html_allowed spells)).trans
      (Lexicon.replaceAll_congr fun token member => ?_)
    by_cases ofKind : token.kind = kind
    · rw [(spells token member ofKind).markup, markup_html, Token.shown, if_pos ofKind]
      exact (encloses kind token.source).replaceAll (Token.shown later)
    · rw [Token.markup_of_ne ofKind, Token.shown, if_neg ofKind]
      exact Lexicon.replaceAll_text (Lexicon.mem_words_iff.mp member).1

/-! ## Protected texts -/

/-- Layers of protection, of which each pass takes one off. -/
def Layers : List Kind → Text → Text → Prop
  | [], plain, encoded => plain = encoded
  | kind :: later, plain, encoded => ∃ below, Protects kind below encoded ∧
      (∀ token : Token, token.kind = kind → ¬ lexicon.Holds below token) ∧
        Layers later plain below

private theorem layers_encode (free : TokenFree s) : Layers passes s (encode s) := by
  obtain ⟨displayed, inlined, display, inline, environment⟩ := encodes_encode s
  have noneDisplayed : ∀ kind, kind ≠ .display →
      ∀ token : Token, token.kind = kind → ¬ lexicon.Holds displayed token :=
    fun kind different => display.not_holds different fun token _ => free.not_holds token
  exact ⟨inlined, environment,
    inline.not_holds (show Kind.environment ≠ .inline by decide) (noneDisplayed _ (by decide)),
    displayed, inline, noneDisplayed _ (by decide), s, display,
    fun token _ => free.not_holds token, rfl⟩

/-- A pass for a page brings in tokens of the layer below only. -/
theorem Protects.words_decodeKind {below encoded : Text} (protects : Protects kind below encoded)
    (free : ∀ token : Token, token.kind = kind → ¬ lexicon.Holds below token)
    (fewer : lexicon.words s ⊆ lexicon.words encoded) :
    (∀ token ∈ lexicon.words s, token.kind = kind → token.Spells kind) ∧
      lexicon.words (Math.decodeKind .html kind s) ⊆ lexicon.words below := by
  have spells : ∀ token ∈ lexicon.words encoded, token.kind = kind → token.Spells kind :=
    fun token member => protects.spells free (Lexicon.mem_words_iff.mp member)
  have within : ∀ token ∈ lexicon.words s, token.kind = kind → token.Spells kind :=
    fun token member => spells token (fewer member)
  have written := Lexicon.words_replaceAll (markup_html_allowed within)
  have source : lexicon.words below = _ := Eq.trans
    (congrArg lexicon.words (protects.decodeKind free).symm)
    (Lexicon.words_replaceAll (markup_raw_allowed spells))
  refine ⟨within, fun inner member => ?_⟩
  obtain ⟨token, listed, inside⟩ := List.mem_flatMap.mp (written ▸ member)
  rw [source]
  refine List.mem_flatMap.mpr ⟨token, fewer listed, ?_⟩
  by_cases ofKind : token.kind = kind
  · rw [(within token listed ofKind).markup] at inside ⊢
    rw [markup_html, (encloses kind token.source).words] at inside
    exact words_subset_of_infix (encloses kind token.source).within inside
  · rw [Token.markup_of_ne ofKind] at inside ⊢
    exact inside

/-- **Reading layer by layer.** The passes for a page find the tokens of their layers, and
leave those below. -/
theorem Layers.legible {kinds : List Kind} {plain encoded : Text}
    (layers : Layers kinds plain encoded) (fewer : lexicon.words s ⊆ lexicon.words encoded) :
    Legible kinds s ∧ lexicon.words (decodePasses .html kinds s) ⊆ lexicon.words plain := by
  induction kinds generalizing s encoded with
  | nil =>
    subst layers
    exact ⟨trivial, fewer⟩
  | cons kind later ih =>
    obtain ⟨below, protects, free, layers⟩ := layers
    obtain ⟨spells, within⟩ := protects.words_decodeKind free fewer
    obtain ⟨legible, left⟩ := ih layers within
    exact ⟨⟨spells, legible⟩, left⟩

/-! ## Signs -/

private theorem Token.WellFormed.filter_text {token : Token} (wellFormed : token.WellFormed) :
    token.text.filter Html.isSign = [] := by
  apply List.filter_eq_nil_iff.mpr
  intro c member sign
  have inside : isMarkChar c = true :=
    @Mark.isMarkChar_of_mem (.formula token) c wellFormed member
  simp only [Html.isSign, Bool.or_eq_true, beq_iff_eq] at sign
  rcases sign with (rfl | rfl) | rfl <;> exact absurd inside (by decide)

/-- The signs that a token is shown with are those of the tags. -/
theorem Token.WellFormed.filter_shown {token : Token} (wellFormed : token.WellFormed)
    (kinds : List Kind) : (token.shown kinds).filter Html.isSign = token.signs kinds := by
  induction kinds generalizing token with
  | nil => exact wellFormed.filter_text
  | cons kind later ih =>
    rw [Token.shown, Token.signs]
    split
    · simp only [List.filter_append]
      rw [Lexicon.filter_rewrite fun c _ => isSign_escapeChar c]
      congr 2
      exact List.flatMap_congr fun inner member => ih (Lexicon.mem_words_iff.mp member).1
    · exact ih wellFormed

private theorem filter_decodePasses {kinds : List Kind} (legible : Legible kinds s)
    (unsigned : ∀ c ∈ s, Html.isSign c = false) :
    (decodePasses .html kinds s).filter Html.isSign =
      (lexicon.words s).flatMap (Token.signs kinds) := by
  have kept : ∀ c ∈ s, [c].filter Html.isSign = [] :=
    fun c member => List.filter_cons_of_neg (by rw [unsigned c member]; exact Bool.false_ne_true)
  calc (decodePasses .html kinds s).filter Html.isSign
    _ = (lexicon.rewrite (fun c => [c]) (Token.shown kinds) s).filter Html.isSign :=
      congrArg (List.filter Html.isSign) (decodePasses_eq legible)
    _ = (lexicon.words s).flatMap fun token => (Token.shown kinds token).filter Html.isSign :=
      Lexicon.filter_rewrite kept
    _ = (lexicon.words s).flatMap (Token.signs kinds) :=
      List.flatMap_congr fun token member => (Lexicon.mem_words_iff.mp member).1.filter_shown kinds

/-- **No formula is left behind.** In the page of a text without tokens none is left, none
was malformed, and each was shown between its tags with what it spells escaped once. When
all signs of the text stand in formulas, those of the page are the ones of the tags. -/
theorem decode_html_encode {s : Text} (free : TokenFree s) :
    TokenFree (decode .html (encode s)) ∧ Legible passes (encode s) ∧
      decode .html (encode s) = Scanner.replaceAll token? (Token.shown passes) (encode s) ∧
      ((∀ c ∈ encode s, Html.isSign c = false) →
        (decode .html (encode s)).filter Html.isSign =
          (lexicon.words (encode s)).flatMap (Token.signs passes)) := by
  obtain ⟨legible, left⟩ := (layers_encode free).legible (List.Subset.refl _)
  rw [decode_eq_decodePasses]
  refine ⟨?_, legible, decodePasses_eq legible, filter_decodePasses legible⟩
  intro token wellFormed within
  have member := left (Lexicon.mem_words_iff.mpr ⟨wellFormed, within⟩)
  exact free token wellFormed (Lexicon.mem_words_iff.mp member).2

/-- An environment with a title around inline and displayed mathematics, all of them with
signs, beside a formula in what looks like the parts of a token. -/
def nestedLemma : Text :=
  ("\\begin\x7blemma\x7d$a $$b < \"c\"$$ d$ <e>\\end\x7blemma\x7d & " ++
  "LATEX-ENV-0-$<$-END").toList

/-- The formulas of this lemma come out with the signs of their containers, and no token is left. -/
theorem decode_html_encode_nestedLemma :
    TokenFree nestedLemma ∧ (∀ c ∈ encode nestedLemma, Html.isSign c = false) ∧
      TokenFree (decode .html (encode nestedLemma)) ∧
      (decode .html (encode nestedLemma)).filter Html.isSign =
        (lexicon.words (encode nestedLemma)).flatMap (Token.signs passes) := by
  have free : TokenFree nestedLemma := by decide +kernel
  have check : (encode nestedLemma).all (!Html.isSign ·) = true := by decide +kernel
  have unsigned : ∀ c ∈ encode nestedLemma, Html.isSign c = false :=
    fun c member => (Bool.not_eq_true' _).mp (List.all_eq_true.mp check c member)
  obtain ⟨left, -, -, signs⟩ := decode_html_encode free
  exact ⟨free, unsigned, left, signs unsigned⟩

end Math

end Scriptorium
