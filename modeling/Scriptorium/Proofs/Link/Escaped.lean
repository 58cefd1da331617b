import Scriptorium.Proofs.Html.Escape
import Scriptorium.Proofs.Link.Encode
/-! # Reading destinations back

The four character references of HTML are read one after the other. At each turn what is left of
an escaped text is the text with one character fewer escaped (`Html.replace_escapeExcept`), so
reading undoes escaping (`Html.unescape_escape`). Bytes may be spelled with percent escapes in
many ways (`Percent.Spells`); whichever it is, from the destination that the spelling is escaped
to the text of the bytes is read (`Link.decode_escape_spelling`).
-/

namespace Scriptorium

/-- What a text to be replaced begins with stands nowhere in a front, so the front stays. -/
theorem Text.replaceNonempty_append_of_not_mem {c : Char} {front : Text} (absent : c ∉ front)
    (name new s : Text) : replaceNonempty (c :: name) new (front ++ s) =
      front ++ replaceNonempty (c :: name) new s := by
  induction front with
  | nil => rfl
  | cons d front ih =>
    have none : dropStart? (c :: name) (d :: (front ++ s)) = none :=
      if_neg (List.ne_of_not_mem_cons absent)
    rw [List.cons_append, replaceNonempty_of_none none, ih (List.not_mem_of_not_mem_cons absent),
      List.cons_append]

/-! ## Character references -/

namespace Html

variable {c d : Char} {s plain name : Text}

/-- The characters that are escaped, and the names of their references behind the ampersand. -/
def references : List (Char × Text) :=
  [('&', "amp;".toList), ('<', "lt;".toList), ('>', "gt;".toList), ('"', "quot;".toList)]

/-- A character is escaped as a reference to it, or stands for itself. -/
theorem escapeChar_cases (c : Char) :
    (∃ name, (c, name) ∈ references ∧ escapeChar c = '&' :: name) ∨
      c ≠ '&' ∧ escapeChar c = [c] := by
  unfold escapeChar
  split
  iterate 4 exact .inl ⟨_, by decide, rfl⟩
  rename_i ampersand _ _ _
  exact .inr ⟨ampersand, rfl⟩

private theorem escapeChar_of_reference (reference : (c, name) ∈ references) :
    escapeChar c = '&' :: name := by
  have all : ∀ one ∈ references, escapeChar one.1 = '&' :: one.2 := by decide
  exact all _ reference

/-- The names of references begin differently. -/
theorem eq_of_prefix_reference {other rest : Text} (first : (c, name) ∈ references)
    (second : (d, other) ∈ references) (start : name <+: other ++ rest) : c = d := by
  have heads : ∀ one ∈ references, ∀ two ∈ references,
      one.2.head? = two.2.head? → one.1 = two.1 := by decide
  have nonempty : ∀ one ∈ references, one.2 ≠ [] := by decide
  obtain ⟨a, name, rfl⟩ := List.exists_cons_of_ne_nil (nonempty _ first)
  obtain ⟨b, other, rfl⟩ := List.exists_cons_of_ne_nil (nonempty _ second)
  exact heads _ first _ second (congrArg some (List.cons_prefix_cons.mp start).1)

/-- A text with its characters escaped, those in `plain` apart. -/
def escapeExcept (plain s : Text) : Text :=
  s.flatMap fun c => if c ∈ plain then [c] else escapeChar c

/-- **One reference is read** wherever it was written, and nothing else is taken for it. -/
theorem replace_escapeExcept (reference : (c, name) ∈ references) (ampersand : '&' ∉ plain)
    (escaped : c ∉ plain) (s : Text) :
    (escapeExcept plain s).replace ('&' :: name) [c] = escapeExcept (c :: plain) s := by
  change Text.replaceNonempty ('&' :: name) [c] (escapeExcept plain s) = _
  induction s with
  | nil => exact Text.replaceNonempty.eq_1 ..
  | cons d s ih =>
    have split (plain : Text) : escapeExcept plain (d :: s) =
        (if d ∈ plain then [d] else escapeChar d) ++ escapeExcept plain s := List.flatMap_cons
    rw [split, split, ← ih]
    by_cases own : d = c
    · subst own
      rw [if_neg escaped, if_pos List.mem_cons_self, escapeChar_of_reference reference]
      exact Text.replaceNonempty_of_some (List.cons_ne_nil _ _)
        (Text.dropStart?_eq_some_iff.mpr rfl)
    · have kept : (d ∈ c :: plain) = (d ∈ plain) := by simp [own]
      simp only [kept]
      split
      · rename_i listed
        have other : '&' ∉ [d] := fun same =>
          ampersand (List.mem_singleton.mp same ▸ listed)
        exact Text.replaceNonempty_append_of_not_mem other ..
      · rcases escapeChar_cases d with ⟨another, listed, written⟩ | ⟨other, written⟩
        · -- Another reference: it differs behind the ampersand, and it holds no second one.
          have single : ∀ one ∈ references, '&' ∉ one.2 := by decide
          have differs : Text.dropStart? ('&' :: name)
              ('&' :: (another ++ escapeExcept plain s)) = none :=
            Text.dropStart?_eq_none_iff.mpr fun start => own
              (eq_of_prefix_reference reference listed ((List.prefix_cons_inj '&').mp start)).symm
          rw [written, List.cons_append, Text.replaceNonempty_of_none differs,
            Text.replaceNonempty_append_of_not_mem (single _ listed), List.cons_append]
        · rw [written]
          exact Text.replaceNonempty_append_of_not_mem (by simpa using Ne.symm other) ..

/-- **Escaping is undone.** -/
theorem unescape_escape (s : Text) : unescape (escape s) = s := by
  have start : escape s = escapeExcept [] s := rfl
  have done : escapeExcept "&\"><".toList s = s := by
    refine Lexicon.flatMap_eq_self fun c _ => ?_
    split
    · rfl
    · rename_i special
      rcases escapeChar_cases c with ⟨name, listed, -⟩ | ⟨-, written⟩
      · have all : ∀ one ∈ references, one.1 ∈ "&\"><".toList := by decide
        exact absurd (all _ listed) special
      · exact written
  have less : (escapeExcept [] s).replace ('&' :: "lt;".toList) ['<'] = escapeExcept ['<'] s :=
    replace_escapeExcept (by decide) (by decide) (by decide) s
  have greater : (escapeExcept ['<'] s).replace ('&' :: "gt;".toList) ['>'] =
      escapeExcept ['>', '<'] s := replace_escapeExcept (by decide) (by decide) (by decide) s
  have quote : (escapeExcept ['>', '<'] s).replace ('&' :: "quot;".toList) ['"'] =
      escapeExcept ['"', '>', '<'] s := replace_escapeExcept (by decide) (by decide) (by decide) s
  have ampersand : (escapeExcept ['"', '>', '<'] s).replace ('&' :: "amp;".toList) ['&'] =
      escapeExcept ['&', '"', '>', '<'] s :=
    replace_escapeExcept (by decide) (by decide) (by decide) s
  calc unescape (escape s)
      = ((((escapeExcept [] s).replace ('&' :: "lt;".toList) ['<']).replace
          ('&' :: "gt;".toList) ['>']).replace ('&' :: "quot;".toList) ['"']).replace
          ('&' :: "amp;".toList) ['&'] := by rw [start]; rfl
    _ = escapeExcept "&\"><".toList s := by rw [less, greater, quote, ampersand]; rfl
    _ = s := done

end Html

/-! ## Destinations -/

/-- **Reading undoes writing.** Escaping for HTML is undone and leaves no character of markup. A
destination is read as the text whose bytes are spelled in it, where the characters that
addresses reserve and those beyond ASCII are escaped; every encoding that escapes these, and
perhaps more, is such a spelling. -/
theorem Link.decode_escape_spelling (s : Text) :
    Html.unescape (Html.escape s) = s ∧
      (∀ c ∈ "<>\"".toList, c ∉ Html.escape s) ∧
      (∀ spelling, Percent.Spells Config.isReserved spelling (Utf8.encode s) →
        decode (Html.escape spelling) = s) ∧
      ∀ reserved : Char → Bool, (∀ c, Config.isReserved c = true → reserved c = true) →
        Percent.Spells Config.isReserved (Percent.encode reserved s) (Utf8.encode s) := by
  refine ⟨Html.unescape_escape s, fun c special => Html.not_mem_escape special s,
    fun spelling spells => ?_, fun reserved reserves => Percent.spells_encode reserves s⟩
  have bare : ¬ ['<'] <+: Html.escape spelling := fun start =>
    Html.not_mem_escape (by decide) spelling (start.subset List.mem_cons_self)
  rw [decode_of_bare bare, reading, Html.unescape_escape, spells.decode_eq (by decide)]

/-- Small and capital digits, and a letter that is escaped beside one that is not. -/
theorem Link.decode_escape_spelling_mixed :
    Percent.Spells Config.isReserved "%c3%B6%26%61b".toList (Utf8.encode "ö&ab".toList) ∧
      decode (Html.escape "%c3%B6%26%61b".toList) = "ö&ab".toList := by
  have letter : Percent.Spells Config.isReserved ['b'] [0x62] :=
    .plain (c := 'b') (by decide) (by decide) .nil
  have spells : Percent.Spells Config.isReserved
      ['%', 'c', '3', '%', 'B', '6', '%', '2', '6', '%', '6', '1', 'b']
      [0xC3, 0xB6, 0x26, 0x61, 0x62] :=
    .escape (h := 0xC) (l := 3) rfl rfl (.escape (h := 0xB) (l := 6) rfl rfl
      (.escape (h := 2) (l := 6) rfl rfl (.escape (h := 6) (l := 1) rfl rfl letter)))
  exact ⟨spells, (decode_escape_spelling "ö&ab".toList).2.2.1 _ spells⟩

end Scriptorium
