import Scriptorium.Proofs.Html.Href
import Scriptorium.Proofs.Link.Document
/-! # Destinations that are documents

A destination is a document of the site when its reading is one (`Html.IsDocument`). Its
page is never the destination itself (`Html.ne_of_documentHref?`): the page of a document
ends like a page, and so does what is read there. The page does not count as a document in
turn, unless a number sign is escaped in it (`Html.documentHref?_of_page`).
-/

namespace Scriptorium

namespace Link

variable {c : Char} {s path anchor : Text}

/-- A text that ends with no angle bracket stands in no brackets. -/
theorem dropAngles_eq_self (last : s.getLast? ≠ some '>') : dropAngles s = s := by
  have kept {rest : Text} (inner : Text.dropStart? ['<'] s = some rest) :
      Text.dropEnd? ['>'] rest = none := by
    cases closed : Text.dropEnd? ['>'] rest with
    | none => rfl
    | some middle =>
      refine absurd ?_ last
      rw [Text.dropStart?_eq_some_iff.mp inner, Text.eq_of_dropEnd?_eq_some closed,
        ← List.append_assoc, List.getLast?_concat]
  unfold dropAngles
  cases inner : Text.dropStart? ['<'] s with
  | none => rfl
  | some rest =>
    rw [Option.bind_some, kept inner]
    rfl

/-- The end of a page is decoded as it is read. -/
theorem PageEnd.decode (ends : PageEnd path) : Link.decode path = Link.reading path := by
  rw [decode_eq_reading, dropAngles_eq_self (ends.getLast?_ne (by decide))]

/-- A destination with an anchor is read up to the anchor. -/
theorem decode_append_anchor (allowed : ∀ c ∈ anchor, Anchor.isAnchorChar c = true)
    (path : Text) : decode (path ++ '#' :: anchor) = reading path ++ '#' :: anchor := by
  have last : (path ++ '#' :: anchor).getLast? ≠ some '>' := by
    rw [List.getLast?_append, List.getLast?_cons, Option.some_or]
    intro angle
    have held : '>' ∈ '#' :: anchor := List.mem_of_getLast? (by rw [List.getLast?_cons, angle])
    exact absurd (List.mem_of_ne_of_mem (by decide) held)
      (Html.not_mem_of_isAnchorChar allowed (by decide))
  rw [decode_eq_reading, dropAngles_eq_self last, reading_append_cons (by decide),
    reading_eq_self (Html.not_mem_of_isAnchorChar allowed (by decide))
      (Html.not_mem_of_isAnchorChar allowed (by decide))]

/-- The anchor of a text consists of characters of anchors. -/
theorem isAnchorChar_ofText (s : Text) : ∀ c ∈ Anchor.ofText s, Anchor.isAnchorChar c = true :=
  fun _ => Anchor.isAnchorChar_of_mem_ofText

end Link

namespace Html

open Link (pagePath PageEnd)

variable {href page stem path anchor target : Text}

/-- A destination, as it was written, that is a document of the site. -/
structure IsDocument (target : Text) : Prop where
  on_site : ¬ "//".toList <+: target
  no_scheme : ':' ∉ target
  markdown : isMarkdownTarget target = true

/-- A destination leads to a document when it is one, and to the page of that document. -/
theorem documentHref?_eq_some_iff :
    documentHref? href = some page ↔
      IsDocument (Link.decode href) ∧ Link.publish (Link.decode href) = page := by
  unfold documentHref?
  dsimp only
  generalize Link.decode href = target
  constructor
  · intro leads
    split at leads
    · cases leads
    · rename_i onSite
      simp only [Bool.or_eq_true, not_or, Text.startsWith, List.isPrefixOf_iff_prefix,
        List.contains_iff_mem, Bool.not_eq_true', Bool.not_eq_false] at onSite
      exact ⟨⟨onSite.1.1, onSite.1.2, onSite.2⟩, Option.some.inj leads⟩
  · rintro ⟨⟨onSite, noScheme, markdown⟩, rfl⟩
    rw [if_neg]
    simp only [Bool.or_eq_true, not_or, Text.startsWith, List.isPrefixOf_iff_prefix,
      List.contains_iff_mem, Bool.not_eq_true', Bool.not_eq_false]
    exact ⟨⟨onSite, noScheme⟩, markdown⟩

/-- A destination leads nowhere exactly when it is no document. -/
theorem documentHref?_eq_none_iff :
    documentHref? href = none ↔ ¬ IsDocument (Link.decode href) := by
  constructor
  · intro none document
    rw [documentHref?_eq_some_iff.mpr ⟨document, rfl⟩] at none
    cases none
  · intro other
    cases leads : documentHref? href with
    | none => rfl
    | some page => exact absurd (documentHref?_eq_some_iff.mp leads).1 other

/-- A path without an anchor is a document when it ends like one. -/
theorem isMarkdownTarget_of_not_mem (absent : '#' ∉ path) :
    isMarkdownTarget path = path.endsWith ".md".toList := by
  rw [isMarkdownTarget, Link.splitAnchor_of_not_mem absent]
  exact Bool.and_true _

/-- A destination with an anchor is a document when its path ends like one, and its anchor has no
line feed. -/
theorem isMarkdownTarget_append_cons (absent : '#' ∉ path) (anchor : Text) :
    isMarkdownTarget (path ++ '#' :: anchor) =
      (path.endsWith ".md".toList && !anchor.contains '\n') := by
  rw [isMarkdownTarget, Link.splitAnchor_append_cons absent]
  rfl

/-- Whether a destination with a number sign is a document is told by what stands before it,
new lines apart. -/
theorem isMarkdownTarget_append (front back : Text) :
    isMarkdownTarget (front ++ '#' :: back) =
      (isMarkdownTarget (front ++ ['#']) && !back.contains '\n') := by
  rcases Link.splitAnchor_cases front with absent | ⟨path, anchor, absent, rfl⟩
  · rw [isMarkdownTarget_append_cons absent, isMarkdownTarget_append_cons absent]
    exact congrArg (· && _) (Bool.and_true _).symm
  · rw [List.append_assoc, List.append_assoc, List.cons_append, List.cons_append,
      isMarkdownTarget_append_cons absent, isMarkdownTarget_append_cons absent]
    simp only [List.contains_eq_mem, List.mem_append, List.mem_cons, List.not_mem_nil, or_false]
    simp [Bool.and_assoc]

/-- A document with its page, and the anchors of both. -/
theorem documentHref?_cases (leads : documentHref? href = some page) :
    ∃ stem, '#' ∉ stem ∧
      (Link.decode href = stem ++ ".md".toList ∧ page = pagePath stem ∨
        ∃ anchor, Link.decode href = stem ++ ".md".toList ++ '#' :: anchor ∧
          page = pagePath stem ++ '#' :: Anchor.ofText anchor) := by
  obtain ⟨document, rfl⟩ := documentHref?_eq_some_iff.mp leads
  have ends := (Bool.and_eq_true_iff.mp document.markdown).1
  obtain ⟨stem, absent, whole | ⟨anchor, whole⟩⟩ := Link.document_cases ends
  · exact ⟨stem, absent, .inl ⟨whole, by rw [whole, Link.publish_document absent]⟩⟩
  · exact ⟨stem, absent, .inr ⟨anchor, whole,
      by rw [whole, Link.publish_document_anchor absent]⟩⟩

/-- **A document's page is another destination.** Reading the page again would take a
percent sign more than the document has. -/
theorem ne_of_documentHref? (leads : documentHref? href = some page) : href ≠ page := by
  rintro rfl
  obtain ⟨stem, absent, ⟨whole, same⟩ | ⟨anchor, whole, same⟩⟩ := documentHref?_cases leads
  · have ends := Link.pageEnd_pagePath stem
    rw [same, ends.decode] at whole
    exact ends.reading.not_suffix ⟨stem, whole.symm⟩
  · have ends := Link.pageEnd_pagePath stem
    rw [same, Link.decode_append_anchor (Link.isAnchorChar_ofText anchor)] at whole
    have written : '#' ∉ stem ++ ".md".toList := List.not_mem_append absent (by decide)
    rcases Link.splitAnchor_cases (Link.reading (pagePath stem)) with
      read | ⟨path, behind, read, parts⟩
    · exact ends.reading.not_suffix
        ⟨stem, (Text.append_inj_of_not_mem read written whole).1.symm⟩
    · have more := Link.signs_reading_le (pagePath stem)
      rw [parts, List.append_assoc, List.cons_append] at whole
      have front := (Text.append_inj_of_not_mem read written whole).1
      have kept := Link.count_pagePath_le (c := '%') (by decide) (by decide) (by decide) (by decide)
        stem
      have none := List.count_eq_zero.mpr (Link.not_sign_pagePath absent)
      rw [parts, front] at more
      simp only [Percent.signs, List.count_append, List.count_cons_self, none] at more
      omega

end Html

end Scriptorium
