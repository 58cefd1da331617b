import Scriptorium.Html.Href
import Scriptorium.Proofs.Anchor
import Scriptorium.Proofs.Html.Attribute
import Scriptorium.Proofs.Text.Utf8
/-! # Rewriting destinations

Rewriting the destinations of HTML rewrites those and nothing else: the destinations of
the new text are what the old ones were changed to (`Html.destinations_mapHrefs`), and a
text none of whose destinations changes stays as it is (`Html.mapHrefs_eq_self_iff`).

Where all destinations are fragments of anchor characters, publishing the links makes
anchors of the fragments (`Html.destinations_publishLinks`).
-/

namespace Scriptorium

/-! ## Plain destinations -/

namespace Text

variable {s old new : Text} {c : Char}

/-- Where its first character is absent nothing is replaced. -/
theorem replace_of_not_mem (absent : c ∉ s) : s.replace (c :: old) new = s := by
  have kept : replaceNonempty (c :: old) new s = s := by
    fun_induction replaceNonempty (c :: old) new s with
    | case1 => rfl
    | case2 d s rest found fits ih =>
      rw [dropStart?_eq_some_iff.mp found] at absent
      exact absurd List.mem_cons_self absent
    | case3 d s rest found long ih => rw [ih (List.not_mem_of_not_mem_cons absent)]
    | case4 d s none ih => rw [ih (List.not_mem_of_not_mem_cons absent)]
  exact kept

end Text

private theorem Percent.decodeBytes_of_not_mem {s : Text} (absent : '%' ∉ s) :
    decodeBytes s = Utf8.encode s := by
  fun_induction decodeBytes s with
  | case1 => rfl
  | case2 => exact absurd List.mem_cons_self absent
  | case3 => exact absurd List.mem_cons_self absent
  | case4 c cs _ ih =>
    rw [ih (List.not_mem_of_not_mem_cons absent)]
    rfl

/-- Where there is no percent sign nothing is decoded. -/
theorem Percent.decode_of_not_mem {s : Text} (absent : '%' ∉ s) : decode s = s := by
  rw [decode, decodeBytes_of_not_mem absent, Utf8.decodeLossy, Utf8.scalars_encode, List.map_map]
  exact List.map_id s

/-- A destination in which nothing is written in another form. -/
theorem Link.decode_eq_self {href : Text} (angle : '<' ∉ href) (reference : '&' ∉ href)
    (percent : '%' ∉ href) : decode href = href := by
  have kept : dropAngles href = href := by
    cases href with
    | nil => rfl
    | cons c href =>
      have other : '<' ≠ c := fun same => angle (same ▸ List.mem_cons_self)
      rw [dropAngles, Text.dropStart?, if_neg other]
      rfl
  have unescaped : Html.unescape href = href := by
    have absent (name new : Text) : href.replace ('&' :: name) new = href :=
      Text.replace_of_not_mem reference
    rw [Html.unescape, show "&lt;".toList = '&' :: "lt;".toList from rfl,
      show "&gt;".toList = '&' :: "gt;".toList from rfl,
      show "&quot;".toList = '&' :: "quot;".toList from rfl,
      show "&amp;".toList = '&' :: "amp;".toList from rfl, absent, absent, absent, absent]
  rw [decode, kept, unescaped, Percent.decode_of_not_mem percent]

private theorem Link.splitAnchor_fragment (fragment : Text) :
    splitAnchor ('#' :: fragment) = ([], some fragment) :=
  rfl

namespace Html

open Attribute

variable {change : Text → Option Text} {html s : Text}

/-- The destinations in HTML, in order. -/
def destinations (html : Text) : List Text :=
  href.values html

/-- What a destination is changed to. -/
def changed (change : Text → Option Text) (destination : Text) : Text :=
  (change destination).getD destination

/-- A link attribute is its lead and its destination in double quotes. -/
theorem hrefText_eq (destination : Text) :
    hrefText destination = href.lead ++ '"' :: (destination ++ ['"']) := by
  unfold hrefText
  rw [List.append_assoc]
  rfl

/-- A destination is read where it is written. -/
theorem scan_href_iff {value rest : Text} :
    href.scan s = some (value, rest) ↔ '"' ∉ value ∧ s = hrefText value ++ rest := by
  rw [scan_eq_some_iff, hrefText_eq, List.append_assoc, List.cons_append, List.append_assoc,
    List.singleton_append]

/-- A link attribute is read as its destination. -/
theorem scan_hrefText {value : Text} (unquoted : '"' ∉ value) (rest : Text) :
    href.scan (hrefText value ++ rest) = some (value, rest) :=
  scan_href_iff.mpr ⟨unquoted, rfl⟩

/-- The destinations of a text are that of the attribute it begins with and those behind it. -/
theorem destinations_hrefText {value : Text} (unquoted : '"' ∉ value) (rest : Text) :
    destinations (hrefText value ++ rest) = value :: destinations rest :=
  values_of_scan (scan_hrefText unquoted rest)

/-- The empty text has no link to change. -/
theorem mapHrefs_nil : mapHrefs change [] = [] :=
  Scanner.replaceAll_nil

/-- A character that no link attribute begins with stays. -/
theorem mapHrefs_of_none {c : Char} {cs : Text} (absent : href.scan (c :: cs) = none) :
    mapHrefs change (c :: cs) = c :: mapHrefs change cs :=
  Scanner.replaceAll_of_none absent

/-- A destination is changed, and so are those behind it. -/
theorem mapHrefs_of_scan {value rest : Text} (read : href.scan s = some (value, rest)) :
    mapHrefs change s = hrefText (changed change value) ++ mapHrefs change rest :=
  Scanner.replaceAll_of_some read (length_lt_of_scan read)

/-- A written destination is changed, and so are those behind it. -/
theorem mapHrefs_hrefText {value : Text} (unquoted : '"' ∉ value) (rest : Text) :
    mapHrefs change (hrefText value ++ rest) =
      hrefText (changed change value) ++ mapHrefs change rest :=
  mapHrefs_of_scan (scan_hrefText unquoted rest)

/-- Induction along the destinations in HTML and the characters between them. -/
@[elab_as_elim]
theorem href_induction {motive : Text → Prop} (nil : motive [])
    (plain : ∀ c cs, href.scan (c :: cs) = none → motive cs → motive (c :: cs))
    (destination : ∀ s value rest, href.scan s = some (value, rest) → motive rest → motive s)
    (s : Text) : motive s := by
  have shorter : ∀ s value rest, href.scan s = some (value, rest) → rest.length < s.length :=
    fun _ _ _ read => length_lt_of_scan read
  induction s using Scanner.match_induction shorter with
  | nil => exact nil
  | plain c cs absent ih => exact plain c cs absent ih
  | found s value rest read _ ih => exact destination s value rest read ih

/-- A text stays when each of its destinations does. -/
theorem mapHrefs_eq_self (same : ∀ destination ∈ destinations html,
    changed change destination = destination) : mapHrefs change html = html := by
  induction html using href_induction with
  | nil => exact mapHrefs_nil
  | plain c cs absent ih =>
    rw [destinations, values_of_none absent] at same
    rw [mapHrefs_of_none absent, ih same]
  | destination s value rest read ih =>
    rw [destinations, values_of_scan read] at same
    obtain ⟨here, later⟩ := List.forall_mem_cons.mp same
    rw [mapHrefs_of_scan read, here, ih later, ← (scan_href_iff.mp read).2]

/-- A text up to a quote is put together by rewriting only where it stood before. -/
theorem prefix_of_prefix_mapHrefs {t : Text} (unquoted : '"' ∉ t)
    (start : t ++ ['"'] <+: mapHrefs change s) : t ++ ['"'] <+: s := by
  induction s using href_induction generalizing t with
  | nil => rwa [mapHrefs_nil] at start
  | plain c cs absent ih =>
    rw [mapHrefs_of_none absent] at start
    cases t with
    | nil => exact List.cons_prefix_cons.mpr ⟨(List.cons_prefix_cons.mp start).1, List.nil_prefix⟩
    | cons d t =>
      obtain ⟨rfl, behind⟩ := List.cons_prefix_cons.mp start
      exact List.cons_prefix_cons.mpr ⟨rfl, ih (List.not_mem_of_not_mem_cons unquoted) behind⟩
  | destination s value rest read ih =>
    obtain ⟨behind, whole⟩ := start
    rw [mapHrefs_of_scan read, hrefText_eq] at whole
    simp only [List.append_assoc, List.cons_append] at whole
    obtain ⟨rfl, -⟩ := eq_of_append_quote unquoted href.unquoted_lead whole
    rw [(scan_eq_some_iff.mp read).2]
    exact ⟨value ++ '"' :: rest, by rw [List.append_assoc]; rfl⟩

/-- A text with fewer than two quotes has no destinations. -/
theorem mapHrefs_of_count_le (few : s.count '"' ≤ 1) : mapHrefs change s = s := by
  induction s using href_induction with
  | nil => exact mapHrefs_nil
  | plain c cs absent ih =>
    rw [mapHrefs_of_none absent, ih (Nat.le_trans (List.count_le_count_cons) few)]
  | destination s value rest read ih =>
    rw [(scan_eq_some_iff.mp read).2] at few
    simp only [List.count_append, List.count_cons_self] at few
    omega

/-- Where no destination starts, none is put together by rewriting behind. -/
theorem scan_mapHrefs_eq_none {c : Char} {cs : Text} (absent : href.scan (c :: cs) = none) :
    href.scan (c :: mapHrefs change cs) = none := by
  cases read : href.scan (c :: mapHrefs change cs) with
  | none => rfl
  | some found =>
    exfalso
    obtain ⟨value, rest⟩ := found
    obtain ⟨-, whole⟩ := scan_eq_some_iff.mp read
    obtain ⟨lead, opens⟩ : ∃ lead, href.lead = c :: lead := by
      cases spelled : href.lead with
      | nil => exact absurd spelled (by decide)
      | cons d lead =>
        rw [spelled] at whole
        exact ⟨lead, by rw [(List.cons_eq_cons.mp whole).1]⟩
    have unquoted : '"' ∉ c :: lead := opens ▸ href.unquoted_lead
    rw [opens] at whole
    have start : lead ++ ['"'] <+: mapHrefs change cs :=
      ⟨value ++ '"' :: rest, by
        rw [(List.cons_eq_cons.mp whole).2, List.append_assoc]
        rfl⟩
    obtain ⟨behind, rfl⟩ :=
      prefix_of_prefix_mapHrefs (List.not_mem_of_not_mem_cons unquoted) start
    by_cases closed : '"' ∈ behind
    · -- The destination was closed before.
      obtain ⟨value, rest, rfl, inside⟩ := List.eq_append_cons_of_mem closed
      have before : href.scan (c :: (lead ++ ['"'] ++ (value ++ '"' :: rest))) =
          some (value, rest) := by
        refine scan_eq_some_iff.mpr ⟨inside, ?_⟩
        rw [opens, List.append_assoc]
        rfl
      rw [before] at absent
      cases absent
    · have few : (lead ++ ['"'] ++ behind).count '"' ≤ 1 := by
        simp only [List.count_append, List.count_eq_zero.mpr closed,
          List.count_eq_zero.mpr (List.not_mem_of_not_mem_cons unquoted)]
        decide
      rw [mapHrefs_of_count_le few, absent] at read
      cases read

/-- **The destinations of the new text** are what the old ones were changed to. -/
theorem destinations_mapHrefs
    (unquoted : ∀ destination ∈ destinations html, '"' ∉ changed change destination) :
    destinations (mapHrefs change html) = (destinations html).map (changed change) := by
  unfold destinations at unquoted ⊢
  induction html using href_induction with
  | nil => rw [mapHrefs_nil, values_nil, List.map_nil]
  | plain c cs absent ih =>
    rw [values_of_none absent] at unquoted
    rw [mapHrefs_of_none absent, values_of_none (scan_mapHrefs_eq_none absent), ih unquoted,
      values_of_none absent]
  | destination s value rest read ih =>
    rw [values_of_scan read, List.forall_mem_cons] at unquoted
    rw [mapHrefs_of_scan read, values_of_scan (scan_hrefText unquoted.1 _), ih unquoted.2,
      values_of_scan read, List.map_cons]

/-- A text stays exactly when none of its destinations changes. -/
theorem mapHrefs_eq_self_iff
    (unquoted : ∀ destination ∈ destinations html, '"' ∉ changed change destination) :
    mapHrefs change html = html ↔
      ∀ destination ∈ destinations html, changed change destination = destination := by
  constructor
  · intro same
    have kept := destinations_mapHrefs unquoted
    rw [same] at kept
    exact List.map_inj_left.mp (kept.symm.trans (List.map_id _).symm)
  · exact mapHrefs_eq_self

/-! ## Fragments -/

/-- A destination on the same page, by characters that anchors keep. -/
def IsFragment (destination : Text) : Prop :=
  ∃ t, destination = '#' :: t ∧ ∀ c ∈ t, Anchor.isAnchorChar c = true

variable {t : Text}

/-- A character that stands in no anchor does not stand in a text of characters of anchors. -/
theorem not_mem_of_isAnchorChar {c : Char} (allowed : ∀ c ∈ t, Anchor.isAnchorChar c = true)
    (other : Anchor.isAnchorChar c = false) : c ∉ t := by
  intro member
  rw [allowed c member] at other
  cases other

/-- In a text of characters of anchors nothing is decoded. -/
theorem decode_of_isAnchorChar (allowed : ∀ c ∈ t, Anchor.isAnchorChar c = true) :
    Link.decode t = t :=
  Link.decode_eq_self (not_mem_of_isAnchorChar allowed (by decide))
    (not_mem_of_isAnchorChar allowed (by decide)) (not_mem_of_isAnchorChar allowed (by decide))

/-- A link to a fragment leads to no document. -/
theorem changed_documentHref? (allowed : ∀ c ∈ t, Anchor.isAnchorChar c = true) :
    changed documentHref? ('#' :: t) = '#' :: t := by
  have kept : Link.decode ('#' :: t) = '#' :: t := by
    have foreign (c : Char) (other : Anchor.isAnchorChar c = false) (mark : '#' ≠ c) :
        c ∉ '#' :: t :=
      List.not_mem_cons_of_ne_of_not_mem mark.symm (not_mem_of_isAnchorChar allowed other)
    exact Link.decode_eq_self (foreign '<' (by decide) (by decide))
      (foreign '&' (by decide) (by decide)) (foreign '%' (by decide) (by decide))
  have other : isMarkdownTarget ('#' :: t) = false := rfl
  simp only [changed, documentHref?, kept, other, Bool.not_false, Bool.or_true, ↓reduceIte,
    Option.getD_none]

/-- The fragment of a link is made an anchor. -/
theorem changed_fragmentHref? (allowed : ∀ c ∈ t, Anchor.isAnchorChar c = true) :
    changed fragmentHref? ('#' :: t) = '#' :: Anchor.ofText t := by
  have noScheme : hasScheme ('#' :: t) = false := rfl
  have noHost : Text.startsWith ('#' :: t) "//".toList = false := rfl
  simp only [changed, fragmentHref?, noScheme, noHost, Bool.or_false, Bool.false_eq_true,
    ↓reduceIte, Link.splitAnchor_fragment, decode_of_isAnchorChar allowed, List.nil_append,
    Option.getD_some]

/-- A link to a fragment gets no extension. -/
theorem changed_extensionHref? (t : Text) : changed extensionHref? ('#' :: t) = '#' :: t := by
  have complete : Link.needsHtmlExtension ('#' :: t) = false := by
    simp [Link.needsHtmlExtension]
  simp only [changed, extensionHref?, complete, Bool.false_eq_true, ↓reduceIte, Option.getD_none]

private theorem unquoted_changed_fragmentHref?
    (fragments : ∀ destination ∈ destinations html, IsFragment destination) :
    ∀ destination ∈ destinations html, '"' ∉ changed fragmentHref? destination := by
  intro destination member
  obtain ⟨t, rfl, allowed⟩ := fragments destination member
  rw [changed_fragmentHref? allowed]
  exact List.not_mem_cons_of_ne_of_not_mem (by decide)
    (not_mem_of_isAnchorChar (fun c => Anchor.isAnchorChar_of_mem_ofText) (by decide))

/-- Where all destinations are fragments, publishing the links makes anchors of them. -/
theorem publishLinks_eq_anchorFragments
    (fragments : ∀ destination ∈ destinations html, IsFragment destination) :
    publishLinks html = anchorFragments html := by
  have documents : publishDocuments html = html := by
    apply mapHrefs_eq_self
    intro destination member
    obtain ⟨t, rfl, allowed⟩ := fragments destination member
    exact changed_documentHref? allowed
  rw [publishLinks, documents]
  apply mapHrefs_eq_self
  rw [anchorFragments, destinations_mapHrefs (unquoted_changed_fragmentHref? fragments)]
  intro destination member
  obtain ⟨old, held, rfl⟩ := List.mem_map.mp member
  obtain ⟨t, rfl, allowed⟩ := fragments old held
  rw [changed_fragmentHref? allowed]
  exact changed_extensionHref? _

/-- Where all links lead to fragments, publishing makes anchors of these. -/
theorem destinations_publishLinks
    (fragments : ∀ destination ∈ destinations html, IsFragment destination) :
    destinations (publishLinks html) =
      (destinations html).map fun destination => '#' :: Anchor.ofText destination.tail := by
  rw [publishLinks_eq_anchorFragments fragments, anchorFragments,
    destinations_mapHrefs (unquoted_changed_fragmentHref? fragments)]
  apply List.map_congr_left
  intro destination member
  obtain ⟨t, rfl, allowed⟩ := fragments destination member
  exact changed_fragmentHref? allowed

/-- **Published fragments.** Where all destinations are fragments, publishing the links
leaves the text alone exactly when each of them is an anchor already. -/
theorem publishLinks_eq_self_iff
    (fragments : ∀ destination ∈ destinations html, IsFragment destination) :
    publishLinks html = html ↔
      ∀ t, '#' :: t ∈ destinations html → Text.squeeze isHyphen '-' t = t := by
  rw [publishLinks_eq_anchorFragments fragments, anchorFragments,
    mapHrefs_eq_self_iff (unquoted_changed_fragmentHref? fragments)]
  constructor
  · intro kept t member
    obtain ⟨_, same, allowed⟩ := fragments _ member
    cases same
    have anchor := kept _ member
    rw [changed_fragmentHref? allowed, Anchor.ofText_of_isAnchorChar allowed] at anchor
    exact (List.cons_eq_cons.mp anchor).2
  · intro kept destination member
    obtain ⟨t, rfl, allowed⟩ := fragments destination member
    rw [changed_fragmentHref? allowed, Anchor.ofText_of_isAnchorChar allowed, kept t member]

end Html

end Scriptorium
