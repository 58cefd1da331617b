import Scriptorium.Proofs.Latex.Delimiter
import Scriptorium.Proofs.Latex.DocumentLink
import Scriptorium.Proofs.Latex.Escape
import Scriptorium.Proofs.Latex.Written
/-! # Running text writes no delimiters

Where a text holds no backslash, and neither does the path of a document that one of its
links leads to, what is written for it holds no delimiter of an environment
(`Latex.quiet_inline`). The condition on links is one of its own, for a backslash may be
written in a destination without standing there (`Latex.LeadsPlain`).
-/

namespace Scriptorium.Latex

variable {config : Config} {s href target path url : Text} {c : Char}

/-! ## Escaping -/

/-- What is written for a character writes no delimiter. -/
theorem quiet_escapeChar (c : Char) : Quiet (escapeChar c) := by
  have signs : ("\x7b\x7d$&#_%".toList.all fun c => Delimiter.leads.all fun start =>
      !start.isPrefixOf ('\\' :: [c]) && !('\\' :: [c]).isPrefixOf start) = true := by decide
  unfold escapeChar
  split
  · exact (Quiet.command (by decide) (by decide) .nil : Quiet (command "textbackslash".toList []))
  · split
    · exact (Quiet.command (by decide) (by decide) .nil :
        Quiet (command "textasciitilde".toList []))
    · split
      · exact (Quiet.command (by decide) (by decide) .nil :
          Quiet (command "textasciicircum".toList []))
      · split
        · rename_i backslash _ _ sign
          exact Quiet.ofLead (fun held => backslash (List.mem_singleton.mp held).symm)
            (List.all_eq_true.mp signs c (List.contains_iff_mem.mp sign))
        · rename_i backslash _ _ _
          exact Quiet.of_not_mem (by simpa using Ne.symm backslash)

private theorem quiet_escapeLine {line : Text} (plain : '\\' ∉ line) : Quiet (escapeLine line) := by
  unfold escapeLine
  split
  · exact .of_not_mem plain
  · exact .flatMap fun c _ => quiet_escapeChar c

/-- An escaped text writes no delimiter. -/
theorem quiet_escape (plain : '\\' ∉ s) : Quiet (escape s) := by
  rw [escape_eq_join plain]
  refine .join (.of_not_mem (by decide)) fun line member => ?_
  obtain ⟨source, part, rfl⟩ := List.mem_map.mp member
  exact quiet_escapeLine fun inside => plain ((Text.infix_of_mem_splitOn part).subset inside)

/-- A destination without backslashes is escaped without delimiters. -/
theorem quiet_escapeUrl (plain : '\\' ∉ url) : Quiet (escapeUrl url) := by
  refine .flatMap fun c member => ?_
  unfold escapeUrlChar
  split
  · rename_i sign
    simp only [Bool.or_eq_true, decide_eq_true_eq] at sign
    rcases sign with rfl | rfl <;> exact Quiet.ofLead (by decide) (by decide)
  · refine .of_not_mem fun inside => plain ?_
    rwa [List.mem_singleton.mp inside]

/-! ## Destinations -/

/-- The path of a document holds no backslash, when a destination is read as it is
published. -/
def LeadsPlain (href : Text) : Prop :=
  isDocumentLink (Link.decode (Link.dropAngles href)) = true →
    '\\' ∉ (Link.splitAnchor (Link.decode (Link.dropAngles href))).1

instance : DecidablePred LeadsPlain :=
  fun _ => inferInstanceAs (Decidable (isDocumentLink (Link.decode _) = true → _))

/-- Publishing a document without backslashes brings none about. -/
theorem not_backslash_publish (document : isDocumentLink target = true)
    (plain : '\\' ∉ (Link.splitAnchor target).1) : '\\' ∉ Link.publish target := by
  have page : ∀ stem : Text, '\\' ∉ stem ++ ".md".toList → '\\' ∉ Link.pagePath stem := by
    intro stem plain
    have counts := Link.count_pagePath_le (c := '\\') (by decide) (by decide) (by decide)
      (by decide) stem
    rw [List.count_eq_zero.mpr fun held => plain (List.mem_append_left _ held)] at counts
    exact List.count_eq_zero.mp (Nat.le_zero.mp counts)
  obtain ⟨stem, absent, rfl | ⟨anchor, rfl⟩⟩ :=
    Link.document_cases (isDocumentLink_iff.mp document).1
  all_goals have path : '#' ∉ stem ++ ".md".toList := List.not_mem_append absent (by decide)
  · rw [Link.splitAnchor_of_not_mem path] at plain
    rw [Link.publish_document absent]
    exact page stem plain
  · rw [Link.splitAnchor_append_cons path] at plain
    rw [Link.publish_document_anchor absent]
    refine List.not_mem_append (page stem plain)
      (List.not_mem_cons_of_ne_of_not_mem (by decide) fun held => ?_)
    exact absurd (Anchor.isAnchorChar_of_mem_ofText held) (by decide)

private theorem not_mem_join_segments {parts : List Text} (within : parts ⊆ path.splitOn '/')
    (other : c ≠ '/') (plain : c ∉ path) : c ∉ Text.join ['/'] parts := by
  refine Text.not_mem_join (by simpa using other) fun part member held => ?_
  exact plain ((Text.infix_of_mem_splitOn (within member)).subset held)

private theorem not_backslash_siteAddress (site : '\\' ∉ config.siteBaseUrl) (plain : '\\' ∉ path) :
    '\\' ∉ siteAddress config path := by
  refine List.not_mem_append (fun held => site ((Text.prefix_dropEndWhile _ _).subset held))
    (List.not_mem_cons_of_ne_of_not_mem (by decide) ?_)
  refine not_mem_join_segments (List.dropWhile_suffix _).subset (by decide) fun held => plain ?_
  exact (List.dropWhile_suffix _).subset held

private theorem not_backslash_pageTarget (site : '\\' ∉ config.siteBaseUrl) (plain : '\\' ∉ path) :
    '\\' ∉ (pageTarget config path).2 := by
  unfold pageTarget
  split
  · refine List.not_mem_cons_of_ne_of_not_mem (by decide) ?_
    exact not_mem_join_segments (List.drop_suffix _ _).subset (by decide) plain
  · split
    · rename_i below here
      rw [Text.dropStart?_eq_some_iff.mp here] at plain
      exact List.not_mem_cons_of_ne_of_not_mem (by decide)
        fun held => plain (List.mem_append_right _ held)
    · exact not_backslash_siteAddress site plain

/-- The destination that is written for a link holds no backslash. -/
theorem not_backslash_linkTarget (site : '\\' ∉ config.siteBaseUrl) (plain : '\\' ∉ href)
    (leads : LeadsPlain href) : '\\' ∉ (linkTarget config href).2 := by
  by_cases document : isDocumentLink (Link.decode (Link.dropAngles href)) = true
  · rw [linkTarget_of_document document]
    exact not_backslash_pageTarget site (not_backslash_publish document (leads document))
  · rw [linkTarget, Bool.eq_false_iff.mpr document]
    intro held
    rcases Link.dropAngles_cases href with same | ⟨inner, whole, same⟩
    · exact plain (same ▸ held)
    · rw [whole] at plain
      refine plain (List.mem_cons_of_mem _ (List.mem_append_left _ ?_))
      exact same ▸ held

/-- The address of a destination has no backslash that neither of its two parts has. -/
theorem not_backslash_absoluteUrl (site : '\\' ∉ config.siteBaseUrl) (plain : '\\' ∉ target) :
    '\\' ∉ absoluteUrl config target := by
  unfold absoluteUrl
  split
  · rename_i document
    refine not_backslash_siteAddress site (not_backslash_publish document fun held => plain ?_)
    rcases Link.splitAnchor_cases target with absent | ⟨path, anchor, absent, rfl⟩
    · rwa [Link.splitAnchor_of_not_mem absent] at held
    · rw [Link.splitAnchor_append_cons absent] at held
      exact List.mem_append_left _ held
  · exact plain

/-! ## Running text -/

/-- What a link writes around its text. -/
theorem Quiet.linkCommand (name : LinkName) {destination text : Text}
    (target : Quiet destination) (inside : Quiet text) :
    Quiet (Latex.linkCommand name.text destination text) := by
  have lead : Quiet (Latex.command name.text.toList destination) := by
    cases name <;> exact Quiet.command (by decide) (by decide) target
  exact (lead.append (inside.cons (by decide))).append (.of_not_mem (by decide))

/-- A span is set without delimiters when what it holds is, wherever it leads. -/
theorem quiet_renderSpan (site : '\\' ∉ config.siteBaseUrl) {span : Span} {inside : Text}
    (targets : ∀ href ∈ span.destinations, '\\' ∉ href ∧ LeadsPlain href)
    (quiet : Quiet inside) : Quiet (renderSpan config span inside) := by
  cases span with
  | code text => exact Quiet.command (by decide) (by decide) quiet
  | bold text => exact Quiet.command (by decide) (by decide) quiet
  | italic text => exact Quiet.command (by decide) (by decide) quiet
  | link text href =>
    obtain ⟨plain, leads⟩ := targets href List.mem_cons_self
    have tail : Quiet (linkTarget config href).1.tail := by
      cases (linkTarget config href).1 with
      | href => exact (Quiet.ofLead (by decide) (by decide) : Quiet ('\\' :: "xspace".toList))
      | lib => exact .nil
    rw [renderSpan, renderLink_eq]
    exact (Quiet.linkCommand _ (quiet_escapeUrl (not_backslash_linkTarget site plain leads))
      quiet).append tail

/-- **Running text is quiet** when its fragments and destinations hold no backslash, and
no document that a link leads to. -/
theorem Running.quiet_render (site : '\\' ∉ config.siteBaseUrl) {running : Running}
    (plain : ∀ fragment ∈ running.fragments, '\\' ∉ fragment)
    (targets : ∀ href ∈ running.destinations, '\\' ∉ href ∧ LeadsPlain href) :
    Quiet (running.render config) := by
  induction running with
  | plain stretch => exact quiet_escape (plain stretch List.mem_cons_self)
  | code before inside behind ih =>
    simp only [fragments, List.forall_mem_cons] at plain
    obtain ⟨first, within, later⟩ := plain
    exact ((quiet_escape first).append
      (quiet_renderSpan site (List.forall_mem_nil _) (quiet_escape within))).append
        (ih later targets)
  | marked before span inside behind inner ih =>
    simp only [fragments, List.forall_mem_append, List.forall_mem_cons] at plain
    simp only [destinations, List.forall_mem_append] at targets
    obtain ⟨⟨first, within⟩, later⟩ := plain
    obtain ⟨⟨own, deeper⟩, further⟩ := targets
    exact ((quiet_escape first).append (quiet_renderSpan site own (inner within deeper))).append
      (ih later further)

/-- The destination of a link stands in the source. -/
theorem Running.infix_of_mem_destinations {running : Running} (faithful : running.Faithful)
    (member : href ∈ running.destinations) : href <:+: running.source := by
  induction running with
  | plain stretch => cases member
  | code before inside behind ih =>
    exact (ih faithful member).trans (List.suffix_append _ _).isInfix
  | marked before span inside behind inner ih =>
    obtain ⟨same, within, faithful⟩ := faithful
    have source : span.source <:+: (marked before span inside behind).source :=
      List.infix_append before span.source behind.source
    simp only [destinations, List.mem_append] at member
    rcases member with (own | deeper) | later
    · refine List.IsInfix.trans ?_ source
      cases span with
      | code | bold | italic => cases own
      | link text destination =>
        rw [List.mem_singleton.mp own]
        exact ⟨'[' :: text ++ [']', '('], [')'], by simp [Span.source]⟩
    · exact (inner within deeper).trans (same ▸ (inner_infix_source span).trans source)
    · exact (ih faithful later).trans (List.suffix_append _ _).isInfix

/-- Running text without backslashes is set without delimiters, wherever its links lead. -/
theorem quiet_inline (site : '\\' ∉ config.siteBaseUrl) (plain : '\\' ∉ s)
    (targets : ∀ href ∈ (contents s).destinations, LeadsPlain href) :
    Quiet (inline config s) := by
  rw [inline_eq_render]
  refine Running.quiet_render site (fun fragment member held => ?_) fun href member => ?_
  · exact plain ((infix_of_mem_fragments member).subset held)
  · refine ⟨fun held => plain ?_, targets href member⟩
    have within := Running.infix_of_mem_destinations (faithful_read s) member
    rw [source_read] at within
    exact within.subset held

end Scriptorium.Latex
