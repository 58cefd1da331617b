import Scriptorium.Latex.Span
import Scriptorium.Proofs.Text.Scan
/-! # Running text as a tree

Running text is read as stretches of plain text and the spans between them, and the
inside of a span is running text again (`Latex.Running`). What is written for it is the
tree written out (`Latex.inline_eq_render`), and what the tree was read from is its source
(`Latex.source_read`). The texts that are escaped one by one are the fragments of the tree
(`Latex.Running.fragments`). Each of them stands in the source
(`Latex.infix_of_mem_fragments`).
-/

namespace Scriptorium.Latex

/-- Plain text, and behind it perhaps a span and more running text. -/
inductive Running where
  | plain (stretch : Text)
  /-- Code, inside of which there are no spans. -/
  | code (before inside : Text) (behind : Running)
  | marked (before : Text) (span : Span) (inside behind : Running)

/-! ## Reading -/

/-- A span as it was written. -/
def Span.source : Span → Text
  | .code text => '\x60' :: text ++ ['\x60']
  | .bold text => '*' :: '*' :: text ++ ['*', '*']
  | .italic text => '*' :: text ++ ['*']
  | .link text destination => '[' :: text ++ ']' :: '(' :: destination ++ [')']

variable {s text rest destination : Text} {mark : Char} {span : Span}

private theorem eq_of_between?_eq_some (read : between? mark s = some (text, rest)) :
    s = mark :: text ++ [mark] ++ rest := by
  simp only [between?, Option.bind_eq_bind, Option.bind_eq_some_iff, Prod.exists] at read
  obtain ⟨_, behind, opened, found, after, inside, _, others, closed, same⟩ := read
  cases same
  rw [Scanner.literal_eq_some_iff.mp opened, (Scanner.eq_of_run_eq_some inside).1,
    Scanner.literal_eq_some_iff.mp closed]
  simp only [List.append_assoc, List.cons_append, List.nil_append]

private theorem eq_of_bold?_eq_some (read : bold? s = some (text, rest)) :
    s = '*' :: '*' :: text ++ ['*', '*'] ++ rest := by
  unfold bold? at read
  split at read
  · simp only [Option.bind_eq_bind, Option.bind_eq_some_iff, Prod.exists] at read
    obtain ⟨found, behind, cut, read⟩ := read
    split at read
    · cases read
    · cases read
      rw [Text.eq_of_cut?_eq_some cut]
      simp only [List.cons_append, List.append_assoc]
  · cases read

private theorem eq_of_link?_eq_some (read : link? s = some ((text, destination), rest)) :
    s = '[' :: text ++ ']' :: '(' :: destination ++ [')'] ++ rest := by
  simp only [link?, Option.bind_eq_bind, Option.bind_eq_some_iff, Prod.exists] at read
  obtain ⟨_, _, opened, _, _, inside, _, _, middle, _, _, target, _, _, closed, same⟩ := read
  cases same
  rw [Scanner.literal_eq_some_iff.mp opened, (Scanner.eq_of_run_eq_some inside).1,
    Scanner.literal_eq_some_iff.mp middle, (Scanner.eq_of_run_eq_some target).1,
    Scanner.literal_eq_some_iff.mp closed]
  simp only [List.append_assoc, List.cons_append, List.nil_append]

/-- A span stands at the start of the text that it is read from. -/
theorem eq_of_span?_eq_some (read : span? s = some (span, rest)) : s = span.source ++ rest := by
  unfold span? at read
  split at read
  · rename_i found
    cases read
    exact eq_of_between?_eq_some found
  · split at read
    · rename_i found
      cases read
      exact eq_of_bold?_eq_some found
    · split at read
      · rename_i found
        cases read
        exact eq_of_between?_eq_some found
      · simp only [Option.map_eq_some_iff, Prod.exists] at read
        obtain ⟨text, destination, after, found, same⟩ := read
        cases same
        exact eq_of_link?_eq_some found

/-- Running text behind plain characters, which are given in reverse. -/
def readAfter (plain : Text) (s : Text) : Running :=
  match s with
  | [] => .plain plain.reverse
  | c :: cs =>
    match _read : span? (c :: cs) with
    | none => readAfter (c :: plain) cs
    | some (span, rest) =>
      if span.isCode then .code plain.reverse span.inner (readAfter [] rest)
      else .marked plain.reverse span (readAfter [] span.inner) (readAfter [] rest)
termination_by s.length
decreasing_by
  · simp
  · exact (length_span? _read).2
  · exact (length_span? _read).1
  · exact (length_span? _read).2

/-- A text as running text. -/
def read (s : Text) : Running :=
  readAfter [] s

namespace Running

/-- Running text as LaTeX. -/
def render (config : Config) : Running → Text
  | .plain stretch => escape stretch
  | .code before inside behind =>
    escape before ++ renderSpan config (.code inside) (escape inside) ++ render config behind
  | .marked before span inside behind =>
    escape before ++ renderSpan config span (render config inside) ++ render config behind

/-- Running text as it was written. -/
def source : Running → Text
  | .plain stretch => stretch
  | .code before inside behind => before ++ Span.source (.code inside) ++ source behind
  | .marked before span _ behind => before ++ span.source ++ source behind

/-- The texts that are escaped, each on its own: what stands between spans, at any depth,
and what stands in code. -/
def fragments : Running → List Text
  | .plain stretch => [stretch]
  | .code before inside behind => before :: inside :: fragments behind
  | .marked before _ inside behind => before :: fragments inside ++ fragments behind

/-- Whether the insides of spans are what the spans hold. -/
def Faithful : Running → Prop
  | .plain _ => True
  | .code _ _ behind => Faithful behind
  | .marked _ span inside behind => span.inner = source inside ∧ Faithful inside ∧ Faithful behind

end Running

/-- Setting running text is setting what is read from it. -/
theorem inlineAfter_eq_render (config : Config) (plain s : Text) :
    inlineAfter config plain s = (readAfter plain s).render config := by
  fun_induction readAfter plain s with
  | case1 plain => rw [inlineAfter, Running.render]
  | case2 plain c cs absent ih =>
    rw [inlineAfter]
    split
    · exact ih
    · rename_i found
      rw [absent] at found
      cases found
  | case3 plain c cs span rest found isCode ih =>
    rw [inlineAfter]
    split
    · rename_i absent
      rw [found] at absent
      cases absent
    · rename_i again
      rw [found] at again
      cases again
      cases span with
      | code inside => rw [if_pos isCode, ih]; rfl
      | bold | italic | link => cases isCode
  | case4 plain c cs span rest found notCode inner ih =>
    rw [inlineAfter]
    split
    · rename_i absent
      rw [found] at absent
      cases absent
    · rename_i again
      rw [found] at again
      cases again
      rw [if_neg notCode, inner, ih]
      rfl

/-- What is written for running text is its tree written out. -/
theorem inline_eq_render (config : Config) (s : Text) : inline config s = (read s).render config :=
  inlineAfter_eq_render config [] s

/-- What is read from running text is that text, and its parts are faithful. -/
theorem source_readAfter (plain s : Text) :
    (readAfter plain s).source = plain.reverse ++ s ∧ (readAfter plain s).Faithful := by
  fun_induction readAfter plain s with
  | case1 plain => exact ⟨(List.append_nil _).symm, trivial⟩
  | case2 plain c cs absent ih =>
    rw [ih.1, List.reverse_cons, List.append_assoc, List.singleton_append]
    exact ⟨rfl, ih.2⟩
  | case3 plain c cs span rest found isCode ih =>
    cases span with
    | code inside =>
      rw [eq_of_span?_eq_some found]
      refine ⟨?_, ih.2⟩
      rw [Running.source, ih.1, List.reverse_nil, List.nil_append, List.append_assoc]
      rfl
    | bold | italic | link => cases isCode
  | case4 plain c cs span rest found notCode inner ih =>
    rw [eq_of_span?_eq_some found]
    refine ⟨?_, ?_, inner.2, ih.2⟩
    · rw [Running.source, ih.1, List.reverse_nil, List.nil_append, List.append_assoc]
    · exact inner.1.symm

/-- Running text is read from its source. -/
theorem source_read (s : Text) : (read s).source = s :=
  (source_readAfter [] s).1

/-- Running text is read as it is written. -/
theorem faithful_read (s : Text) : (read s).Faithful :=
  (source_readAfter [] s).2

/-- What a span holds is part of how it is written. -/
theorem inner_infix_source (span : Span) : span.inner <:+: span.source := by
  cases span with
  | code text => exact ⟨['\x60'], ['\x60'], rfl⟩
  | bold text => exact ⟨['*', '*'], ['*', '*'], rfl⟩
  | italic text => exact ⟨['*'], ['*'], rfl⟩
  | link text destination =>
    exact ⟨['['], ']' :: '(' :: destination ++ [')'], by simp [Span.source, Span.inner]⟩

/-- A fragment stands in the source. -/
theorem Running.infix_of_mem_fragments {running : Running} (faithful : running.Faithful)
    {fragment : Text} (member : fragment ∈ running.fragments) : fragment <:+: running.source := by
  induction running with
  | plain stretch =>
    rw [List.mem_singleton.mp member]
    exact List.infix_rfl
  | code before inside behind ih =>
    rw [Running.source]
    rcases List.mem_cons.mp member with rfl | member
    · rw [List.append_assoc]
      exact (List.prefix_append _ _).isInfix
    · rcases List.mem_cons.mp member with rfl | later
      · have within := inner_infix_source (.code fragment)
        exact within.trans (List.infix_append before _ _)
      · exact (ih faithful later).trans (List.suffix_append _ _).isInfix
  | marked before span inside behind inner ih =>
    obtain ⟨same, within, faithful⟩ := faithful
    rw [Running.source]
    rcases List.mem_append.mp member with member | later
    · rcases List.mem_cons.mp member with rfl | deeper
      · rw [List.append_assoc]
        exact (List.prefix_append _ _).isInfix
      · exact (inner within deeper).trans
          (same ▸ (inner_infix_source span).trans (List.infix_append before _ _))
    · exact (ih faithful later).trans (List.suffix_append _ _).isInfix

/-- A stretch of running text is part of that text. -/
theorem infix_of_mem_fragments {fragment : Text} (member : fragment ∈ (read s).fragments) :
    fragment <:+: s := by
  have within := Running.infix_of_mem_fragments (faithful_read s) member
  rwa [source_read] at within

end Scriptorium.Latex
