import Scriptorium.Proofs.Library.Targets
import Scriptorium.Proofs.Text.Utf8
/-! # Writing document after document

What is written of a library is confined when files change only where something is to be
written, and there only to the whole of it (`Library.Confined`). One replaced file keeps this
so (`Library.Confined.write`). A run over all documents is told step by step
(`Library.Writes`): wherever it stops it has kept so, and when it comes to its end every
document is in its place (`Library.Writes.ended`). Then writing all of them again changes
nothing (`Library.perform_writeAll_of_holds`).
-/

namespace Scriptorium.Library

open FileTree (Grows Holds)
open Manifest (entryOf)

variable {config : Config} {tree now after : FileTree} {sources : List Path}
  {path source : Path} {text markdown : Text} {cause : Error}
  {output : Location → Text → Prop} {place : Location} {entry : ManifestEntry}
  {entries : List ManifestEntry} {targetOf : Path → Path}

/-! ## One file -/

/-- Writing a text puts its bytes in the place of what was there, or fails where it cannot be done.
-/
theorem perform_write (path : Path) (text : Text) :
    tree.perform (write path text) =
      ((tree.replace path (Utf8.encode text)).1.mapError fun cause =>
        .config (.unwritable path cause), (tree.replace path (Utf8.encode text)).2) :=
  rfl

private theorem exists_of_perform_write {outcome : Except Error Unit}
    (ran : now.perform (write path text) = (outcome, after)) :
    ∃ answer, now.replace path (Utf8.encode text) = (answer, after) ∧
      outcome = answer.mapError fun cause => .config (.unwritable path cause) := by
  rw [perform_write] at ran
  cases ran
  exact ⟨_, rfl, rfl⟩

/-- A text that was written stands in the place of what was there. -/
theorem replace_of_perform_write (ran : now.perform (write path text) = (.ok (), after)) :
    now.replace path (Utf8.encode text) = (.ok (), after) := by
  obtain ⟨answer, replaced, same⟩ := exists_of_perform_write ran
  cases answer with
  | error cause => cases same
  | ok => exact replaced

/-- Writing a text lets the tree grow at the place of the path only. -/
theorem grows_write {outcome : Except Error Unit}
    (ran : now.perform (write path text) = (outcome, after)) :
    Grows (· = path.place now.working) now after := by
  obtain ⟨answer, replaced, -⟩ := exists_of_perform_write ran
  exact (FileTree.grows_replace replaced).mono fun _ written => written.2

/-- What may become of a tree while texts are written at places: nothing is removed, and each
file is what it was, or the whole of what is to be written at its place. -/
structure Confined (output : Location → Text → Prop) (tree after : FileTree) : Prop where
  working : after.working = tree.working
  kind : ∀ place node, tree.get? place = some node →
    ∃ other, after.get? place = some other ∧ other.kind = node.kind
  whole : ∀ place, after.file? place = tree.file? place ∨
    ∃ text, output place text ∧ after.file? place = some (Utf8.encode text)

namespace Confined

/-- Nothing has become of a tree that was left alone. -/
theorem refl (output : Location → Text → Prop) (tree : FileTree) : Confined output tree tree :=
  ⟨rfl, fun _ node found => ⟨node, found, rfl⟩, fun _ => .inl rfl⟩

/-- A tree in which texts were written at places has grown at these. -/
theorem grows (confined : Confined output tree after) :
    Grows (fun place => ∃ text, output place text) tree after where
  working := confined.working
  kind := confined.kind
  elsewhere place other := by
    rcases confined.whole place with same | ⟨text, written, -⟩
    · exact same
    · exact absurd ⟨text, written⟩ other

/-- **One more file** is written whole or not at all. -/
theorem write (confined : Confined output tree now)
    (written : output (path.place tree.working) text) {outcome : Except Error Unit}
    (ran : now.perform (write path text) = (outcome, after)) : Confined output tree after := by
  obtain ⟨answer, replaced, -⟩ := exists_of_perform_write ran
  have grows := FileTree.grows_replace replaced
  refine ⟨(confined.grows.trans (grows.mono ?_)).working,
    (confined.grows.trans (grows.mono ?_)).kind, fun place => ?_⟩
  · rintro place ⟨-, rfl⟩
    exact ⟨text, confined.working ▸ written⟩
  · rintro place ⟨-, rfl⟩
    exact ⟨text, confined.working ▸ written⟩
  · by_cases here : answer = .ok () ∧ place = path.place now.working
    · obtain ⟨rfl, rfl⟩ := here
      refine .inr ⟨text, confined.working ▸ written, ?_⟩
      rw [← grows.working]
      exact (FileTree.holds_replace replaced).file?_eq
    · rw [grows.elsewhere place here]
      exact confined.whole place

/-- What can be read of a file while texts are written is what it was, or a whole text. -/
theorem readText (confined : Confined output tree now)
    {before text : Text} (found : tree.readText path = .ok before)
    (read : now.readText path = .ok text) :
    text = before ∨ output (path.place tree.working) text := by
  obtain ⟨content, place, leads, decoded⟩ := FileTree.readText_eq_ok_iff.mp found
  obtain ⟨content', place', leads', decoded'⟩ := FileTree.readText_eq_ok_iff.mp read
  have same := FileTree.eq_place_of_lookup leads
  have same' := FileTree.eq_place_of_lookup leads'
  rw [confined.working] at same'
  subst same same'
  have was := FileTree.file?_eq_some_iff.mpr (FileTree.lookup_eq_ok_iff.mp leads).2.2
  have stands := FileTree.file?_eq_some_iff.mpr (FileTree.lookup_eq_ok_iff.mp leads').2.2
  rcases confined.whole (path.place tree.working) with kept | ⟨written, allowed, whole⟩
  · rw [stands, was] at kept
    cases kept
    exact .inl (Option.some.inj (decoded'.symm.trans decoded))
  · rw [stands] at whole
    cases whole
    rw [Utf8.decode?_encode] at decoded'
    exact .inr (Option.some.inj decoded' ▸ allowed)

end Confined

/-! ## All files -/

section Run

variable {compile : Path → Text → ExceptT Error (StateM FileTree) Text}
  {compiled : FileTree → Path → Text → Except Error Text} {outcome : Except Error BuildReport}

/-- A run over documents, by what becomes of the first one. -/
inductive Writes (compiled : FileTree → Path → Text → Except Error Text) (targetOf : Path → Path) :
    FileTree → List ManifestEntry → Except Error BuildReport → FileTree → Prop where
  | done {now : FileTree} : Writes compiled targetOf now [] (.ok .empty) now
  | unread {now after : FileTree} {entry : ManifestEntry} {entries : List ManifestEntry}
      {outcome : Except Error BuildReport} {cause : FileError}
      (read : now.readText entry.source = .error cause)
      (rest : Writes compiled targetOf now entries outcome after) :
      Writes compiled targetOf now (entry :: entries)
        (outcome.map fun report => { report with failed := (entry.source, cause) :: report.failed })
        after
  | refused {now : FileTree} {entry : ManifestEntry} {entries : List ManifestEntry}
      {markdown : Text} {cause : Error}
      (read : now.readText entry.source = .ok markdown)
      (refused : compiled now entry.source markdown = .error cause) :
      Writes compiled targetOf now (entry :: entries) (.error cause) now
  | unwritten {now after : FileTree} {entry : ManifestEntry} {entries : List ManifestEntry}
      {markdown text : Text} {cause : Error}
      (read : now.readText entry.source = .ok markdown)
      (answered : compiled now entry.source markdown = .ok text)
      (wrote : now.perform (write (targetOf entry.page) text) = (.error cause, after)) :
      Writes compiled targetOf now (entry :: entries) (.error cause) after
  | written {now middle after : FileTree} {entry : ManifestEntry} {entries : List ManifestEntry}
      {markdown text : Text} {outcome : Except Error BuildReport}
      (read : now.readText entry.source = .ok markdown)
      (answered : compiled now entry.source markdown = .ok text)
      (wrote : now.perform (write (targetOf entry.page) text) = (.ok (), middle))
      (rest : Writes compiled targetOf middle entries outcome after) :
      Writes compiled targetOf now (entry :: entries)
        (outcome.map fun report =>
          { report with written := targetOf entry.page :: report.written }) after

/-- A run over documents reads the first one, writes what it compiles to, and goes on. -/
theorem perform_writeAll_cons
    (answers : ∀ tree source markdown,
      tree.perform (compile source markdown) = (compiled tree source markdown, tree)) :
    now.perform (writeAll compile targetOf (entry :: entries)) =
      match now.readText entry.source with
      | .error cause =>
        ((now.perform (writeAll compile targetOf entries)).1.map fun report =>
          { report with failed := (entry.source, cause) :: report.failed },
          (now.perform (writeAll compile targetOf entries)).2)
      | .ok markdown =>
        match compiled now entry.source markdown with
        | .error cause => (.error cause, now)
        | .ok text =>
          match now.perform (write (targetOf entry.page) text) with
          | (.error cause, after) => (.error cause, after)
          | (.ok (), middle) =>
            ((middle.perform (writeAll compile targetOf entries)).1.map fun report =>
              { report with written := targetOf entry.page :: report.written },
              (middle.perform (writeAll compile targetOf entries)).2) := by
  have read : now.perform (liftM (FileStore.readText (m := StateM FileTree) entry.source).run :
      ExceptT Error (StateM FileTree) _) = (.ok (now.readText entry.source), now) := by
    have answer : now.perform (FileStore.readText entry.source) =
        (now.readText entry.source, now) := FileTree.perform_readText entry.source
    obtain ⟨read, kept⟩ := Prod.ext_iff.mp answer
    rw [FileTree.perform_liftM]
    exact Prod.ext (congrArg Except.ok read) kept
  rw [writeAll, FileTree.perform_bind, read]
  dsimp only
  cases now.readText entry.source with
  | error cause =>
    dsimp only
    rw [FileTree.perform_bind]
    rcases now.perform (writeAll compile targetOf entries) with ⟨_ | report, after⟩ <;> rfl
  | ok markdown =>
    dsimp only
    rw [FileTree.perform_bind, answers]
    cases compiled now entry.source markdown with
    | error cause => rfl
    | ok text =>
      dsimp only
      rw [FileTree.perform_bind]
      rcases now.perform (write (targetOf entry.page) text) with ⟨_ | _, middle⟩
      · rfl
      · dsimp only
        rw [FileTree.perform_bind]
        rcases middle.perform (writeAll compile targetOf entries) with ⟨_ | report, after⟩ <;> rfl

/-- What becomes of a tree in a run over documents is told by what becomes of the first one. -/
theorem writes_writeAll
    (answers : ∀ tree source markdown,
      tree.perform (compile source markdown) = (compiled tree source markdown, tree))
    (ran : now.perform (writeAll compile targetOf entries) = (outcome, after)) :
    Writes compiled targetOf now entries outcome after := by
  induction entries generalizing now outcome after with
  | nil =>
    cases ran
    exact .done
  | cons entry entries ih =>
    rw [perform_writeAll_cons answers] at ran
    cases read : now.readText entry.source with
    | error cause =>
      rw [read] at ran
      cases ran
      exact .unread read (ih rfl)
    | ok markdown =>
      rw [read] at ran
      dsimp only at ran
      cases answered : compiled now entry.source markdown with
      | error cause =>
        rw [answered] at ran
        cases ran
        exact .refused read answered
      | ok text =>
        rw [answered] at ran
        dsimp only at ran
        rcases wrote : now.perform (write (targetOf entry.page) text) with ⟨cause | _, middle⟩ <;>
          rw [wrote] at ran <;> cases ran
        · exact .unwritten read answered wrote
        · exact .written read answered wrote (ih rfl)

/-- A run writes at the targets of its entries. -/
theorem Writes.grows (run : Writes compiled targetOf now entries outcome after) :
    Grows (fun place => ∃ entry ∈ entries, place = (targetOf entry.page).place now.working)
      now after := by
  have wider {now : FileTree} {entry : ManifestEntry} {entries : List ManifestEntry}
      (place : Location)
      (among : ∃ entry ∈ entries, place = (targetOf entry.page).place now.working) :
      ∃ other ∈ entry :: entries, place = (targetOf other.page).place now.working := by
    obtain ⟨other, member, same⟩ := among
    exact ⟨other, List.mem_cons_of_mem entry member, same⟩
  have first {now : FileTree} {entry : ManifestEntry} {entries : List ManifestEntry}
      (place : Location) (same : place = (targetOf entry.page).place now.working) :
      ∃ other ∈ entry :: entries, place = (targetOf other.page).place now.working :=
    ⟨entry, List.mem_cons_self, same⟩
  induction run with
  | done => exact .refl _ _
  | unread read rest ih => exact ih.mono wider
  | refused => exact .refl _ _
  | unwritten read answered wrote => exact (grows_write wrote).mono first
  | written read answered wrote rest ih =>
    have wrote := grows_write wrote
    rw [wrote.working] at ih
    exact (wrote.mono first).trans (ih.mono wider)

/-- Whether the sources of entries can be read, as they could before. -/
def Intact (tree now : FileTree) (entries : List ManifestEntry) : Prop :=
  ∀ entry ∈ entries, ∃ markdown, tree.readText entry.source = .ok markdown ∧
    now.readText entry.source = .ok markdown

private theorem Intact.readText_eq (intact : Intact tree now (entry :: entries))
    (read : now.readText entry.source = .ok markdown) :
    tree.readText entry.source = .ok markdown := by
  obtain ⟨before, kept, found⟩ := intact entry List.mem_cons_self
  rw [read] at found
  cases found
  exact kept

/-- The sources that a scan has found can be read. -/
theorem Scanned.intact (scanned : Scanned config tree sources) :
    Intact tree tree (sources.map (entryOf config)) := by
  intro entry member
  obtain ⟨source, listed, rfl⟩ := List.mem_map.mp member
  obtain ⟨markdown, read⟩ := scanned.readable source listed
  exact ⟨markdown, read, read⟩

/-- Sources stay intact while other places are written. -/
theorem Intact.grows {places : Location → Prop} (intact : Intact tree now entries)
    (grows : Grows places now after)
    (other : ∀ entry ∈ entries, ¬ places (entry.source.place now.working)) :
    Intact tree after entries := by
  intro entry member
  obtain ⟨markdown, before, read⟩ := intact entry member
  exact ⟨markdown, before, grows.readText (other entry member) read⟩

/-- Whether a compiler may answer so for an entry, in the course of a run. -/
def Answered (compiled : FileTree → Path → Text → Except Error Text)
    (output : Location → Text → Prop) (tree : FileTree) (entry : ManifestEntry)
    (answer : Except Error Text) : Prop :=
  ∃ now markdown, Confined output tree now ∧ tree.readText entry.source = .ok markdown ∧
    compiled now entry.source markdown = answer

/-- What is known of a run when it has ended: a refusal is that of the compiler or that of the
store, and a report names all targets, each of which holds its text. -/
structure Ended (compiled : FileTree → Path → Text → Except Error Text) (targetOf : Path → Path)
    (output : Location → Text → Prop) (tree : FileTree) (entries : List ManifestEntry)
    (outcome : Except Error BuildReport) (after : FileTree) : Prop where
  confined : Confined output tree after
  refused : ∀ cause, outcome = .error cause →
    (∃ path why, cause = .config (.unwritable path why)) ∨
      ∃ entry ∈ entries, Answered compiled output tree entry (.error cause)
  report : ∀ report, outcome = .ok report →
    report = ⟨entries.map fun entry => targetOf entry.page, []⟩ ∧
      ∀ entry ∈ entries, ∃ text, Answered compiled output tree entry (.ok text) ∧
        Holds after (targetOf entry.page) (Utf8.encode text)

/-- A document that is written and kept adds its target to the report. -/
theorem Ended.cons {compiled : FileTree → Path → Text → Except Error Text}
    (first : Answered compiled output tree entry (.ok text))
    (rest : Ended compiled targetOf output tree entries outcome after)
    (held : Holds after (targetOf entry.page) (Utf8.encode text)) :
    Ended compiled targetOf output tree (entry :: entries)
      (outcome.map fun report => { report with written := targetOf entry.page :: report.written })
      after := by
  obtain ⟨confined, refused, report⟩ := rest
  cases outcome with
  | error cause =>
    refine ⟨confined, fun why failed => ?_, nofun⟩
    cases failed
    rcases refused cause rfl with store | ⟨other, member, asked⟩
    · exact .inl store
    · exact .inr ⟨other, List.mem_cons_of_mem entry member, asked⟩
  | ok =>
    refine ⟨confined, nofun, fun whole finished => ?_⟩
    cases finished
    obtain ⟨rfl, later⟩ := report _ rfl
    exact ⟨rfl, List.forall_mem_cons.mpr ⟨⟨text, first, held⟩, later⟩⟩

/-- **A run over all documents** writes at its targets whole texts or nothing, wherever it
stops. -/
theorem Writes.ended (run : Writes compiled targetOf now entries outcome after)
    (apart : Apart targetOf tree.working entries) (confined : Confined output tree now)
    (intact : Intact tree now entries)
    (writable : ∀ entry ∈ entries, ∀ text, Answered compiled output tree entry (.ok text) →
      output ((targetOf entry.page).place tree.working) text) :
    Ended compiled targetOf output tree entries outcome after := by
  induction run with
  | done =>
    refine ⟨confined, nofun, fun report done => ?_⟩
    cases done
    exact ⟨rfl, nofun⟩
  | unread read =>
    obtain ⟨markdown, -, found⟩ := intact _ List.mem_cons_self
    rw [read] at found
    cases found
  | refused read refused =>
    refine ⟨confined, fun cause same => ?_, nofun⟩
    cases same
    exact .inr ⟨_, List.mem_cons_self, _, _, confined, intact.readText_eq read, refused⟩
  | unwritten read answered wrote =>
    have allowed := writable _ List.mem_cons_self _
      ⟨_, _, confined, intact.readText_eq read, answered⟩
    refine ⟨confined.write allowed wrote, fun cause same => ?_, nofun⟩
    cases same
    obtain ⟨answer, -, refusal⟩ := exists_of_perform_write wrote
    cases answer with
    | error why =>
      cases refusal
      exact .inl ⟨_, why, rfl⟩
    | ok => cases refusal
  | written read answered wrote rest ih =>
    rename_i now middle after entry entries markdown text outcome
    have first : Answered compiled output tree entry (.ok text) :=
      ⟨_, _, confined, intact.readText_eq read, answered⟩
    obtain ⟨here, later⟩ := List.pairwise_cons.mp apart
    have grows := grows_write wrote
    have untouched : Intact tree middle entries :=
      Intact.grows (List.forall_mem_cons.mp intact).2 grows fun other member same =>
        (here other member).2 (confined.working ▸ same.symm)
    have allowed := writable entry List.mem_cons_self text first
    refine .cons first (ih later (confined.write allowed wrote) untouched fun other member =>
      writable other (List.mem_cons_of_mem entry member)) ?_
    refine (FileTree.holds_replace (replace_of_perform_write wrote)).grows rest.grows ?_
    rintro ⟨other, member, same⟩
    rw [grows.working, confined.working] at same
    exact (here other member).1 same

/-- **Writing again** what is in its place changes nothing. -/
theorem perform_writeAll_of_holds
    (answers : ∀ tree source markdown,
      tree.perform (compile source markdown) = (compiled tree source markdown, tree))
    (held : ∀ entry ∈ entries, ∃ markdown text, now.readText entry.source = .ok markdown ∧
      compiled now entry.source markdown = .ok text ∧
        Holds now (targetOf entry.page) (Utf8.encode text)) :
    now.perform (writeAll compile targetOf entries) =
      (.ok ⟨entries.map fun entry => targetOf entry.page, []⟩, now) := by
  induction entries with
  | nil => rfl
  | cons entry entries ih =>
    obtain ⟨⟨markdown, text, read, answered, there⟩, later⟩ := List.forall_mem_cons.mp held
    have wrote : now.perform (write (targetOf entry.page) text) = (.ok (), now) := by
      rw [perform_write, there.replace_eq]
      rfl
    rw [perform_writeAll_cons answers, read]
    dsimp only
    rw [answered]
    dsimp only
    rw [wrote]
    dsimp only
    rw [ih later]
    rfl

end Run

end Scriptorium.Library
