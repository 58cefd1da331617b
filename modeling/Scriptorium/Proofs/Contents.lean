import Scriptorium.Proofs.Mark
/-! # Marks kept and marks lost

How often each mark stands in some texts is their tally (`tally`). What is written for
texts that a document consists of is compared with them by tallies: passages come out
with all their marks, destinations of links with some of theirs (`Contents.SetAs`). Where
the texts of a document come from, all marks of both stand (`Contents.Spells`). Either
way a whole is accounted for by its parts (`Contents.SetAs.append`,
`Contents.SetAs.gather`).
-/

namespace Scriptorium

variable {mark : Mark} {texts : List Text}

/-- How often a mark stands in texts. -/
def tally (mark : Mark) (texts : List Text) : Nat :=
  (texts.flatMap marks).count mark

@[simp]
theorem tally_nil (mark : Mark) : tally mark [] = 0 :=
  rfl

@[simp]
theorem tally_cons (mark : Mark) (text : Text) (texts : List Text) :
    tally mark (text :: texts) = (marks text).count mark + tally mark texts := by
  rw [tally, List.flatMap_cons, List.count_append]
  rfl

@[simp]
theorem tally_append (mark : Mark) (texts others : List Text) :
    tally mark (texts ++ others) = tally mark texts + tally mark others := by
  rw [tally, List.flatMap_append, List.count_append]
  rfl

theorem tally_singleton (mark : Mark) (text : Text) :
    tally mark [text] = (marks text).count mark := by
  rw [tally_cons, tally_nil, Nat.add_zero]

/-- Texts with the same marks one by one have the same tally. -/
theorem tally_map {write : Text → Text} (same : ∀ text ∈ texts, marks (write text) = marks text)
    (mark : Mark) : tally mark (texts.map write) = tally mark texts := by
  induction texts with
  | nil => rfl
  | cons text texts ih =>
    rw [List.map_cons, tally_cons, tally_cons, same text List.mem_cons_self,
      ih fun text member => same text (List.mem_cons_of_mem _ member)]

/-- Texts that hold no mark do not count. -/
theorem tally_filter {keep : Text → Bool}
    (dropped : ∀ text ∈ texts, keep text = false → marks text = []) (mark : Mark) :
    tally mark (texts.filter keep) = tally mark texts := by
  induction texts with
  | nil => rfl
  | cons text texts ih =>
    have later := ih fun text member => dropped text (List.mem_cons_of_mem _ member)
    rw [tally_cons, ← later]
    by_cases kept : keep text = true
    · rw [List.filter_cons_of_pos kept, tally_cons]
    · have none := dropped text List.mem_cons_self (Bool.eq_false_iff.mpr kept)
      rw [List.filter_cons_of_neg kept, none, List.count_nil, Nat.zero_add]

/-- The order of texts does not matter for what they hold. -/
theorem tally_perm {others : List Text} (perm : texts.Perm others) (mark : Mark) :
    tally mark texts = tally mark others :=
  (perm.flatMap_right marks).count_eq mark

@[simp]
theorem tally_joinLines (mark : Mark) (lines : List Text) :
    tally mark [Text.joinLines lines] = tally mark lines := by
  rw [tally_singleton, marks_joinLines]
  rfl

@[simp]
theorem tally_lines (mark : Mark) (text : Text) : tally mark text.lines = tally mark [text] := by
  rw [tally_singleton, ← flatMap_marks_lines]
  rfl

/-- The texts that a part of a document consists of. -/
structure Contents where
  passages : List Text
  destinations : List Text

namespace Contents

/-- Passages without links. -/
def ofPassages (passages : List Text) : Contents :=
  ⟨passages, []⟩

instance : Append Contents where
  append front behind :=
    ⟨front.passages ++ behind.passages, front.destinations ++ behind.destinations⟩

/-- The contents of several parts together. -/
def gather {α : Type} (contents : α → Contents) : List α → Contents
  | [] => ofPassages []
  | part :: parts => contents part ++ gather contents parts

@[simp]
theorem passages_append (front behind : Contents) :
    (front ++ behind).passages = front.passages ++ behind.passages :=
  rfl

@[simp]
theorem destinations_append (front behind : Contents) :
    (front ++ behind).destinations = front.destinations ++ behind.destinations :=
  rfl

/-- How often a mark stands in passages and destinations together. -/
def total (mark : Mark) (contents : Contents) : Nat :=
  tally mark contents.passages + tally mark contents.destinations

@[simp]
theorem total_ofPassages (mark : Mark) (passages : List Text) :
    (ofPassages passages).total mark = tally mark passages :=
  rfl

@[simp]
theorem total_append (mark : Mark) (front behind : Contents) :
    (front ++ behind).total mark = front.total mark + behind.total mark := by
  simp only [total, passages_append, destinations_append, tally_append]
  omega

/-- Texts in which the marks of all passages stand, and beside them only marks of
destinations. -/
def SetAs (contents : Contents) (written : List Text) : Prop :=
  ∀ mark, tally mark contents.passages ≤ tally mark written ∧
    tally mark written ≤ contents.total mark

/-- Texts in which the marks of all passages and destinations stand, and no others. -/
def Spells (contents : Contents) (source : List Text) : Prop :=
  ∀ mark, tally mark source = contents.total mark

variable {contents front behind : Contents} {written written' : List Text}

/-- Passages are set as they are. -/
theorem setAs_ofPassages (passages : List Text) : (ofPassages passages).SetAs passages :=
  fun _ => ⟨Nat.le_refl _, Nat.le_refl _⟩

private theorem spells_ofPassages (passages : List Text) : (ofPassages passages).Spells passages :=
  fun _ => rfl

/-- Contents that are set one behind the other are set together. -/
theorem SetAs.append (first : front.SetAs written) (second : behind.SetAs written') :
    (front ++ behind).SetAs (written ++ written') := by
  intro mark
  obtain ⟨least, most⟩ := first mark
  obtain ⟨least', most'⟩ := second mark
  simp only [passages_append, total_append, tally_append]
  omega

/-- Contents that are spelled one behind the other are spelled together. -/
theorem Spells.append (first : front.Spells written) (second : behind.Spells written') :
    (front ++ behind).Spells (written ++ written') := by
  intro mark
  rw [tally_append, total_append, first mark, second mark]

/-- Contents are set as well by texts that hold the same marks. -/
theorem SetAs.congr (set : contents.SetAs written)
    (same : ∀ mark, tally mark written' = tally mark written) : contents.SetAs written' := by
  intro mark
  rw [same mark]
  exact set mark

/-- Contents are spelled as well by texts that hold the same marks. -/
theorem Spells.congr (spells : contents.Spells written)
    (same : ∀ mark, tally mark written' = tally mark written) : contents.Spells written' := by
  intro mark
  rw [same mark]
  exact spells mark

/-- Texts of the same marks are set as one text. -/
theorem SetAs.ofMarks {text : Text} (set : contents.SetAs written)
    (same : marks text = written.flatMap marks) : contents.SetAs [text] :=
  set.congr fun mark => by rw [tally_singleton, same, tally]

section

variable {α : Type} {contentsOf : α → Contents} {parts : List α}

/-- The contents of parts are those of some of them and of the others. -/
theorem total_gather_append (contentsOf : α → Contents) (parts others : List α)
    (mark : Mark) : (gather contentsOf (parts ++ others)).total mark =
      (gather contentsOf parts).total mark + (gather contentsOf others).total mark := by
  induction parts with
  | nil => exact (Nat.zero_add _).symm
  | cons part parts ih =>
    rw [List.cons_append, gather, gather, total_append, total_append, ih, Nat.add_assoc]

/-- The order of parts does not count. -/
theorem total_gather_perm (contentsOf : α → Contents) {others : List α}
    (perm : parts.Perm others) (mark : Mark) :
    (gather contentsOf parts).total mark = (gather contentsOf others).total mark := by
  induction perm with
  | nil => rfl
  | cons part _ ih => rw [gather, gather, total_append, total_append, ih]
  | swap part other parts =>
    simp only [gather, total_append]
    omega
  | trans _ _ first second => exact first.trans second

/-- Parts that are set one by one are set together. -/
theorem SetAs.gather {write : α → Text}
    (each : ∀ part ∈ parts, (contentsOf part).SetAs [write part]) :
    (Contents.gather contentsOf parts).SetAs (parts.map write) := by
  induction parts with
  | nil => exact setAs_ofPassages []
  | cons part parts ih =>
    exact (each part List.mem_cons_self).append
      (ih fun part member => each part (List.mem_cons_of_mem _ member))

/-- Parts that are spelled one by one are spelled together. -/
theorem Spells.gather {source : α → Text}
    (each : ∀ part ∈ parts, (contentsOf part).Spells [source part]) :
    (Contents.gather contentsOf parts).Spells (parts.map source) := by
  induction parts with
  | nil => exact spells_ofPassages []
  | cons part parts ih =>
    exact (each part List.mem_cons_self).append
      (ih fun part member => each part (List.mem_cons_of_mem _ member))

end

end Contents

/-- A closed text and one behind it are set as one text. -/
theorem Closes.setAs {front behind : Contents} {first second : Text} (closes : Closes first)
    (set : front.SetAs [first]) (set' : behind.SetAs [second]) :
    (front ++ behind).SetAs [first ++ second] := by
  apply (set.append set').ofMarks
  rw [closes, List.singleton_append, List.flatMap_cons, List.flatMap_singleton]

end Scriptorium
