import Scriptorium.Html.Escape
/-! # Escaped text

An escaped text holds none of the characters that begin or end a tag or the value of an
attribute (`Html.not_mem_escape`), so it is bare (`Html.isBare_escape`).
-/

namespace Scriptorium.Html

/-- The characters that begin or end a tag or the value of an attribute. -/
def markupChars : Text :=
  ['<', '>', '"']

/-- No character of a text begins or ends a tag or the value of an attribute. -/
def IsBare (s : Text) : Prop :=
  ∀ c ∈ s, c ∉ markupChars

instance (s : Text) : Decidable (IsBare s) :=
  List.decidableBAll (fun c => c ∉ markupChars) s

/-- Text is bare when its parts are. -/
theorem isBare_append_iff {front behind : Text} :
    IsBare (front ++ behind) ↔ IsBare front ∧ IsBare behind :=
  List.forall_mem_append

/-- Text is bare when its parts are, and the character between them is. -/
theorem isBare_append_cons_iff {front behind : Text} {c : Char} :
    IsBare (front ++ c :: behind) ↔ IsBare front ∧ c ∉ markupChars ∧ IsBare behind := by
  rw [isBare_append_iff]
  exact and_congr_right' List.forall_mem_cons

/-- The characters of markup are the angle brackets and the double quote. -/
theorem mem_markupChars_iff {c : Char} : c ∈ markupChars ↔ c = '<' ∨ c = '>' ∨ c = '"' := by
  simp [markupChars]

private theorem not_mem_escapeChar {c : Char} (special : c ∈ markupChars) (d : Char) :
    c ∉ escapeChar d := by
  unfold escapeChar
  split
  iterate 4 · rcases mem_markupChars_iff.mp special with rfl | rfl | rfl <;> simp
  · rename_i other less greater quote
    intro member
    rw [List.mem_singleton.mp member] at special
    rcases mem_markupChars_iff.mp special with same | same | same
    · exact less same
    · exact greater same
    · exact quote same

/-- **An escaped text holds no markup.** -/
theorem not_mem_escape {c : Char} (special : c ∈ markupChars) (s : Text) : c ∉ escape s := by
  intro member
  obtain ⟨d, -, written⟩ := List.mem_flatMap.mp member
  exact not_mem_escapeChar special d written

/-- Escaped text is bare. -/
theorem isBare_escape (s : Text) : IsBare (escape s) :=
  fun _ member special => not_mem_escape special s member

end Scriptorium.Html
