import Shorthand.Text.Blank
set_option autoImplicit false

namespace Shorthand.Text

/-- A stretch of characters of a kind ends at the first character that is not of the kind. -/
theorem stretch_append {p : Char → Bool} {a b : List Char} (ha : ∀ c ∈ a, p c = true)
    (hb : ∀ c ∈ b.head?, p c = false) : (a ++ b).takeWhile p = a ∧ (a ++ b).dropWhile p = b := by
  rw [List.takeWhile_append_of_pos ha, List.dropWhile_append_of_pos ha]
  cases b with
  | nil => simp
  | cons c r => simp [hb c rfl]

theorem dropBlank_eq_self {s : List Char} (h : ∀ c ∈ s.head?, isBlank c = false) :
    dropBlank s = s := by
  cases s with
  | nil => rfl
  | cons c r => simp [dropBlank, h c rfl]

theorem dropBlankEnd_eq_self {s : List Char} (h : ∀ c ∈ s.getLast?, isBlank c = false) :
    dropBlankEnd s = s := by
  rw [dropBlankEnd, dropBlank_eq_self (by simpa using h), List.reverse_reverse]

theorem trim_eq_self {s : String} (hs : ∀ c ∈ s.toList.head?, isBlank c = false)
    (he : ∀ c ∈ s.toList.getLast?, isBlank c = false) : trim s = s := by
  rw [trim, trimmed, dropBlank_eq_self hs, dropBlankEnd_eq_self he, String.ofList_toList]

theorem exists_dropBlank (s : List Char) :
    ∃ gap, s = gap ++ dropBlank s ∧ ∀ c ∈ gap, isBlank c = true :=
  ⟨s.takeWhile isBlank, (List.takeWhile_append_dropWhile).symm,
    List.all_eq_true.1 List.all_takeWhile⟩

theorem exists_dropBlankEnd (s : List Char) :
    ∃ gap, s = dropBlankEnd s ++ gap ∧ ∀ c ∈ gap, isBlank c = true := by
  obtain ⟨gap, hs, hgap⟩ := exists_dropBlank s.reverse
  refine ⟨gap.reverse, ?_, by simpa using hgap⟩
  rw [dropBlankEnd, ← List.reverse_append, ← hs, List.reverse_reverse]

theorem dropBlankEnd_append {gap : List Char} (h : ∀ c ∈ gap, isBlank c = true) (s : List Char) :
    dropBlankEnd (s ++ gap) = dropBlankEnd s := by
  have hgap : ∀ c ∈ gap.reverse, isBlank c = true := by simpa using h
  rw [dropBlankEnd, List.reverse_append, dropBlank, List.dropWhile_append_of_pos hgap]
  rfl

end Shorthand.Text
