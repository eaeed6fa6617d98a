import Shorthand.Proofs.Invocation.Passthrough
/-!
The words that an expansion leaves are for no flag, and they stay so when they come to stand next to
each other: to expand them once more changes nothing.
-/
set_option autoImplicit false

namespace Shorthand.Expander

variable {x : Expander} {words left : List String}

theorem Leaves.plain (h : x.Leaves words left) : ∀ word ∈ left, x.reading word = .plain := by
  induction h with
  | nil => simp
  | word plain _ ih => exact List.forall_mem_cons.2 ⟨plain, ih⟩
  | bundle _ _ ih => exact ih
  | flag _ _ _ ih => exact ih
  | pair _ _ _ _ ih => exact ih

theorem Leaves.sublist (h : x.Leaves words left) : left.Sublist words := by
  induction h with
  | nil => exact .slnil
  | word _ _ ih => exact ih.cons_cons _
  | bundle _ _ ih => exact ih.cons _
  | flag _ _ _ ih => exact ih.cons _
  | pair _ _ _ _ ih => exact (ih.cons _).cons _

/-- Words before a separator that no flag is, and all words from the separator on, unless nothing
stands behind it. -/
def IsLeftover (x : Expander) (words : List String) : Prop :=
  ∃ head tail, words = head ++ (if tail.isEmpty then [] else separator :: tail) ∧ separator ∉ head ∧
    ∀ word ∈ head, x.reading word = .plain

theorem isLeftover_passthrough (x : Expander) (words : List String) :
    x.IsLeftover (x.expand words).passthrough := by
  have hleaves := x.leaves_expandHead (splitAtSeparator words).1
  refine ⟨_, (splitAtSeparator words).2, rfl, fun hmem => ?_, hleaves.plain⟩
  have hne := List.all_eq_true.1 List.all_takeWhile separator (hleaves.sublist.subset hmem)
  simp at hne

theorem expandHead_of_plain (h : ∀ word ∈ words, x.reading word = .plain) :
    x.expandHead words = .ofWords words := by
  induction words with
  | nil => rfl
  | cons word rest ih =>
    obtain ⟨hword, hrest⟩ := List.forall_mem_cons.1 h
    rw [expandHead, hword]
    simp only
    rw [ih hrest]
    rfl

theorem IsLeftover.expand_eq (h : x.IsLeftover words) : x.expand words = .ofWords words := by
  obtain ⟨head, tail, rfl, hs, hplain⟩ := h
  cases tail with
  | nil =>
    simp only [List.isEmpty_nil, if_true, List.append_nil]
    rw [expand_of_not_mem hs, expandHead_of_plain hplain]
  | cons word tail =>
    have hbehind : splitAtSeparator (separator :: word :: tail) = ([], word :: tail) := by
      simp [splitAtSeparator]
    simp only [List.isEmpty_cons, Bool.false_eq_true, if_false]
    rw [expand, splitAtSeparator_append hs, hbehind]
    simp only [List.append_nil]
    rw [expandHead_of_plain hplain]
    rfl

theorem expand_eq_ofWords_iff : x.expand words = .ofWords words ↔ x.IsLeftover words := by
  constructor
  · intro h
    have hpass : (x.expand words).passthrough = words := congrArg Expansion.passthrough h
    exact hpass ▸ isLeftover_passthrough x words
  · exact IsLeftover.expand_eq

/-- What an expansion leaves has nothing more to expand. -/
theorem expand_passthrough_again (x : Expander) (words : List String) :
    x.expand (x.expand words).passthrough =
      { fragments := { before := [], after := [] },
        bindings := ∅, passthrough := (x.expand words).passthrough,
        internal := [], applied := [] } :=
  expand_eq_ofWords_iff.2 (isLeftover_passthrough x words)

end Shorthand.Expander
