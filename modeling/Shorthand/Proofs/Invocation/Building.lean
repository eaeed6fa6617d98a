import Shorthand.Proofs.Flag.NulFree
import Shorthand.Proofs.Invocation.Wrapping
set_option autoImplicit false

namespace Shorthand

open Words (NulFree)

theorem Script.exists_line (shell : Shell) {words : List String} (h : ∀ w ∈ words, NulFree w) :
    ∃ q, Script.line shell words = .ok q := by
  have hany : (words.any fun w => w.toList.contains '\x00') = false := by simpa [NulFree] using h
  cases shell with
  | cmd => exact ⟨_, by rw [Script.line, hany]; rfl⟩
  | pwsh => exact ⟨_, by rw [Script.line, hany]; rfl⟩
  | linux =>
    obtain ⟨q, -, hq⟩ := Script.line_sh (.inl rfl) h
    exact ⟨q, hq⟩
  | unknown =>
    obtain ⟨q, -, hq⟩ := Script.line_sh (.inr rfl) h
    exact ⟨q, hq⟩

theorem nulFree_fragmentWords {fragment : String} (h : NulFree fragment) :
    ∀ w ∈ fragmentWords fragment, NulFree w := by
  unfold fragmentWords
  split
  · cases hsplit : Words.splitSome fragment with
    | none => simpa using h
    | some words =>
      exact fun w hw =>
        h.of_subset (Words.subset_of_split (Option.filter_eq_some_iff.1 hsplit).1 hw)
  · simpa using h

namespace Invocation

theorem exists_assemble (shell : Shell) (before : List String) {command : List String}
    (hc : command ≠ []) (h : ∀ w ∈ command, NulFree w) :
    ∃ i, assemble shell before command = .ok i := by
  by_cases hb : ∃ f ∈ before, Assignment.ofFragment? f = none
  · obtain ⟨q, hq⟩ := Script.exists_line shell h
    exact ⟨_, assemble_script hb hc hq⟩
  · obtain ⟨program, args, rfl⟩ := List.exists_cons_of_ne_nil hc
    refine ⟨_, assemble_direct shell program args fun f hf => ?_⟩
    exact Option.isSome_iff_ne_none.2 fun hnone => hb ⟨f, hf, hnone⟩

theorem assemble_eq_error_iff {shell : Shell} {before command : List String}
    (h : ∀ w ∈ command, NulFree w) {error : RunError} :
    assemble shell before command = .error error ↔
      command = [] ∧ error = .emptyCommand := by
  by_cases hc : command = []
  · subst hc
    have hempty : assemble shell before [] = .error .emptyCommand := by simp [assemble]
    simp [hempty, eq_comm]
  · obtain ⟨i, hi⟩ := exists_assemble shell before hc h
    simp [hi, hc]

/-- The words that stand behind the base command, in their fragments. -/
def addedWords (e : Expansion) : List String := e.fragments.after.flatMap fragmentWords

theorem nulFree_command {base : List String} {e : Expansion} (hb : ∀ w ∈ base, NulFree w)
    (he : e.NulFree) :
    ∀ w ∈ wrap base [] (addedWords e) ++ e.passthrough, NulFree w := by
  refine List.forall_mem_append.2 ⟨fun w hw => ?_, he.passthrough⟩
  rcases List.mem_append.1 (List.mem_filter.1 hw).1 with hw | hw
  · exact hb w (by simpa using hw)
  · obtain ⟨fragment, hfragment, hw⟩ := List.mem_flatMap.1 hw
    exact nulFree_fragmentWords (he.after fragment hfragment) w hw

/-- Where the fragments before the command only set variables, its words are those of the
process. -/
theorem build_direct (shell : Shell) {base : List String} {e : Expansion}
    (hb : ∀ f ∈ e.fragments.before, (Assignment.ofFragment? f).isSome)
    (hc : wrap base [] (addedWords e) ++ e.passthrough ≠ []) :
    ∃ i, build shell base e = .ok i ∧ i.words = wrap base [] (addedWords e) ++ e.passthrough ∧
      i.environment = e.fragments.before.filterMap Assignment.ofFragment? := by
  obtain ⟨program, args, hcommand⟩ := List.exists_cons_of_ne_nil hc
  refine ⟨_, (congrArg (assemble shell e.fragments.before) hcommand).trans
    (assemble_direct shell program args hb), ?_⟩
  exact ⟨hcommand.symm, rfl⟩

/-- Only a command all of whose words are blank cannot be built, if nothing passes through
either. -/
theorem build_eq_error_iff {shell : Shell} {base : List String} {e : Expansion}
    (hb : ∀ w ∈ base, NulFree w) (he : e.NulFree) {error : RunError} :
    build shell base e = .error error ↔ error = .emptyCommand ∧
      (∀ part ∈ base ++ addedWords e, Text.isAllBlank part = true) ∧ e.passthrough = [] := by
  have hcommand : wrap base [] (addedWords e) ++ e.passthrough = [] ↔
      (∀ part ∈ base ++ addedWords e, Text.isAllBlank part = true) ∧ e.passthrough = [] := by
    simp [wrap, or_imp, forall_and, and_assoc]
  exact (assemble_eq_error_iff (nulFree_command hb he)).trans (by rw [hcommand, and_comm])

end Invocation

end Shorthand
