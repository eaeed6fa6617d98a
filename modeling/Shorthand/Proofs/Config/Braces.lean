import Shorthand.Config.Validation
/-!
Single braces in a template. Pairs are taken from the left, so a brace is left alone exactly where
an odd number of opening braces stand in a row.
-/
set_option autoImplicit false

namespace Shorthand

/-- Somewhere an odd number of opening braces stand in a row, with no further one on either side. -/
def HasOddRun (cs : List Char) : Prop :=
  ∃ before n after, cs = before ++ List.replicate n '{' ++ after ∧ n % 2 = 1 ∧
    before.getLast? ≠ some '{' ∧ after.head? ≠ some '{'

theorem hasSingleBrace_cons_of_ne {c : Char} (h : c ≠ '{') (cs : List Char) :
    hasSingleBrace (c :: cs) = hasSingleBrace cs := by
  rw [hasSingleBrace]
  · simp [h]
  · rintro r rfl
    exact absurd rfl h

theorem hasSingleBrace_cons_of_head? {cs : List Char} (h : cs.head? ≠ some '{') :
    hasSingleBrace ('{' :: cs) = true := by
  rw [hasSingleBrace]
  · simp
  · rintro r - rfl
    exact h rfl

/-- A run of braces leaves one alone exactly if it is odd. -/
theorem hasSingleBrace_replicate_append (n : Nat) {after : List Char} (h : after.head? ≠ some '{') :
    hasSingleBrace (List.replicate n '{' ++ after) = (n % 2 = 1 || hasSingleBrace after) := by
  match n with
  | 0 => rfl
  | 1 => exact hasSingleBrace_cons_of_head? h
  | n + 2 =>
    rw [Nat.add_mod_right, ← hasSingleBrace_replicate_append n h]
    rfl

/-- A text that does not end in a brace is read on its own, whatever follows. -/
theorem hasSingleBrace_append {before : List Char} (h : before.getLast? ≠ some '{')
    (rest : List Char) :
    hasSingleBrace (before ++ rest) = (hasSingleBrace before || hasSingleBrace rest) := by
  fun_induction hasSingleBrace before with
  | case1 r ih =>
    cases r with
    | nil => exact absurd rfl h
    | cons c r => exact ih (by simpa using h)
  | case2 c r hpair ih =>
    by_cases hc : c = '{'
    · subst hc
      cases r with
      | nil => exact absurd rfl h
      | cons d r =>
        have hd : d ≠ '{' := by
          rintro rfl
          exact hpair r rfl rfl
        have hleft : hasSingleBrace ('{' :: d :: (r ++ rest)) = true :=
          hasSingleBrace_cons_of_head? (by simpa using hd)
        exact hleft.trans (by simp)
    · cases r with
      | nil => simp [hasSingleBrace_cons_of_ne hc, hc, hasSingleBrace]
      | cons d r =>
        rw [List.cons_append, hasSingleBrace_cons_of_ne hc, ih (by simpa using h)]
        simp [hc]
  | case3 => rfl

theorem exists_run (cs : List Char) :
    ∃ n after, cs = List.replicate n '{' ++ after ∧ after.head? ≠ some '{' := by
  induction cs with
  | nil => exact ⟨0, [], rfl, by simp⟩
  | cons c cs ih =>
    by_cases hc : c = '{'
    · obtain ⟨n, after, rfl, hafter⟩ := ih
      exact ⟨n + 1, after, by rw [hc]; rfl, hafter⟩
    · exact ⟨0, c :: cs, rfl, by simpa using hc⟩

theorem HasOddRun.append {before rest : List Char} (hb : before.getLast? ≠ some '{')
    (h : HasOddRun rest) :
    HasOddRun (before ++ rest) := by
  obtain ⟨inner, n, after, rfl, hn, hinner, hafter⟩ := h
  refine ⟨before ++ inner, n, after, by simp, hn, ?_, hafter⟩
  rw [List.getLast?_append]
  cases hlast : inner.getLast? with
  | none => simpa using hb
  | some c => simpa [hlast] using hinner

theorem hasOddRun_of_hasSingleBrace {cs : List Char} (h : hasSingleBrace cs = true) :
    HasOddRun cs := by
  induction hl : cs.length using Nat.strongRecOn generalizing cs with
  | _ length ih =>
    subst hl
    obtain ⟨n, after, rfl, hafter⟩ := exists_run cs
    rw [hasSingleBrace_replicate_append n hafter, Bool.or_eq_true, decide_eq_true_eq] at h
    rcases h with hn | h
    · exact ⟨[], n, after, by simp, hn, by simp, hafter⟩
    · cases after with
      | nil => cases h
      | cons c rest =>
        have hc : c ≠ '{' := by simpa using hafter
        rw [hasSingleBrace_cons_of_ne hc] at h
        have hrest : HasOddRun rest := ih rest.length (by simp; omega) h rfl
        have hlast : (List.replicate n '{' ++ [c]).getLast? ≠ some '{' := by simpa using hc
        simpa using hrest.append hlast

theorem hasSingleBrace_iff (cs : List Char) : hasSingleBrace cs = true ↔ HasOddRun cs := by
  refine ⟨hasOddRun_of_hasSingleBrace, ?_⟩
  rintro ⟨before, n, after, rfl, hn, hbefore, hafter⟩
  rw [List.append_assoc, hasSingleBrace_append hbefore, hasSingleBrace_replicate_append n hafter]
  simp [hn]

end Shorthand
