import Shorthand.Flag.Expansion
import Shorthand.Proofs.Override
set_option autoImplicit false

namespace Shorthand

namespace Expansion

variable (e f g : Expansion)

theorem append_assoc : e ++ f ++ g = e ++ (f ++ g) := by
  apply Expansion.ext
  · exact Fragments.append_assoc _ _ _
  · exact SortedMap.override_assoc _ _ _
  · exact List.append_assoc _ _ _
  · exact List.append_assoc _ _ _
  · exact List.append_assoc _ _ _

@[simp] theorem bindings_append : (e ++ f).bindings = e.bindings.override f.bindings := rfl

@[simp] theorem empty_append : {} ++ e = e := by
  apply Expansion.ext
  · exact Fragments.ext rfl rfl
  · exact SortedMap.empty_override _
  · rfl
  · rfl
  · rfl

@[simp] theorem append_empty : e ++ {} = e := by
  apply Expansion.ext
  · exact Fragments.ext (List.append_nil _) (List.append_nil _)
  · exact SortedMap.override_empty _
  · exact List.append_nil _
  · exact List.append_nil _
  · exact List.append_nil _

end Expansion

/-- The words begin with one that a flag before them could take for its value. -/
def OffersValue (words : List String) : Prop :=
  ∃ word ∈ words.head?, Text.startsWith '-' word = false

theorem not_offersValue_cons {word : String} (h : Text.startsWith '-' word = true)
    (rest : List String) :
    ¬OffersValue (word :: rest) := by
  intro ⟨first, hfirst, hdash⟩
  obtain rfl := Option.some.inj hfirst
  exact absurd hdash (by simp [h])

theorem splitAtSeparator_append {a : List String} (h : separator ∉ a) (b : List String) :
    splitAtSeparator (a ++ b) = (a ++ (splitAtSeparator b).1, (splitAtSeparator b).2) := by
  have ha : ∀ word ∈ a, decide (word ≠ separator) = true := by
    intro word hw
    rw [decide_eq_true_eq]
    rintro rfl
    exact h hw
  rw [splitAtSeparator, List.takeWhile_append_of_pos ha, List.dropWhile_append_of_pos ha]
  rfl

theorem offersValue_of_splitAtSeparator {b : List String} (h : OffersValue (splitAtSeparator b).1) :
    OffersValue b := by
  obtain ⟨word, hword, hdash⟩ := h
  refine ⟨word, ?_, hdash⟩
  cases b with
  | nil => simp [splitAtSeparator] at hword
  | cons first rest =>
    by_cases hs : first = separator
    · simp [splitAtSeparator, hs] at hword
    · simpa [splitAtSeparator, hs] using hword

namespace Expander

variable {x : Expander}

/-- The last word is a flag of the table that takes a value and has none. -/
def AwaitsValue (x : Expander) (words : List String) : Prop :=
  ∃ word ∈ words.getLast?, ∃ token flag, FlagToken.ofWord? word = some token ∧ token.value = none ∧
    x.table.get? token.key = some flag ∧ flag.takesValue

theorem token_of_reading_single {word key : String} {flag : Flag} {value : Option String}
    (h : x.reading word = .single key flag value) :
    ∃ token, FlagToken.ofWord? word = some token ∧ token.value = value ∧
      x.table.get? token.key = some flag := by
  unfold reading at h
  split at h
  · cases h
  · rename_i token htoken
    split at h
    · rename_i flag' hflag
      cases h
      exact ⟨token, htoken, rfl, hflag⟩
    · split at h
      · cases hm : x.members? token.key <;> simp [hm] at h
      · cases h

theorem reading_eq_single {word : String} {token : FlagToken} {flag : Flag}
    (h : FlagToken.ofWord? word = some token) (hflag : x.table.get? token.key = some flag) :
    x.reading word = .single token.key flag token.value := by
  simp only [reading, h, hflag]

theorem awaitsValue_of_reading {word key : String} {flag : Flag}
    (h : x.reading word = .single key flag none) (ht : flag.takesValue) : x.AwaitsValue [word] := by
  obtain ⟨token, htoken, hvalue, hflag⟩ := token_of_reading_single h
  exact ⟨word, rfl, token, flag, htoken, hvalue, hflag, ht⟩

theorem AwaitsValue.cons {words : List String} (h : x.AwaitsValue words) (word : String) :
    x.AwaitsValue (word :: words) := by
  obtain ⟨last, hlast, hrest⟩ := h
  refine ⟨last, ?_, hrest⟩
  rw [Option.mem_def, List.getLast?_cons, Option.mem_def.1 hlast]
  rfl

/-- A cut that does not part a flag from its value: no part sees what is in the other. -/
theorem expandHead_append (a b : List String) (h : x.AwaitsValue a → ¬OffersValue b) :
    x.expandHead (a ++ b) = x.expandHead a ++ x.expandHead b := by
  fun_induction expandHead x a with
  | case1 => simp
  | case2 word rest hr ih =>
    have hrest := ih fun hw => h (hw.cons word)
    rw [List.cons_append, expandHead, hr]
    simp only
    rw [hrest, Expansion.append_assoc]
  | case3 word rest flags hr ih =>
    have hrest := ih fun hw => h (hw.cons word)
    rw [List.cons_append, expandHead, hr]
    simp only
    rw [hrest, Expansion.append_assoc]
  | case4 word key flag value hr next rest ht ih =>
    -- The flag and its value are both in front of the cut.
    have hrest := ih fun hw => h ((hw.cons next).cons word)
    rw [List.cons_append, List.cons_append, expandHead, hr]
    simp only [ht, if_true]
    rw [hrest, Expansion.append_assoc]
  | case5 word key flag value hr next rest ht ih =>
    have hrest := ih fun hw => h (hw.cons word)
    rw [List.cons_append] at hrest
    rw [List.cons_append, List.cons_append, expandHead, hr]
    simp only [ht, if_false, Bool.false_eq_true]
    rw [hrest, Expansion.append_assoc]
  | case6 word key flag value hr =>
    cases b with
    | nil => simp [expandHead, hr]
    | cons next rest =>
      -- Only here could the cut stand between a flag and a value.
      have ht : (value.isNone && flag.takesValue && !Text.startsWith '-' next) = false := by
        rw [Bool.eq_false_iff]
        intro ht
        simp only [Bool.and_eq_true, Option.isNone_iff_eq_none, Bool.not_eq_true'] at ht
        obtain ⟨⟨rfl, hf⟩, hn⟩ := ht
        exact h (awaitsValue_of_reading hr hf) ⟨next, rfl, hn⟩
      rw [List.cons_append, List.nil_append, expandHead, hr]
      simp only [ht, if_false, Bool.false_eq_true]

theorem expand_of_not_mem {a : List String} (h : separator ∉ a) : x.expand a = x.expandHead a := by
  have ha := splitAtSeparator_append h []
  rw [List.append_nil] at ha
  rw [expand, ha]
  simp [splitAtSeparator, Expansion.ofWords]

theorem expand_append {a b : List String} (hs : separator ∉ a)
    (hv : ¬(x.AwaitsValue a ∧ OffersValue b)) :
    x.expand (a ++ b) = x.expand a ++ x.expand b := by
  have hcut : x.AwaitsValue a → ¬OffersValue (splitAtSeparator b).1 := fun ha hb =>
    hv ⟨ha, offersValue_of_splitAtSeparator hb⟩
  rw [expand_of_not_mem hs, expand, splitAtSeparator_append hs, expand]
  simp only
  rw [expandHead_append _ _ hcut, Expansion.append_assoc]

theorem expand_between {a b c : List String} (ha : separator ∉ a) (hb : separator ∉ b)
    (hstart : ¬OffersValue (b ++ c)) (hend : ¬x.AwaitsValue b) :
    x.expand (a ++ b ++ c) = x.expand a ++ x.expandHead b ++ x.expand c := by
  rw [List.append_assoc, expand_append ha fun h => hstart h.2, expand_append hb fun h => hend h.1,
    expand_of_not_mem hb, Expansion.append_assoc]

/-- The fields of the expansion of a command line that is cut in two. -/
theorem expand_append_fields {x : Expander} {a b : List String} (hs : separator ∉ a)
    (hv : ¬(x.AwaitsValue a ∧ OffersValue b)) :
    (x.expand (a ++ b)).fragments.before =
      (x.expand a).fragments.before ++ (x.expand b).fragments.before ∧
    (x.expand (a ++ b)).fragments.after =
      (x.expand a).fragments.after ++ (x.expand b).fragments.after ∧
    (x.expand (a ++ b)).passthrough = (x.expand a).passthrough ++ (x.expand b).passthrough ∧
    (x.expand (a ++ b)).internal = (x.expand a).internal ++ (x.expand b).internal ∧
    (x.expand (a ++ b)).applied = (x.expand a).applied ++ (x.expand b).applied ∧
    ∀ name, (x.expand (a ++ b)).bindings.get? name =
      ((x.expand b).bindings.get? name).or ((x.expand a).bindings.get? name) := by
  rw [expand_append hs hv]
  refine ⟨rfl, rfl, rfl, rfl, rfl, fun name => ?_⟩
  exact SortedMap.get?_override _ _ _

/-- A flag with a value that is seen in its rendering, and one that would show a leak of it. -/
def outputFlags : Expander where
  table := .ofList [
    ("f", { kind := .environment, templates := [⟨"F={{out}}", .start⟩] }),
    ("out",
      { kind := .expandable, templates := [⟨"-o {{out}}", .finish⟩], defaults := [("out", "a")] })]
  shell := .linux

theorem expand_append_fields_outputFlags :
    (outputFlags.expand ["x", "--out", "-f", "--out", "y", "--", "z"]).fragments.before = ["F="] ∧
    (outputFlags.expand ["x", "--out", "-f", "--out", "y", "--", "z"]).fragments.after =
      ["-o a", "-o y"] ∧
    (outputFlags.expand ["x", "--out", "-f", "--out", "y", "--", "z"]).passthrough =
      ["x", "--", "z"] := by
  have hs : separator ∉ ["x", "--out"] := by decide
  have hv :
      ¬(outputFlags.AwaitsValue ["x", "--out"] ∧ OffersValue ["-f", "--out", "y", "--", "z"]) := by
    rintro ⟨-, word, hword, hdash⟩
    cases hword
    exact absurd hdash (by decide)
  obtain ⟨hbefore, hafter, hpass, -⟩ := expand_append_fields hs hv
  refine ⟨hbefore.trans ?_, hafter.trans ?_, hpass.trans ?_⟩ <;> decide +kernel

end Expander

end Shorthand
