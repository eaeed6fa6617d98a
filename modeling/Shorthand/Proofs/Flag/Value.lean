import Shorthand.Proofs.Flag.Naming
set_option autoImplicit false

namespace Shorthand.Expander

variable {x : Expander} {key word value : String} {flag : Flag} {pre : List String}

theorem expand_given (hflag : x.table.get? key = some flag) (htakes : flag.takesValue)
    (hkey : key ≠ "") (heq : '=' ∉ key.toList) (hword : Names key word)
    (hvalue : Text.startsWith '-' value = false) (hpre : separator ∉ pre) (rest : List String) :
    x.expand (pre ++ [word, value] ++ rest) = x.expand pre ++
      x.single key flag (some value) ++ x.expand rest := by
  obtain ⟨isBundle, htoken⟩ := hword.exists_ofWord? hkey heq
  have hplain := FlagToken.ofWord?_of_not_startsWith hvalue
  have hv : separator ≠ value := by
    intro heq
    exact absurd (heq ▸ hvalue) (by decide)
  have hown : separator ∉ [word, value] := by simp [separator_ne_of_ofWord? htoken, hv]
  have hend : ¬x.AwaitsValue [word, value] := by simp [AwaitsValue, hplain]
  rw [expand_between hpre hown (not_offersValue_cons hword.startsWith _) hend]
  simp [expandHead, reading_eq_single htoken hflag, htakes, hvalue]

theorem expand_assigned (hflag : x.table.get? key = some flag) (hkey : key ≠ "")
    (heq : '=' ∉ key.toList) (hword : Names key word) (value : String) (hpre : separator ∉ pre)
    (rest : List String) :
    x.expand (pre ++ [word ++ "=" ++ value] ++ rest) =
      x.expand pre ++ x.single key flag (some value) ++ x.expand rest := by
  obtain ⟨isBundle, htoken⟩ := hword.exists_ofWord?_assigned hkey heq value
  have hdash : Text.startsWith '-' (word ++ "=" ++ value) = true := by
    rw [String.append_assoc]
    exact Text.startsWith_append hword.startsWith _
  have hown : separator ∉ [word ++ "=" ++ value] :=
    List.mem_singleton.not.2 (separator_ne_of_ofWord? htoken)
  have hend : ¬x.AwaitsValue [word ++ "=" ++ value] := by simp [AwaitsValue, htoken]
  rw [expand_between hpre hown (not_offersValue_cons hdash _) hend]
  simp [expandHead, reading_eq_single htoken hflag]

/-- A value makes the same of a flag, whether it stands in the word of the flag or is the next
word. -/
theorem expand_value_forms {x : Expander} {key value : String} {flag : Flag} {pre : List String}
    (hflag : x.table.get? key = some flag) (hdefaults : flag.defaults ≠ []) (hkey : key ≠ "")
    (heq : '=' ∉ key.toList) (hvalue : Text.startsWith '-' value = false) (hpre : separator ∉ pre)
    (rest : List String) :
    x.expand (pre ++ ["--" ++ key, value] ++ rest) =
      x.expand (pre ++ ["--" ++ key ++ "=" ++ value] ++ rest) ∧
    (Text.startsWith '-' key = false →
      x.expand (pre ++ ["-" ++ key, value] ++ rest) =
        x.expand (pre ++ ["-" ++ key ++ "=" ++ value] ++ rest)) ∧
    ∀ word, Names key word →
      x.expand (pre ++ [word, value] ++ rest) =
        x.expand pre ++ x.single key flag (some value) ++ x.expand rest := by
  have htakes : flag.takesValue := by simpa [Flag.takesValue] using hdefaults
  have hgiven {word : String} (hword : Names key word) :=
    expand_given hflag htakes hkey heq hword hvalue hpre rest
  have hforms {word : String} (hword : Names key word) :=
    (hgiven hword).trans (expand_assigned hflag hkey heq hword value hpre rest).symm
  exact ⟨hforms .long, fun undashed => hforms (.short undashed), fun _ => hgiven⟩

theorem expand_value_forms_outputFlags :
    outputFlags.expand ["-f", "--out", "a =b", "-f"] =
      outputFlags.expand ["-f", "--out=a =b", "-f"] ∧
    outputFlags.expand ["-f", "-out", "a =b", "-f"] = outputFlags.expand ["-f", "-out=a =b", "-f"] ∧
    (outputFlags.expand ["-f", "-out", "a =b", "-f"]).fragments.after = ["-o a =b"] := by
  obtain ⟨flag, hflag, hdefaults⟩ :
      ∃ flag, outputFlags.table.get? "out" = some flag ∧ flag.defaults ≠ [] :=
    ⟨_, rfl, by decide⟩
  have hvalue : Text.startsWith '-' "a =b" = false := by decide
  have hpre : separator ∉ ["-f"] := by decide
  obtain ⟨hlong, hshort, -⟩ :=
    expand_value_forms hflag hdefaults (by decide) (by decide) hvalue hpre ["-f"]
  exact ⟨hlong, hshort (by decide), by decide +kernel⟩

end Shorthand.Expander
