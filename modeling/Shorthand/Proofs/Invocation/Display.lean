import Shorthand.Invocation.Assembly
import Shorthand.Proofs.Words.Quoting
set_option autoImplicit false

namespace Shorthand

namespace Assignment

theorem isBare_of_isNameChar {c : Char} (h : isNameChar c = true) : Words.isBare c = true := by
  simp only [isNameChar, Bool.or_eq_true, decide_eq_true_eq] at h
  rcases h with h | h <;> simp [Words.isBare, h]

theorem isNameChar_of_isNameStart {c : Char} (h : isNameStart c = true) : isNameChar c = true := by
  simp only [isNameStart, isNameChar, Char.isAlphanum, Bool.or_eq_true] at h ⊢
  rcases h with h | h <;> simp [h]

theorem isNameChar_of_isName {s : List Char} (h : isName s = true) :
    ∀ c ∈ s, isNameChar c = true := by
  cases s with
  | nil => simp
  | cons c r =>
    simp only [isName, Bool.and_eq_true, List.all_eq_true] at h
    exact List.forall_mem_cons.2 ⟨isNameChar_of_isNameStart h.1, h.2⟩

theorem read_name {n : List Char} (hn : isName n = true) (r : List Char) :
    Words.read .gap (n ++ '=' :: r) = (Words.read .bare r).map (Words.extend (n ++ ['='])) := by
  have hbare : ∀ c ∈ n, Words.isBare c = true :=
    fun c hc => isBare_of_isNameChar (isNameChar_of_isName hn c hc)
  have hne : n ≠ [] := by rintro rfl; cases hn
  have hkeeps : ∀ c ∈ n, Words.Style.bare.Keeps c := hbare
  have hgap := Words.read_gap_write hkeeps hne ('=' :: r)
  simp only [Words.Style.write] at hgap
  rw [hgap, Words.read_bare_bare hbare, Words.read, if_neg (by decide), if_pos (by decide),
    Words.map_extend_extend]

theorem isName_of_takeName? {s n r : List Char} (h : takeName? s = some (n, r)) :
    isName n = true := by
  simp only [takeName?] at h
  split at h
  · rename_i hn
    simp only [Option.some.injEq, Prod.mk.injEq] at h
    exact h.1 ▸ hn
  · cases h

theorem isName_of_pwsh? {s n v : List Char} (h : pwsh? s = some (n, v)) : isName n = true := by
  simp only [pwsh?, Option.bind_eq_bind] at h
  split at h
  · cases h
  · obtain ⟨⟨name, r⟩, hname, h⟩ := Option.bind_eq_some_iff.1 h
    obtain ⟨value, -, h⟩ := Option.bind_eq_some_iff.1 h
    split at h
    · cases h
    · obtain rfl : name = n := congrArg Prod.fst (Option.some.inj h)
      exact isName_of_takeName? hname

theorem isName_of_cmd? {s n v : List Char} (h : cmd? s = some (n, v)) : isName n = true := by
  simp only [cmd?, Option.bind_eq_bind] at h
  split at h
  · cases h
  · split at h
    · cases h
    · obtain ⟨⟨name, r⟩, hname, h⟩ := Option.bind_eq_some_iff.1 h
      obtain ⟨value, -, h⟩ := Option.bind_eq_some_iff.1 h
      split at h
      · obtain rfl : name = n := congrArg Prod.fst (Option.some.inj h)
        exact isName_of_takeName? hname
      · cases h

theorem isName_of_posix? {s : String} {n v : List Char} (h : posix? s = some (n, v)) :
    isName n = true := by
  unfold posix? at h
  split at h
  · exact (Option.filter_eq_some_iff.1 h).2
  · cases h

/-- Whatever the style of a fragment is, the variable that it sets has a name as a shell knows
them. -/
theorem isName_of_ofFragment? {fragment name value : String}
    (h : ofFragment? fragment = some (name, value)) : isName name.toList = true := by
  simp only [ofFragment?, Option.map_eq_some_iff, Option.or_eq_some_iff, Prod.mk.injEq] at h
  obtain ⟨⟨n, v⟩, h, rfl, -⟩ := h
  rw [String.toList_ofList]
  rcases h with h | ⟨-, h | ⟨-, h⟩⟩
  · exact isName_of_pwsh? h
  · exact isName_of_cmd? h
  · exact isName_of_posix? h

end Assignment

namespace Invocation

def lineWords (i : Invocation) : List String :=
  i.environment.map (fun v => v.1 ++ "=" ++ v.2) ++ i.words

structure IsNulFree (i : Invocation) : Prop where
  words : ∀ w ∈ i.words, Words.NulFree w
  values : ∀ v ∈ i.environment, Words.NulFree v.2

theorem isWritten_displayVariable {v : String × String} (hn : Assignment.isName v.1.toList = true)
    (hv : Words.NulFree v.2) :
    Words.IsWritten (displayVariable v).toList (v.1 ++ "=" ++ v.2).toList := by
  intro tail
  have htext : (displayVariable v).toList = v.1.toList ++ '=' :: Words.quoted v.2.toList := by
    simp [displayVariable, Words.quote_of_nulFree hv]
  rw [htext, List.append_assoc, List.cons_append, Assignment.read_name hn, Words.read_quoted,
    Words.map_extend_extend]
  simp

theorem read_displayCommand {program : String} {args : List String}
    (h : ∀ w ∈ program :: args, Words.NulFree w) :
    Words.read .gap (displayCommand program args).toList =
      some ((program :: args).map String.toList) := by
  obtain ⟨line, hl⟩ : ∃ line, Words.join (program :: args) = some line :=
    ⟨_, Words.join_of_nulFree h⟩
  rw [displayCommand, hl, Option.getD_some]
  exact Words.read_join h hl

/-- The line that is shown for a process reads back as its variables, its program and its
arguments. -/
theorem split_display {i : Invocation}
    (hn : ∀ v ∈ i.environment, Assignment.isName v.1.toList = true) (h : i.IsNulFree) :
    Words.split i.display = some i.lineWords := by
  have hread := Words.read_intercalate_append
    (fun v hv => isWritten_displayVariable (hn v hv) (h.values v hv)) (read_displayCommand h.words)
  have htext : i.display.toList = [' '].intercalate
      (i.environment.map (fun v => (displayVariable v).toList) ++
        [(displayCommand i.program i.args).toList]) := by
    simp [display, String.toList_intercalate, Function.comp_def]
  rw [Words.split, htext, hread]
  simp [lineWords, words, Function.comp_def, String.append_assoc]

theorem environment_of_assemble {shell : Shell} {before command : List String} {i : Invocation}
    (h : assemble shell before command = .ok i) :
    i.environment = before.filterMap Assignment.ofFragment? := by
  simp only [assemble] at h
  split at h
  · cases h
  · obtain rfl := Except.ok.inj h
    rfl
  · cases hl : Script.line shell (_ :: _) with
    | error e => rw [hl] at h; cases h
    | ok line =>
      rw [hl] at h
      obtain rfl := Except.ok.inj h
      rfl

theorem isName_of_build {shell : Shell} {base : List String} {e : Expansion} {i : Invocation}
    (h : build shell base e = .ok i) :
    ∀ v ∈ i.environment, Assignment.isName v.1.toList = true := by
  intro v hv
  rw [environment_of_assemble h] at hv
  obtain ⟨f, -, hf⟩ := List.mem_filterMap.1 hv
  exact Assignment.isName_of_ofFragment? hf

end Invocation

end Shorthand
