import Shorthand.Invocation.Assembly
import Shorthand.Proofs.Words.Unchanged
/-!
Fragments behind the command. A fragment with white space is split and loses its quotes; one without
is a single word as it stands, quotes included.
-/
set_option autoImplicit false

namespace Shorthand

open Words (NulFree isBare quoted)

theorem opened_of_isBlank {c : Char} (h : Text.isBlank c = true) : Words.Mode.opened c = .bare := by
  have hne {d : Char} (hd : Text.isBlank d = false) : c ≠ d := by
    rintro rfl
    rw [hd] at h
    cases h
  rw [Words.Mode.opened, if_neg (hne (by decide)), if_neg (hne (by decide)),
    if_neg (hne (by decide))]

theorem isBlank_of_isSeparator {c : Char} (h : Words.isSeparator c = true) :
    Text.isBlank c = true := by
  simp only [Words.isSeparator, Bool.or_eq_true, decide_eq_true_eq] at h
  rcases h with (rfl | rfl) | rfl <;> decide

theorem fragmentWords_unbroken {fragment : String}
    (h : ¬∃ c ∈ fragment.toList, Text.isBlank c = true) :
    fragmentWords fragment = [fragment] := by
  rw [fragmentWords, if_neg (by simpa using h)]

theorem fragmentWords_broken {fragment : String} {words : List String}
    (h : ∃ c ∈ fragment.toList, Text.isBlank c = true) (hsplit : Words.split fragment = some words)
    (hne : words ≠ []) : fragmentWords fragment = words := by
  have hsome : Words.splitSome fragment = some words :=
    Option.filter_eq_some_iff.2 ⟨hsplit, by simpa using hne⟩
  rw [fragmentWords, if_pos (by simpa using h), hsome]
  rfl

theorem fragmentWords_of_split_none {fragment : String} (h : Words.split fragment = none) :
    fragmentWords fragment = [fragment] := by
  simp [fragmentWords, Words.splitSome, h]

theorem exists_blank_join_iff {words : List String} {line : String} (hne : words ≠ [])
    (h : ∀ w ∈ words, NulFree w) (hline : Words.join words = some line) :
    (∃ c ∈ line.toList, Text.isBlank c = true) ↔
      ∀ w, words = [w] → ∃ c ∈ w.toList, Text.isBlank c = true := by
  rw [Words.join_of_nulFree h] at hline
  obtain rfl := Option.some.inj hline
  rw [String.toList_ofList]
  match words, hne with
  | [w], _ =>
    have hmem {c : Char} (hc : Text.isBlank c = true) : c ∈ quoted w.toList ↔ c ∈ w.toList :=
      Words.mem_quoted_iff (opened_of_isBlank hc)
    constructor
    · rintro ⟨c, hc, hblank⟩ _ ⟨⟩
      exact ⟨c, (hmem hblank).1 (by simpa using hc), hblank⟩
    · intro hw
      obtain ⟨c, hc, hblank⟩ := hw w rfl
      exact ⟨c, by simpa using (hmem hblank).2 hc, hblank⟩
  | v :: w :: rest, _ =>
    -- Between two words there is a blank, whatever they are.
    have hblank : ' ' ∈ [' '].intercalate ((v :: w :: rest).map fun w => quoted w.toList) := by simp
    exact iff_of_true ⟨' ', hblank, rfl⟩ (by simp)

theorem toList_join_singleton {w line : String} (h : NulFree w)
    (hline : Words.join [w] = some line) :
    line.toList = quoted w.toList := by
  rw [Words.join_of_nulFree (by simpa using h)] at hline
  obtain rfl := Option.some.inj hline
  simp

/-- A joined line comes back as its words, unless it is one word that had to be put in quotes
although there is no white space in it. Then the word behind the command is the line, with the
quotes. -/
theorem fragmentWords_join_iff {words : List String} (hne : words ≠ [])
    (h : ∀ w ∈ words, NulFree w) :
    ∃ line, Words.join words = some line ∧
      (fragmentWords line = words ↔ ∀ w, words = [w] →
        (∃ c ∈ w.toList, Text.isBlank c = true) ∨ w ≠ "" ∧ ∀ c ∈ w.toList, isBare c = true) ∧
      (fragmentWords line ≠ words → fragmentWords line = [line]) := by
  obtain ⟨line, hline⟩ : ∃ line, Words.join words = some line := ⟨_, Words.join_of_nulFree h⟩
  have hblank := exists_blank_join_iff hne h hline
  refine ⟨line, hline, ?_⟩
  by_cases hbroken : ∃ c ∈ line.toList, Text.isBlank c = true
  · have hsplit := fragmentWords_broken hbroken (Words.split_join h hline) hne
    exact ⟨iff_of_true hsplit fun w hw => .inl (hblank.1 hbroken w hw),
      fun hlost => absurd hsplit hlost⟩
  · have hsplit := fragmentWords_unbroken hbroken
    refine ⟨?_, fun _ => hsplit⟩
    obtain ⟨w, hw⟩ := Classical.not_forall.1 (mt hblank.2 hbroken)
    obtain ⟨rfl, hw⟩ := Classical.not_imp.1 hw
    have hself : line = w ↔ w ≠ "" ∧ ∀ c ∈ w.toList, isBare c = true := by
      rw [← String.toList_inj, toList_join_singleton (h w (by simp)) hline,
        Words.quoted_eq_self_iff]
      simp
    rw [hsplit]
    constructor
    · rintro heq _ ⟨⟩
      exact .inr (hself.1 (List.cons.inj heq).1)
    · intro hall
      rw [hself.2 ((hall w rfl).resolve_left fun hblank => hw fun _ => hblank)]

theorem fragmentWords_join_several :
    (∃ line, Words.join ["--a", "--b=x"] = some line ∧ fragmentWords line = ["--a", "--b=x"]) ∧
      ∃ line, Words.join ["--b=x y"] = some line ∧ fragmentWords line = ["--b=x y"] := by
  have hseveral : ["--a", "--b=x"] ≠ [] := by decide
  have hbroken : ["--b=x y"] ≠ [] := by decide
  refine ⟨?_, ?_⟩
  · obtain ⟨line, hline, hsame, -⟩ := fragmentWords_join_iff hseveral (by decide)
    exact ⟨line, hline, hsame.2 (by simp)⟩
  · obtain ⟨line, hline, hsame, -⟩ := fragmentWords_join_iff hbroken (by decide)
    refine ⟨line, hline, hsame.2 fun w hw => .inl ?_⟩
    obtain rfl := (List.cons.inj hw).1
    exact ⟨' ', by decide, by decide⟩

theorem fragmentWords_join_ne :
    Words.join ["--b=x"] = some "'--b=x'" ∧ Words.split "'--b=x'" = some ["--b=x"] ∧
      fragmentWords "'--b=x'" = ["'--b=x'"] := by
  refine ⟨by decide +kernel, by decide +kernel, by decide +kernel⟩

end Shorthand
