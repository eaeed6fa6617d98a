import Shorthand.Proofs.Invocation.Display
import Shorthand.Proofs.Script.PwshLine
import Shorthand.Proofs.Text.Blank
/-!
Assignments written down and read back. What is shown for a process and what cmd would be given come
back with the very value. What PowerShell would be given does so only without line feeds and single
quotes: a line feed keeps the fragment from being an assignment, and a quote that was doubled stays
doubled.
-/
set_option autoImplicit false

namespace Shorthand

namespace Words

theorem toNat_of_isAlphanum {c : Char} (h : c.isAlphanum = true) :
    48 ≤ c.toNat ∧ c.toNat ≤ 122 := by
  have hranges :
      ((65 ≤ c.val ∧ c.val ≤ 90 : Bool) || (decide (97 ≤ c.val) && decide (c.val ≤ 122)) ||
      (decide (48 ≤ c.val) && decide (c.val ≤ 57))) = true := h
  simp only [Bool.or_eq_true, Bool.and_eq_true, decide_eq_true_eq,
    UInt32.le_iff_toNat_le] at hranges
  change ((65 ≤ c.toNat ∧ c.toNat ≤ 90) ∨ (97 ≤ c.toNat ∧ c.toNat ≤ 122)) ∨
    (48 ≤ c.toNat ∧ c.toNat ≤ 57) at hranges
  omega

theorem isBlank_of_isBare {c : Char} (h : isBare c = true) : Text.isBlank c = false := by
  rw [Bool.eq_false_iff]
  intro hb
  simp [Text.isBlank, Text.inRanges, Text.blankRanges] at hb
  have hrange : c.toNat ≤ 32 ∨ 128 ≤ c.toNat := by omega
  cases halphanum : c.isAlphanum with
  | true =>
    have hletter := toNat_of_isAlphanum halphanum
    omega
  | false =>
    simp [isBare, halphanum, ← Char.toNat_inj] at h
    omega

theorem getLast?_write {style : Style} {chunk : List Char} (h : ∀ c ∈ chunk, style.Keeps c) :
    ∀ c ∈ (style.write chunk).getLast?, Text.isBlank c = false := by
  intro c hc
  cases style with
  | bare => exact isBlank_of_isBare (h c (List.mem_of_getLast? hc))
  | single | double =>
    rw [Style.write, List.getLast?_concat] at hc
    obtain rfl := Option.some.inj hc
    decide

theorem getLast?_writeChunks {styles : List Style} {chunk : List Char} (rest : List Char)
    (h : Left styles chunk) :
    ∀ c ∈ (writeChunks styles chunk rest).getLast?, Text.isBlank c = false := by
  induction rest generalizing styles chunk with
  | nil => exact getLast?_write h.preferred_keeps
  | cons c r ih =>
    rw [writeChunks]
    split
    · intro d hd
      rw [List.getLast?_append, Option.mem_def, Option.or_eq_some_iff] at hd
      rcases hd with hd | ⟨-, hd⟩
      · exact ih (left_stylesOf c) d hd
      · exact getLast?_write h.preferred_keeps d hd
    · rename_i s ss hf
      exact ih (hf ▸ h.cons (by rw [hf]; simp))

/-- A quoted word does not end in white space, even if the word does. -/
theorem getLast?_quoted (word : List Char) :
    ∀ c ∈ (quoted word).getLast?, Text.isBlank c = false := by
  cases word with
  | nil => simp [quoted]; decide
  | cons c r => exact getLast?_writeChunks r (left_stylesOf c)

end Words

namespace Assignment

open Text (isBlank dropBlank dropBlankEnd)
open Words (NulFree)

theorem isBlank_of_isNameChar {c : Char} (h : isNameChar c = true) : isBlank c = false :=
  Words.isBlank_of_isBare (isBare_of_isNameChar h)

theorem isBlank_of_mem_head?_name {n : List Char} (hn : isName n = true) (r : List Char) :
    ∀ c ∈ (n ++ r).head?, isBlank c = false := by
  cases n with
  | nil => cases hn
  | cons c n =>
    intro d hd
    obtain rfl := Option.some.inj hd
    exact isBlank_of_isNameChar (isNameChar_of_isName hn c (by simp))

theorem takeName?_append {n r : List Char} (hn : isName n = true)
    (hr : ∀ c ∈ r.head?, isNameChar c = false) :
    takeName? (n ++ r) = some (n, r) := by
  obtain ⟨htake, hdrop⟩ := Text.stretch_append (isNameChar_of_isName hn) hr
  simp [takeName?, htake, hdrop, hn]

theorem pwsh?_name {n : List Char} (hn : isName n = true) (r : List Char) :
    pwsh? (n ++ r) = none := by
  cases n with
  | nil => cases hn
  | cons c n =>
    have hc : c ≠ '$' := by
      rintro rfl
      exact absurd (isNameChar_of_isName hn '$' (by simp)) (by decide)
    simp [pwsh?, List.isPrefixOf, Ne.symm hc]

/-- No blank stands behind the third letter, even of the name `set`. -/
theorem cmd?_name {n : List Char} (hn : isName n = true) (r : List Char) :
    cmd? (n ++ '=' :: r) = none := by
  have hblank : ∀ c ∈ n, isBlank c = false :=
    fun c hc => isBlank_of_isNameChar (isNameChar_of_isName hn c hc)
  match n, hblank with
  | [], _ => cases hn
  | [a], _ => cases r <;> simp [cmd?, isSet]
  | [a, b], _ => simp [cmd?, isSet]
  | [a, b, c], _ => simp [cmd?, show isBlank '=' = false by decide]
  | a :: b :: c :: d :: n, hblank => simp [cmd?, hblank d (by simp)]

theorem posix?_eq_some_iff {s : String} {n v : List Char} :
    posix? s = some (n, v) ↔ isName n = true ∧ Words.read .gap s.toList = some [n ++ '=' :: v] := by
  constructor
  · intro h
    unfold posix? at h
    split at h
    · rename_i word hword
      obtain ⟨hcut, hn⟩ := Option.filter_eq_some_iff.1 h
      obtain ⟨ws, hread, hmap⟩ := Option.map_eq_some_iff.1 hword
      obtain ⟨w, rfl, rfl⟩ := List.map_eq_singleton_iff.1 hmap
      rw [String.toList_ofList] at hcut
      exact ⟨hn, hread.trans (by rw [(Text.eq_of_cutChars hcut).1])⟩
    · cases h
  · rintro ⟨hn, hread⟩
    have hsign : '=' ∉ n := fun h => absurd (isNameChar_of_isName hn '=' h) (by decide)
    simp [posix?, Words.split, hread, Text.cutChars_append hsign, hn]

/-- A text that begins with a name and its sign is read as the one word of a POSIX shell or not at
all. -/
theorem posix?_name {fragment : String} {n text v : List Char} (hn : isName n = true)
    (htext : fragment.toList = n ++ '=' :: text) (hlast : ∀ c ∈ text.getLast?, isBlank c = false)
    (hread : Words.read .bare text = some [v]) :
    Text.trim fragment = fragment ∧ pwsh? fragment.toList = none ∧ cmd? fragment.toList = none ∧
      posix? fragment = some (n, v) := by
  have hend : ∀ c ∈ fragment.toList.getLast?, isBlank c = false := by
    intro c hc
    rw [htext, List.getLast?_append, List.getLast?_cons, Option.some_or] at hc
    obtain rfl := Option.some.inj hc
    cases h : text.getLast? with
    | none => decide
    | some d => exact hlast d h
  have hword : Words.read .gap fragment.toList = some [n ++ '=' :: v] := by
    simp [htext, read_name hn, hread, Words.extend]
  rw [htext] at hend ⊢
  exact ⟨Text.trim_eq_self (htext ▸ isBlank_of_mem_head?_name hn _) (htext ▸ hend), pwsh?_name hn _,
    cmd?_name hn text, posix?_eq_some_iff.2 ⟨hn, hword⟩⟩

theorem ofFragment?_eq_posix? {fragment : String} (ht : Text.trim fragment = fragment)
    (hp : pwsh? fragment.toList = none) (hc : cmd? fragment.toList = none) :
    ofFragment? fragment = (posix? fragment).map fun p => (.ofList p.1, .ofList p.2) := by
  simp [ofFragment?, ht, hp, hc]

theorem ofFragment?_eq_cmd? {fragment : String} {n v : List Char}
    (ht : Text.trim fragment = fragment) (hp : pwsh? fragment.toList = none)
    (hc : cmd? fragment.toList = some (n, v)) :
    ofFragment? fragment = some (.ofList n, .ofList v) := by
  simp [ofFragment?, ht, hp, hc]

theorem ofFragment?_displayVariable {name value : String} (hn : isName name.toList = true)
    (hv : NulFree value) :
    ofFragment? (Invocation.displayVariable (name, value)) = some (name, value) := by
  have htext : (Invocation.displayVariable (name, value)).toList = name.toList ++
    '=' :: Words.quoted value.toList := by
    simp [Invocation.displayVariable, Words.quote_of_nulFree hv]
  have hread : Words.read .bare (Words.quoted value.toList) = some [value.toList] := by
    simpa [Words.read, Words.extend] using Words.read_quoted value.toList []
  obtain ⟨htrim, hpwsh, hcmd, hposix⟩ :=
    posix?_name hn htext (Words.getLast?_quoted value.toList) hread
  simp [ofFragment?_eq_posix? htrim hpwsh hcmd, hposix]

theorem dropOne_opening {n opening : List Char} (hn : isName n = true)
    (ho : opening = [] ∨ opening = ['"']) (r : List Char) :
    dropOne '"' (dropBlank (opening ++ (n ++ r))) = n ++ r := by
  rcases ho with rfl | rfl
  · rw [List.nil_append, Text.dropBlank_eq_self (isBlank_of_mem_head?_name hn r)]
    cases n with
    | nil => cases hn
    | cons c n =>
      have hc : c ≠ '"' := by
        rintro rfl
        exact absurd (isNameChar_of_isName hn '"' (by simp)) (by decide)
      simp [dropOne, hc]
  · rfl

theorem cmd?_set {n body back opening : List Char} (hn : isName n = true)
    (ho : opening = [] ∨ opening = ['"']) (hbody : ∀ c ∈ body, c ≠ '"' ∧ c ≠ '&')
    (hback : ∀ c ∈ back.head?, c = '"' ∨ c = '&')
    (hend : dropBlank (dropOne '&' (dropOne '&' (dropBlank (dropOne '"' back)))) = []) :
    cmd? ("set ".toList ++ (opening ++ (n ++ '=' :: (body ++ back)))) =
      some (n, dropBlankEnd body) := by
  have hstop : ∀ c ∈ back.head?, (!decide (c = '"') && !decide (c = '&')) = false := by
    intro c hc
    rcases hback c hc with rfl | rfl <;> rfl
  obtain ⟨htake, hdrop⟩ := Text.stretch_append (a := body) (by simpa using hbody) hstop
  have hname : takeName? (n ++ '=' :: (body ++ back)) = some (n, '=' :: (body ++ back)) :=
    takeName?_append hn (by simp; decide)
  have hopen : dropOne '"' (dropBlank (' ' :: (opening ++ (n ++ '=' :: (body ++ back))))) =
      n ++ '=' :: (body ++ back) := dropOne_opening hn ho _
  have hset : isSet ['s', 'e', 't'] = true := by decide
  have hspace : isBlank ' ' = true := by decide
  simp [cmd?, hset, hspace, hopen, hname, expect, htake, hdrop, hend]

theorem ofFragment?_set {name value text : String} (opening gap back : List Char)
    (hn : isName name.toList = true) (hv : ∀ c ∈ value.toList, c ≠ '"' ∧ c ≠ '&')
    (he : ∀ c ∈ value.toList.getLast?, isBlank c = false) (ho : opening = [] ∨ opening = ['"'])
    (hgap : gap = [] ∨ gap = [' ']) (hback : ∀ c ∈ back.head?, c = '"' ∨ c = '&')
    (hend : dropBlank (dropOne '&' (dropOne '&' (dropBlank (dropOne '"' back)))) = [])
    (hlast : back.getLast? = some '&')
    (htext : text.toList = "set ".toList ++
      (opening ++ (name.toList ++ '=' :: ((value.toList ++ gap) ++ back)))) :
    ofFragment? text = some (name, value) := by
  have htrim : Text.trim text = text := by
    refine Text.trim_eq_self ?_ ?_
    · rw [htext]; simp; decide
    · rw [htext]; simp [List.getLast?_append, List.getLast?_cons, hlast]; decide
  have hblank : ∀ c ∈ gap, isBlank c = true := by
    rcases hgap with rfl | rfl <;> simp [show isBlank ' ' = true by decide]
  have hbody : ∀ c ∈ value.toList ++ gap, c ≠ '"' ∧ c ≠ '&' :=
    List.forall_mem_append.2 ⟨hv, by rcases hgap with rfl | rfl <;> simp⟩
  have hpwsh : pwsh? text.toList = none := by rw [htext]; rfl
  have hcmd := cmd?_set hn ho hbody hback hend
  rw [Text.dropBlankEnd_append hblank, Text.dropBlankEnd_eq_self he, ← htext] at hcmd
  rw [ofFragment?_eq_cmd? htrim hpwsh hcmd, String.ofList_toList, String.ofList_toList]

/-- The value of a variable comes back unchanged from the text that is shown for it, and so it does
from a setting for cmd, in quotes or not, if it holds no quote and no `&` and ends in no white
space. -/
theorem ofFragment?_written {name : String} (hn : isName name.toList = true) (value : String) :
    (NulFree value → ∃ quoted, Words.quote value = some quoted ∧
      Invocation.displayVariable (name, value) = name ++ "=" ++ quoted ∧
      ofFragment? (name ++ "=" ++ quoted) = some (name, value)) ∧
    ('"' ∉ value.toList → '&' ∉ value.toList → (∀ c ∈ value.toList.getLast?, isBlank c = false) →
      ofFragment? ("set " ++ name ++ "=" ++ value ++ " &&") = some (name, value) ∧
      ofFragment? ("set \"" ++ name ++ "=" ++ value ++ "\" &&") = some (name, value)) := by
  refine ⟨fun hv => ?_, fun hquote hand he => ?_⟩
  · have hshown : Invocation.displayVariable (name, value) = name ++
      "=" ++ .ofList (Words.quoted value.toList) := by
      rw [Invocation.displayVariable, Words.quote_of_nulFree hv, Option.getD_some]
    exact ⟨_, Words.quote_of_nulFree hv, hshown, hshown ▸ ofFragment?_displayVariable hn hv⟩
  · have hv : ∀ c ∈ value.toList, c ≠ '"' ∧ c ≠ '&' := fun c hc =>
      ⟨fun h => hquote (h ▸ hc), fun h => hand (h ▸ hc)⟩
    constructor
    · exact ofFragment?_set [] [' '] "&&".toList hn hv he (.inl rfl) (.inr rfl)
        (by simp) (by decide) rfl (by simp)
    · exact ofFragment?_set ['"'] [] "\" &&".toList hn hv he (.inr rfl) (.inl rfl)
        (by simp) (by decide) rfl (by simp)

/-- A value with a quote, a line break, `=` and `|`, for a variable with the name of a command. -/
theorem ofFragment?_written_set :
    isName "set".toList = true ∧
      NulFree " it's=|\n b" ∧ '"' ∉ " it's=|\n b".toList ∧ '&' ∉ " it's=|\n b".toList ∧
    (∀ c ∈ " it's=|\n b".toList.getLast?, isBlank c = false) ∧
    ofFragment? "set=\" it's=|\n b\"" = some ("set", " it's=|\n b") ∧
    ofFragment? "set set= it's=|\n b &&" = some ("set", " it's=|\n b") ∧
    ofFragment? "set \"set= it's=|\n b\" &&" = some ("set", " it's=|\n b") := by
  have hn : isName "set".toList = true := by decide +kernel
  have hv : NulFree " it's=|\n b" := by decide +kernel
  have hquote : '"' ∉ " it's=|\n b".toList := by decide +kernel
  have hand : '&' ∉ " it's=|\n b".toList := by decide +kernel
  have he : ∀ c ∈ " it's=|\n b".toList.getLast?, isBlank c = false := by simp; decide
  obtain ⟨hshown, hset⟩ := ofFragment?_written hn " it's=|\n b"
  obtain ⟨quoted, hq, -, hposix⟩ := hshown hv
  obtain rfl : "\" it's=|\n b\"" = quoted :=
    Option.some.inj
      ((by decide +kernel : some "\" it's=|\n b\"" = Words.quote " it's=|\n b").trans hq)
  exact ⟨hn, hv, hquote, hand, he, hposix, hset hquote hand he⟩

/-- The text that sets a variable in PowerShell. -/
def pwshSpelling (name value : String) : String :=
  "$env:" ++ name ++ "=" ++ .ofList (Script.quotePwsh value.toList) ++ ";"

theorem toList_pwshSpelling (name value : String) : (pwshSpelling name value).toList =
    "$env:".toList ++ (name.toList ++ '=' :: (Script.quotePwsh value.toList ++ [';'])) := by
  simp [pwshSpelling]

theorem isBlank_ends_quotePwsh (v : List Char) :
    (∀ c ∈ (Script.quotePwsh v).head?, isBlank c = false) ∧
    (∀ c ∈ (Script.quotePwsh v).getLast?, isBlank c = false) := by
  rcases Script.quotePwsh_cases v with hq | ⟨hq, -, hplain⟩
  · rw [hq, List.getLast?_concat]
    exact ⟨by simp; decide, by simp; decide⟩
  · have hblank : ∀ c ∈ v, isBlank c = false := by
      intro c hc
      have h := hplain c hc
      simp only [Script.isPlainPwsh, Bool.and_eq_true, Bool.not_eq_true'] at h
      exact h.1
    rw [hq]
    exact ⟨fun c hc => hblank c (List.mem_of_mem_head? hc),
      fun c hc => hblank c (List.mem_of_getLast? hc)⟩

theorem unquote_of_head? {s : List Char} (h : ∀ c ∈ s.head?, c ≠ '\'' ∧ c ≠ '"') :
    unquote s = s := by
  cases s with
  | nil => rfl
  | cons c r =>
    obtain ⟨hsingle, hdouble⟩ := h c rfl
    simp [unquote, unquoteWith, expect, hsingle, hdouble]

/-- The quotes around a value are taken off, and those within it stay as they were written. -/
theorem unquote_quotePwsh (v : List Char) : unquote (Script.quotePwsh v) = Script.doubled v := by
  rcases Script.quotePwsh_cases v with hq | ⟨hq, -, hplain⟩
  · rw [hq]
    simp [unquote, unquoteWith, expect]
  · have hne {c d : Char} (hc : c ∈ v) (hd : Script.isPlainPwsh d = false) : c ≠ d :=
      Script.ne_of_isPlainPwsh (hplain c hc) hd
    have hdoubled : Script.doubled v = v :=
      Script.doubled_eq_self_iff.2 fun h => hne h (by decide) rfl
    rw [hq, hdoubled]
    refine unquote_of_head? fun c hc => ?_
    have hmem : c ∈ v := List.mem_of_mem_head? hc
    exact ⟨hne hmem (by decide), hne hmem (by decide)⟩

@[simp] theorem mem_quotePwsh_break (v : List Char) : '\n' ∈ Script.quotePwsh v ↔ '\n' ∈ v := by
  rcases Script.quotePwsh_cases v with hq | ⟨hq, -, -⟩
  · simp [hq]
  · rw [hq]

theorem pwsh?_spelled {n : List Char} (hn : isName n = true) (v : List Char) :
    pwsh? ("$env:".toList ++ (n ++ '=' :: (Script.quotePwsh v ++ [';']))) =
      if '\n' ∈ v then none else some (n, Script.doubled v) := by
  obtain ⟨hfirst, hlast⟩ := isBlank_ends_quotePwsh v
  have hname : takeName? (n ++ '=' :: (Script.quotePwsh v ++ [';'])) =
    some (n, '=' :: (Script.quotePwsh v ++ [';'])) :=
    takeName?_append hn (by simp; decide)
  have hsign (r : List Char) : dropBlank ('=' :: r) = '=' :: r :=
    Text.dropBlank_eq_self (by simp; decide)
  have hstart : dropBlank (Script.quotePwsh v ++ [';']) = Script.quotePwsh v ++ [';'] := by
    refine Text.dropBlank_eq_self fun c hc => ?_
    rw [List.head?_append, Option.mem_def, Option.or_eq_some_iff] at hc
    rcases hc with hc | ⟨-, hc⟩
    · exact hfirst c hc
    · obtain rfl := Option.some.inj hc
      decide
  have hback : dropBlankEnd (Script.quotePwsh v ++ [';']) = Script.quotePwsh v ++ [';'] :=
    Text.dropBlankEnd_eq_self (by rw [List.getLast?_concat]; simp; decide)
  have hmark : dropSemicolon (Script.quotePwsh v ++ [';']) = Script.quotePwsh v := by
    simp [dropSemicolon]
  have hvalue : dropBlankEnd (Script.quotePwsh v) = Script.quotePwsh v :=
    Text.dropBlankEnd_eq_self hlast
  simp [pwsh?, hname, hsign, expect, hstart, hback, hmark, hvalue, unquote_quotePwsh]

theorem posix?_dollar {s : String} {r : List Char} (h : s.toList = '$' :: r) : posix? s = none := by
  have hread : Words.read .gap s.toList = (Words.read .bare r).map (Words.extend ['$']) := by
    rw [h, Words.read, if_neg (by decide), if_neg (by decide), if_pos (by decide)]
  cases hp : posix? s with
  | none => rfl
  | some p =>
    obtain ⟨hn, hword⟩ := posix?_eq_some_iff.1 hp
    obtain ⟨ws, -, hws⟩ := Option.map_eq_some_iff.1 (hread.symm.trans hword)
    obtain ⟨w, hw⟩ : ∃ w, p.1 ++ '=' :: p.2 = '$' :: w := by
      cases ws with
      | nil => exact ⟨[], (List.cons.inj hws).1.symm⟩
      | cons w ws => exact ⟨w, (List.cons.inj hws).1.symm⟩
    have hhead : '$' ∈ p.1 := by
      cases hname : p.1 with
      | nil => simp [hname, isName] at hn
      | cons c n =>
        rw [hname] at hw
        rw [(List.cons.inj hw).1]
        exact List.mem_cons_self
    exact absurd (isNameChar_of_isName hn '$' hhead) (by decide)

theorem ofFragment?_pwshSpelling {name : String} (hn : isName name.toList = true) (value : String) :
    ofFragment? (pwshSpelling name value) =
      if '\n' ∈ value.toList then none else some (name, .ofList (Script.doubled value.toList)) := by
  have htext := toList_pwshSpelling name value
  have htrim : Text.trim (pwshSpelling name value) = pwshSpelling name value := by
    refine Text.trim_eq_self ?_ ?_
    · rw [htext]; simp; decide
    · rw [htext]; simp [List.getLast?_append, List.getLast?_cons]; decide
  have hcmd : cmd? (pwshSpelling name value).toList = none := by rw [htext]; rfl
  have hposix : posix? (pwshSpelling name value) = none := posix?_dollar htext
  rw [ofFragment?, htrim, hcmd, hposix, htext, pwsh?_spelled hn]
  split <;> simp

/-- In PowerShell's own quotes a value comes back unchanged exactly if it has no line feed and no
single quote. With a line feed the fragment is not read at all; without one, every quote of the
value comes back twice. -/
theorem ofFragment?_pwshSpelling_iff {name : String} (hn : isName name.toList = true)
    (value : String) :
    (ofFragment? (pwshSpelling name value) = some (name, value) ↔
      '\n' ∉ value.toList ∧ '\'' ∉ value.toList) ∧
    ofFragment? (pwshSpelling name value) =
      if '\n' ∈ value.toList then none else some (name, .ofList (Script.doubled value.toList)) := by
  have hread := ofFragment?_pwshSpelling hn value
  refine ⟨?_, hread⟩
  rw [hread]
  split
  · rename_i hbreak
    simp [hbreak]
  · rename_i hbreak
    simp [hbreak, ← Script.doubled_eq_self_iff, ← String.toList_inj]

theorem ofFragment?_pwshSpelling_iff_blanks :
    isName "A".toList = true ∧ '\n' ∉ " 1;\t\"2\" ".toList ∧ '\'' ∉ " 1;\t\"2\" ".toList ∧
    ofFragment? (pwshSpelling "A" " 1;\t\"2\" ") = some ("A", " 1;\t\"2\" ") := by
  have hn : isName "A".toList = true := by decide +kernel
  have hbreak : '\n' ∉ " 1;\t\"2\" ".toList := by decide +kernel
  have hquote : '\'' ∉ " 1;\t\"2\" ".toList := by decide +kernel
  exact ⟨hn, hbreak, hquote, (ofFragment?_pwshSpelling_iff hn _).1.2 ⟨hbreak, hquote⟩⟩

/-- A quote comes back twice, and a value of two lines does not come back. -/
theorem ofFragment?_doubledQuote :
    NulFree "it's" ∧ pwshSpelling "A" "it's" = "$env:A='it''s';" ∧
    ofFragment? "$env:A='it''s';" = some ("A", "it''s") ∧
    NulFree "1\n2" ∧ pwshSpelling "A" "1\n2" = "$env:A='1\n2';" ∧
      ofFragment? "$env:A='1\n2';" = none ∧
    ¬∀ name value : String, isName name.toList = true → NulFree value →
      ofFragment? (pwshSpelling name value) = some (name, value) := by
  have hspelling : pwshSpelling "A" "it's" = "$env:A='it''s';" := by decide +kernel
  have hread : ofFragment? "$env:A='it''s';" = some ("A", "it''s") := by decide +kernel
  refine ⟨by decide +kernel, hspelling, hread, by decide +kernel, by decide +kernel,
    by decide +kernel, fun h => ?_⟩
  have hsame := h "A" "it's" (by decide +kernel) (by decide +kernel)
  rw [hspelling, hread] at hsame
  exact absurd hsame (by decide +kernel)

end Assignment

end Shorthand
