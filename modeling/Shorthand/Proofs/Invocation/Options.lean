import Shorthand.Proofs.Flag.Value
import Shorthand.Proofs.Invocation.Passthrough
import Shorthand.Proofs.Invocation.Trailing
import Shorthand.Proofs.Text.Blank
/-!
Options with a value of the user. The template `--option={{name}}` is rendered with the value as it
is, but the text is then a fragment like any other: where there is white space in the value, the
text is split.
-/
set_option autoImplicit false

namespace Shorthand

open Words (isLiteral)

/-- A text that is the beginning of a word and not a blank one, whatever stands behind it. -/
structure IsWordStart (text : String) : Prop where
  literal : ∀ c ∈ text.toList, isLiteral c = true
  unbroken : ∀ c ∈ text.toList, Text.isBlank c = false
  nonempty : text ≠ ""
  uncommented : ∀ c ∈ text.toList.head?, c ≠ '#'

namespace IsWordStart

variable {text value : String} {words : List String} (h : IsWordStart text)
include h

theorem split_append (value : String) : Words.split (text ++ value) =
    (Words.read .bare value.toList).map fun ws => (Words.extend text.toList ws).map .ofList := by
  have hwritten :=
    Words.isWritten_literal h.literal (String.toList_eq_nil_iff.not.2 h.nonempty) h.uncommented
  rw [Words.split, String.toList_append, hwritten, Option.map_map]
  rfl

theorem isAllBlank_append (value : String) : Text.isAllBlank (text ++ value) = false := by
  obtain ⟨c, r, hcr⟩ := List.exists_cons_of_ne_nil (String.toList_eq_nil_iff.not.2 h.nonempty)
  have hc := h.unbroken c (by simp [hcr])
  simp [Text.isAllBlank, hcr, hc]

theorem exists_blank_iff :
    (∃ c ∈ (text ++ value).toList, Text.isBlank c = true) ↔
      ∃ c ∈ value.toList, Text.isBlank c = true := by
  constructor
  · rintro ⟨c, hc, hblank⟩
    rw [String.toList_append] at hc
    refine ⟨c, (List.mem_append.1 hc).resolve_left fun htext => ?_, hblank⟩
    simp [h.unbroken c htext] at hblank
  · rintro ⟨c, hc, hblank⟩
    exact ⟨c, by simp [hc], hblank⟩

theorem exists_shown_of_split (hsplit : Words.split (text ++ value) = some words) :
    ∃ word ∈ words, Text.isAllBlank word = false := by
  rw [h.split_append] at hsplit
  obtain ⟨ws, -, rfl⟩ := Option.map_eq_some_iff.1 hsplit
  cases ws with
  | nil => exact ⟨text, by simp [Words.extend], by simpa using h.isAllBlank_append ""⟩
  | cons w ws => exact ⟨text ++ .ofList w, by simp [Words.extend], h.isAllBlank_append _⟩

/-- All characters come through in one word only if each of those behind the start stands for
itself. -/
theorem filter_split_iff (hsplit : Words.split (text ++ value) = some words) :
    words.filter (!Text.isAllBlank ·) = [text ++ value] ↔
      ∀ c ∈ value.toList, isLiteral c = true := by
  rw [h.split_append] at hsplit
  constructor
  · intro hfilter
    obtain ⟨ws, hread, rfl⟩ := Option.map_eq_some_iff.1 hsplit
    have hmem : text ++ value ∈ (Words.extend text.toList ws).map String.ofList :=
      (List.mem_filter.1 (hfilter ▸ List.mem_singleton_self _)).1
    obtain ⟨word, hword, heq⟩ := List.mem_map.1 hmem
    have hlength := (List.sublist_flatten_of_mem hword).length_le
    rw [Words.flatten_extend, ← String.toList_ofList (l := word), heq] at hlength
    exact Words.literal_of_read hread (by simpa using hlength)
  · intro hvalue
    have hread : Words.read .bare value.toList = some [value.toList] := by
      simpa [Words.read, Words.extend] using Words.read_literal hvalue []
    rw [hread] at hsplit
    obtain rfl : [text ++ value] = words := by simpa [Words.extend] using hsplit
    simp [h.isAllBlank_append]

theorem fragmentWords_of_split (hblank : ∃ c ∈ value.toList, Text.isBlank c = true)
    (hsplit : Words.split (text ++ value) = some words) :
    fragmentWords (text ++ value) = words := by
  obtain ⟨word, hword, -⟩ := h.exists_shown_of_split hsplit
  exact fragmentWords_broken (h.exists_blank_iff.2 hblank) hsplit (List.ne_nil_of_mem hword)

theorem filter_fragmentWords_iff :
    (fragmentWords (text ++ value)).filter (!Text.isAllBlank ·) = [text ++ value] ↔
      (∀ c ∈ value.toList, Text.isBlank c = false) ∨ Words.split (text ++ value) = none ∨
        ∀ c ∈ value.toList, isLiteral c = true := by
  have hshown : [text ++ value].filter (!Text.isAllBlank ·) = [text ++ value] := by
    simp [h.isAllBlank_append]
  by_cases hblank : ∃ c ∈ value.toList, Text.isBlank c = true
  · have hbroken : ¬∀ c ∈ value.toList, Text.isBlank c = false := by simpa using hblank
    cases hsplit : Words.split (text ++ value) with
    | none =>
      rw [fragmentWords_of_split_none hsplit]
      exact iff_of_true hshown (.inr (.inl rfl))
    | some words =>
      rw [h.fragmentWords_of_split hblank hsplit, h.filter_split_iff hsplit]
      simp [hbroken]
  · rw [fragmentWords_unbroken (mt h.exists_blank_iff.1 hblank)]
    exact iff_of_true hshown (.inl (by simpa using hblank))

theorem exists_shown (value : String) :
    ∃ word ∈ fragmentWords (text ++ value), Text.isAllBlank word = false := by
  unfold fragmentWords
  split
  · cases hwords : Words.splitSome (text ++ value) with
    | none => exact ⟨_, by simp, h.isAllBlank_append value⟩
    | some words => exact h.exists_shown_of_split (Option.filter_eq_some_iff.1 hwords).1
  · exact ⟨_, by simp, h.isAllBlank_append value⟩

end IsWordStart

theorem Template.render_reference {text name : String} (htext : '{' ∉ text.toList)
    (hname : ¬['}', '}'] <:+: name.toList ++ ['}']) (vars : Variables) :
    render (text ++ "\x7b\x7b" ++ name ++ "\x7d\x7d") vars = text ++
      (vars.get? (Text.trim name)).getD "" := by
  have hopen : Text.cutDoubled '{' (text.toList ++ '{' :: '{' :: (name.toList ++ ['}', '}'])) =
      some (text.toList, name.toList ++ ['}', '}']) := by
    refine Text.cutDoubled_append (fun hinfix => ?_) _
    have hcount := hinfix.sublist.count_le '{'
    simp [List.count_eq_zero.2 htext] at hcount
  have hclose : Text.cutDoubled '}' (name.toList ++ ['}', '}']) = some (name.toList, []) :=
    Text.cutDoubled_append hname []
  have hchars : (text ++ "\x7b\x7b" ++ name ++ "\x7d\x7d").toList =
      text.toList ++ '{' :: '{' :: (name.toList ++ ['}', '}']) := by simp
  have htokens : tokenize (text ++ "\x7b\x7b" ++ name ++ "\x7d\x7d") =
      literalOf text.toList ++ [.reference (Text.trim name)] := by
    rw [tokenize, hchars, tokens]
    split
    · simp_all
    · rename_i hcut
      obtain ⟨rfl, rfl⟩ := Prod.mk.inj (Option.some.inj (hcut.symm.trans hopen))
      split
      · simp_all
      · rename_i hcut'
        obtain ⟨rfl, rfl⟩ := Prod.mk.inj (Option.some.inj (hcut'.symm.trans hclose))
        have hend : tokens [] = [] := by simp [tokens, Text.cutDoubled, literalOf]
        rw [hend]
        rfl
  rw [render, htokens]
  by_cases hempty : text.toList = []
  · simp [literalOf, Token.render, String.toList_eq_nil_iff.1 hempty]
  · simp [literalOf, hempty, Token.render]

def optionTemplate (option name : String) : String :=
  "--" ++ option ++ "=" ++ "\x7b\x7b" ++ name ++ "\x7d\x7d"

/-- Nothing in the two names is read as a part of the template or of a line around them. -/
structure IsPlainOption (option name : String) : Prop where
  option : ∀ c ∈ option.toList, Text.isBlank c = false ∧ c ∉ ['\'', '"', '\\', '\x7b', '\x7d']
  trimmed : Text.trim name = name
  unclosed : ¬['}', '}'] <:+: name.toList ++ ['}']

/-- The flag has one template, behind the command: an option with the first variable of the flag for
its value. -/
structure Flag.IsOption (f : Flag) (shell : Shell) (option name : String) : Prop where
  external : f.kind ≠ .internal
  template : ∃ position, position.isBefore = false ∧
    f.templatesFor shell = [⟨optionTemplate option name, position⟩]
  first : ∃ default, f.defaults.head? = some (name, default)

variable {option name value : String}

theorem IsPlainOption.start (h : IsPlainOption option name) :
    IsWordStart ("--" ++ option ++ "=") := by
  have hall {p : Char → Prop} (hdash : p '-') (hequals : p '=')
    (hoption : ∀ c ∈ option.toList, p c) :
      ∀ c ∈ ("--" ++ option ++ "=").toList, p c := by
    simpa [or_imp, forall_and] using ⟨hdash, hoption, hequals⟩
  refine ⟨hall rfl rfl fun c hc => ?_, hall (by decide) (by decide) fun c hc => (h.option c hc).1,
    by simp, by simp⟩
  obtain ⟨hblank, hspecial⟩ := h.option c hc
  have hsep : Words.isSeparator c = false :=
    Bool.eq_false_iff.2 fun hsep => Bool.eq_false_iff.1 hblank (isBlank_of_isSeparator hsep)
  simp only [List.mem_cons, not_or] at hspecial
  simp [isLiteral, hsep, Words.Mode.opened, hspecial]

theorem IsPlainOption.unopened (h : IsPlainOption option name) :
    '{' ∉ ("--" ++ option ++ "=").toList := by
  have hoption : '{' ∉ option.toList := fun hmem => (h.option '{' hmem).2 (by simp)
  simp [hoption]

theorem trim_option (option : String)
    (hvalue : ∀ c ∈ value.toList.getLast?, Text.isBlank c = false) :
    Text.trim ("--" ++ option ++ "=" ++ value) = "--" ++ option ++ "=" ++ value := by
  have hend : ("--" ++ option ++ "=").toList.getLast? = some '=' := by
    rw [String.toList_append, List.getLast?_append]
    rfl
  refine Text.trim_eq_self (by simp; decide) fun c hc => ?_
  rw [String.toList_append, List.getLast?_append, hend] at hc
  cases hlast : value.toList.getLast? with
  | none =>
    obtain rfl : c = '=' := by simpa [hlast, eq_comm] using hc
    decide
  | some d =>
    obtain rfl : d = c := by simpa [hlast] using hc
    exact hvalue d hlast

namespace Flag

variable {f : Flag} {shell : Shell}

theorem get?_scope_given {default : String} (h : f.defaults.head? = some (name, default))
    (context : Context) (value : String) (scope : Variables) :
    (f.scope context (some value) scope).get? name = some value := by
  simp only [Flag.scope, h, Option.elim_some, SortedMap.get?_insert]
  split <;> simp

theorem fragments_option (h : f.IsOption shell option name) (hplain : IsPlainOption option name)
    (hvalue : ∀ c ∈ value.toList.getLast?, Text.isBlank c = false) {vars : Variables}
    (hvars : vars.get? name = some value) (key : String) :
    (f.expand key shell vars).fragments = { after := ["--" ++ option ++ "=" ++ value] } := by
  obtain ⟨position, hbehind, htemplates⟩ := h.template
  have hrender : Template.render (optionTemplate option name) vars = "--" ++
    option ++ "=" ++ value := by
    rw [optionTemplate, Template.render_reference hplain.unopened hplain.unclosed, hplain.trimmed,
      hvars]
    rfl
  have hplace : Fragments.place position ("--" ++ option ++ "=" ++ value) =
      { after := ["--" ++ option ++ "=" ++ value] } := by
    simp [Fragments.place, trim_option option hvalue, hbehind]
  have hrendered :
      renderPlaced vars (f.templatesFor shell) = { after := ["--" ++ option ++ "=" ++ value] } := by
    rw [htemplates, renderPlaced, List.foldl_cons, List.foldl_nil, hrender, hplace]
    rfl
  simp only [Flag.expand, h.external, if_false, hrendered]

end Flag

namespace Expander

variable {x : Expander} {key : String} {flag : Flag}

theorem expand_option (hflag : x.table.get? key = some flag) (hkey : key ≠ "")
    (heq : '=' ∉ key.toList) (hoption : flag.IsOption x.shell option name)
    (hplain : IsPlainOption option name)
    (hvalue : ∀ c ∈ value.toList.getLast?, Text.isBlank c = false) :
    (x.expand ["--" ++ key ++ "=" ++ value]).fragments =
      { after := ["--" ++ option ++ "=" ++ value] } ∧
      (x.expand ["--" ++ key ++ "=" ++ value]).passthrough = [] := by
  obtain ⟨default, hdefault⟩ := hoption.first
  have hexpand : x.expand ["--" ++ key ++ "=" ++ value] = x.single key flag (some value) := by
    have hempty : x.expand [] = {} := rfl
    have hword := expand_assigned hflag hkey heq .long value (List.not_mem_nil : separator ∉ []) []
    rwa [hempty, Expansion.empty_append, Expansion.append_empty] at hword
  rw [hexpand]
  exact ⟨Flag.fragments_option hoption hplain hvalue (Flag.get?_scope_given hdefault _ _ _) key,
    passthrough_expand flag key x.shell _⟩

/-- A value that is given to an option is one word behind the base command if there is no white
space in it, or if it cannot be split, or if there are only literal characters in it. Any other
value is split, and loses its quotes. -/
theorem build_option_iff (hflag : x.table.get? key = some flag) (hkey : key ≠ "")
    (heq : '=' ∉ key.toList) (hoption : flag.IsOption x.shell option name)
    (hplain : IsPlainOption option name)
    (hvalue : ∀ c ∈ value.toList.getLast?, Text.isBlank c = false) (base : List String) :
    ∃ i, Invocation.build x.shell base (x.expand ["--" ++ key ++ "=" ++ value]) = .ok i ∧
      i.environment = [] ∧
      (i.words = base.filter (!Text.isAllBlank ·) ++ ["--" ++ option ++ "=" ++ value] ↔
        (∀ c ∈ value.toList, Text.isBlank c = false) ∨
          Words.split ("--" ++ option ++ "=" ++ value) = none ∨
          ∀ c ∈ value.toList, isLiteral c = true) ∧
      ∀ words, (∃ c ∈ value.toList, Text.isBlank c = true) →
        Words.split ("--" ++ option ++ "=" ++ value) = some words →
        i.words = base.filter (!Text.isAllBlank ·) ++ words.filter (!Text.isAllBlank ·) := by
  obtain ⟨hfragments, hpass⟩ := expand_option hflag hkey heq hoption hplain hvalue
  generalize x.expand ["--" ++ key ++ "=" ++ value] = e at hfragments hpass
  have hcommand : wrap base [] (Invocation.addedWords e) ++
    e.passthrough = base.filter (!Text.isAllBlank ·) ++
      (fragmentWords ("--" ++ option ++ "=" ++ value)).filter (!Text.isAllBlank ·) := by
    simp [wrap, Invocation.addedWords, hfragments, hpass]
  obtain ⟨word, hword, hshown⟩ := hplain.start.exists_shown value
  have hne : wrap base [] (Invocation.addedWords e) ++ e.passthrough ≠ [] := by
    rw [hcommand]
    exact List.append_ne_nil_of_right_ne_nil
      _ (List.ne_nil_of_mem (List.mem_filter.2 ⟨hword, by simp [hshown]⟩))
  obtain ⟨i, hbuild, hwords, henvironment⟩ :=
    Invocation.build_direct x.shell (by simp [hfragments]) hne
  refine ⟨i, hbuild, by simpa [hfragments] using henvironment, ?_, fun words hblank hsplit => ?_⟩
  · rw [hwords, hcommand, List.append_right_inj]
    exact hplain.start.filter_fragmentWords_iff
  · rw [hwords, hcommand, hplain.start.fragmentWords_of_split hblank hsplit]

def withOption (key option name : String) : Expander where
  table := .ofList [(key,
    { kind := .expandable, templates := [⟨optionTemplate option name, .finish⟩],
      defaults := [(name, "1")] })]
  shell := .linux

theorem build_option_iff_depth :
    (∃ i, Invocation.build .linux ["npx", " "]
        ((withOption "k" "depth" "n").expand ["--k=a'$b"]) = .ok i ∧
      i.words = ["npx", "--depth=a'$b"]) ∧
    (∃ i, Invocation.build .linux ["npx", " "]
        ((withOption "k" "depth" "n").expand ["--k=a'b c"]) = .ok i ∧
      i.words = ["npx", "--depth=a'b c"]) ∧
    ∃ i, Invocation.build .linux ["npx", " "]
        ((withOption "k" "depth" "n").expand ["--k=a 'b c'"]) = .ok i ∧
      i.words = ["npx", "--depth=a", "b c"] := by
  obtain ⟨flag, hflag, hoption⟩ : ∃ flag, (withOption "k" "depth" "n").table.get? "k" = some flag ∧
      flag.IsOption .linux "depth" "n" :=
        ⟨_, rfl, ⟨by decide +kernel, ⟨.finish, rfl, rfl⟩, ⟨_, rfl⟩⟩⟩
  have hplain : IsPlainOption "depth" "n" := ⟨by simp; decide, by decide, by decide⟩
  have hkey : "k" ≠ "" := by decide
  have heq : '=' ∉ "k".toList := by decide
  have hbuilt {value : String} (hvalue : ∀ c ∈ value.toList.getLast?, Text.isBlank c = false) :=
    build_option_iff hflag hkey heq hoption hplain hvalue ["npx", " "]
  refine ⟨?_, ?_, ?_⟩
  · have hvalue : ∀ c ∈ "a'$b".toList.getLast?, Text.isBlank c = false := by simp; decide
    obtain ⟨i, hbuild, -, hwhole, -⟩ := hbuilt hvalue
    have hunbroken : ∀ c ∈ "a'$b".toList, Text.isBlank c = false := by simp; decide
    exact ⟨i, hbuild, (hwhole.2 (.inl hunbroken)).trans (by decide +kernel)⟩
  · have hvalue : ∀ c ∈ "a'b c".toList.getLast?, Text.isBlank c = false := by simp; decide
    obtain ⟨i, hbuild, -, hwhole, -⟩ := hbuilt hvalue
    have hopen : Words.split "--depth=a'b c" = none := by decide +kernel
    exact ⟨i, hbuild, (hwhole.2 (.inr (.inl hopen))).trans (by decide +kernel)⟩
  · have hvalue : ∀ c ∈ "a 'b c'".toList.getLast?, Text.isBlank c = false := by simp; decide
    obtain ⟨i, hbuild, -, -, hsplit⟩ := hbuilt hvalue
    have hblank : ∃ c ∈ "a 'b c'".toList, Text.isBlank c = true := ⟨' ', by decide, by decide⟩
    have hread : Words.split "--depth=a 'b c'" = some ["--depth=a", "b c"] := by decide +kernel
    exact ⟨i, hbuild, (hsplit _ hblank hread).trans (by decide +kernel)⟩

/-- A value with a blank in it is several words. No option with the value follows a key that is
empty or has an equals sign in it, and the variable is not found under a name that is cut or trimmed
in the template. -/
theorem build_option_ne :
    let words (key option name word : String) : Option (List String) :=
      (Invocation.build .linux ["npx"] ((withOption key option name).expand [word])).toOption.map
        Invocation.words
    words "k" "depth" "n" "--k=a b" = some ["npx", "--depth=a", "b"] ∧
    words "" "depth" "n" "--=a" = some ["npx", "--=a"] ∧
    words "k=l" "depth" "n" "--k=l=a" = some ["npx", "--k=l=a"] ∧
    words "k" "depth" " n" "--k=a" = some ["npx", "--depth="] ∧
    words "k" "depth" "n\x7d" "--k=a" = some ["npx", "--depth=\x7d"] := by
  refine ⟨by decide +kernel, by decide +kernel, by decide +kernel, by decide +kernel,
    by decide +kernel⟩

end Expander

end Shorthand
