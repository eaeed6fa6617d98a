import Shorthand.Cli.Arguments
import Shorthand.Proofs.Success
/-!
What becomes of the words behind the first `--` of a command line. Reading hands them on as they
are, but a `--` that only switches precede is gone then, and nothing tells the switches of the
program from the words behind it any more.
-/
set_option autoImplicit false

namespace Shorthand.Arguments

variable {before rest : List String} {debug : Bool} {word : String} {switches : List Switch}
  {a : Arguments}

theorem read_plain (hne : word ≠ "--") (h : switches? word = none) :
    read debug (word :: rest) = .ok ⟨debug, word :: rest⟩ := by
  rw [read, if_neg hne, h]

theorem read_switches (hne : word ≠ "--") (h : switches? word = some switches) :
    read debug (word :: rest) = switches.foldlM apply debug >>= (read · rest) := by
  rw [read, if_neg hne, h]

theorem eq_of_apply {switch : Switch} {state : Bool} (h : apply debug switch = .ok state) :
    switch = .debug ∧ debug = false ∧ state = true := by
  cases switch with
  | stop refusal => cases h
  | debug =>
    cases debug with
    | false => exact ⟨rfl, rfl, (Except.ok.inj h).symm⟩
    | true => cases h

theorem eq_of_foldlM_apply {state : Bool} (h : switches.foldlM apply debug = .ok state) :
    switches = [] ∨ switches = [.debug] := by
  cases switches with
  | nil => exact .inl rfl
  | cons switch switches =>
    rw [List.foldlM_cons] at h
    obtain ⟨next, hnext, h⟩ := exists_of_bind_eq_ok h
    obtain ⟨rfl, -, rfl⟩ := eq_of_apply hnext
    cases switches with
    | nil => exact .inr rfl
    | cons second switches =>
      rw [List.foldlM_cons] at h
      obtain ⟨_, hsecond, -⟩ := exists_of_bind_eq_ok h
      cases (eq_of_apply hsecond).2.1

theorem eq_of_longSwitch? {name : List Char} (h : longSwitch? name = some .debug) :
    name = "debug".toList := by
  unfold longSwitch? at h
  split at h
  · assumption
  · split at h
    · cases h
    · split at h <;> cases h

theorem eq_of_shortSwitch? {c : Char} (h : shortSwitch? c = some .debug) : c = 'd' := by
  grind [shortSwitch?]

theorem exists_of_mapM_cons {c : Char} {letters : List Char}
    (h : (c :: letters).mapM shortSwitch? = some switches) :
    ∃ first later, shortSwitch? c = some first ∧
      letters.mapM shortSwitch? = some later ∧ switches = first :: later := by
  rw [List.mapM_cons] at h
  obtain ⟨first, hfirst, h⟩ := Option.bind_eq_some_iff.1 h
  obtain ⟨later, hlater, h⟩ := Option.bind_eq_some_iff.1 h
  exact ⟨first, later, hfirst, hlater, (Option.some.inj h).symm⟩

theorem switches?_eq_debug_iff : switches? word = some [.debug] ↔ isDebugSwitch word = true := by
  constructor
  · intro h
    unfold switches? at h
    split at h
    · rename_i body hbody
      obtain ⟨switch, hswitch, h⟩ := Option.map_eq_some_iff.1 h
      split at h
      · rename_i hname
        obtain rfl : switch = .debug := (List.cons.inj h).1
        rw [← hname, eq_of_longSwitch? hswitch] at hbody
        have hword : word = "--debug" := String.toList_inj.1 hbody
        simp [isDebugSwitch, hword]
      · cases h
    · rename_i c letters _ hletters
      obtain ⟨first, later, hfirst, hlater, h⟩ := exists_of_mapM_cons h
      obtain ⟨rfl, rfl⟩ := List.cons.inj h
      cases letters with
      | nil =>
        rw [eq_of_shortSwitch? hfirst] at hletters
        have hword : word = "-d" := String.toList_inj.1 hletters
        simp [isDebugSwitch, hword]
      | cons second letters =>
        obtain ⟨_, _, -, -, hnone⟩ := exists_of_mapM_cons hlater
        cases hnone
    · cases h
  · intro h
    have hword : word = "-d" ∨ word = "--debug" := by simpa [isDebugSwitch] using h
    rcases hword with rfl | rfl
    · decide
    · decide

theorem switches?_ne_nil : switches? word ≠ some [] := by
  intro h
  unfold switches? at h
  split at h
  · obtain ⟨switch, -, h⟩ := Option.map_eq_some_iff.1 h
    split at h <;> cases h
  · obtain ⟨_, _, -, -, h⟩ := exists_of_mapM_cons h
    cases h
  · cases h

theorem isDebugSwitch_of_foldlM {state : Bool} (hs : switches? word = some switches)
    (h : switches.foldlM apply debug = .ok state) : isDebugSwitch word = true := by
  rcases eq_of_foldlM_apply h with rfl | rfl
  · exact absurd hs switches?_ne_nil
  · exact switches?_eq_debug_iff.1 hs

/-- The words behind the first `--` are read as they are, whatever stands before it. -/
theorem read_append (hb : "--" ∉ before) : read debug (before ++ "--" :: rest) =
    (read debug (before ++ ["--"])).map fun a => ⟨a.debug, a.words ++ rest⟩ := by
  induction before generalizing debug with
  | nil => rfl
  | cons word before ih =>
    have hne : word ≠ "--" := (List.ne_of_not_mem_cons hb).symm
    have hlater : "--" ∉ before := List.not_mem_of_not_mem_cons hb
    cases hs : switches? word with
    | none =>
      -- from this word on all words are taken as they are, the separator too
      rw [List.cons_append, List.cons_append, read_plain hne hs, read_plain hne hs]
      simp
    | some switches =>
      rw [List.cons_append, List.cons_append, read_switches hne hs, read_switches hne hs]
      cases switches.foldlM apply debug with
      | error refusal => rfl
      | ok state => exact ih hlater

/-- The separator is among the words unless only debug switches precede it. -/
theorem separator_mem_of_read (hb : "--" ∉ before) (ha : read debug (before ++ ["--"]) = .ok a) :
    ((∀ word ∈ before, isDebugSwitch word = true) → a.words = []) ∧
      ((∃ word ∈ before, isDebugSwitch word = false) → "--" ∈ a.words) := by
  induction before generalizing debug with
  | nil =>
    obtain rfl := Except.ok.inj ha
    simp
  | cons word before ih =>
    have hne : word ≠ "--" := (List.ne_of_not_mem_cons hb).symm
    have hlater : "--" ∉ before := List.not_mem_of_not_mem_cons hb
    rw [List.cons_append] at ha
    cases hs : switches? word with
    | none =>
      obtain rfl := Except.ok.inj ((read_plain hne hs).symm.trans ha)
      have hplain : ¬isDebugSwitch word = true :=
        fun h => by simp [switches?_eq_debug_iff.2 h] at hs
      exact ⟨fun hall => absurd (hall word List.mem_cons_self) hplain, fun _ => by simp⟩
    | some switches =>
      rw [read_switches hne hs] at ha
      obtain ⟨state, hstate, ha⟩ := exists_of_bind_eq_ok ha
      simpa [isDebugSwitch_of_foldlM hs hstate] using ih hlater ha

theorem takeDebug_append (h : "--" ∈ a.words) (rest : List String) :
    takeDebug ⟨a.debug, a.words ++ rest⟩ = ⟨a.takeDebug.debug, a.takeDebug.words ++ rest⟩ := by
  obtain ⟨front, back, hwords, hfront⟩ := List.eq_append_cons_of_mem h
  have hall : ∀ word ∈ front, decide (word ≠ "--") = true := by
    intro word hmem
    rw [decide_eq_true_eq]
    rintro rfl
    exact hfront hmem
  simp only [takeDebug, hwords, List.append_assoc, List.cons_append,
    List.takeWhile_append_of_pos hall, List.dropWhile_append_of_pos hall]
  simp

/-- The words are left alone as long as no debug switch is among them before a `--`. -/
theorem suffix_takeDebug_iff : a.words <:+ a.takeDebug.words ↔
    ∀ word ∈ a.words.takeWhile (· ≠ "--"), isDebugSwitch word = false := by
  have hcut : a.words.takeWhile (· ≠ "--") ++ a.words.dropWhile (· ≠ "--") = a.words :=
    List.takeWhile_append_dropWhile
  have hwords : a.takeDebug.words =
      (a.words.takeWhile (· ≠ "--")).filter (!isDebugSwitch ·) ++
        a.words.dropWhile (· ≠ "--") := rfl
  rw [hwords]
  generalize a.words.takeWhile (· ≠ "--") = front at hcut ⊢
  generalize a.words.dropWhile (· ≠ "--") = back at hcut ⊢
  rw [← hcut]
  constructor
  · intro h
    have hshort := h.length_le
    have hfilter : (front.filter (!isDebugSwitch ·)).length = front.length := by
      have hle := List.length_filter_le (!isDebugSwitch ·) front
      simp only [List.length_append] at hshort
      omega
    simpa using List.length_filter_eq_length_iff.1 hfilter
  · intro h
    have hfilter : front.filter (!isDebugSwitch ·) = front :=
      List.filter_eq_self.2 fun word hword => by simp [h word hword]
    exact ⟨[], by rw [hfilter, List.nil_append]⟩

/-- The words behind the first `--` stay as they are and count for nothing exactly if some other
word than a debug switch stands before it, or no debug switch stands among them before the next
`--`. From that one on they always stay. -/
theorem takeDebug_parse_iff (hb : "--" ∉ before) (ha : parse (before ++ "--" :: rest) = .ok a) :
    ∃ b, parse (before ++ ["--"]) = .ok b ∧
      ((rest <:+ a.takeDebug.words ∧ a.takeDebug.debug = b.takeDebug.debug) ↔
        (∀ word ∈ before, isDebugSwitch word = true) →
          ∀ word ∈ rest.takeWhile (· ≠ "--"), isDebugSwitch word = false) ∧
      rest.dropWhile (· ≠ "--") <:+ a.takeDebug.words := by
  rw [parse, read_append hb] at ha
  obtain ⟨b, hread, rfl⟩ := exists_of_map_eq_ok ha
  refine ⟨b, hread, ?_⟩
  obtain ⟨hdropped, hkept⟩ := separator_mem_of_read hb hread
  by_cases hall : ∀ word ∈ before, isDebugSwitch word = true
  · have hwords : b.words ++ rest = rest := by rw [hdropped hall, List.nil_append]
    have hsuffix := suffix_takeDebug_iff (a := ⟨b.debug, rest⟩)
    rw [hwords]
    refine ⟨⟨fun h _ => hsuffix.1 h.1, fun h => ⟨hsuffix.2 (h hall), ?_⟩⟩, List.suffix_append ..⟩
    have hnone : (rest.takeWhile (· ≠ "--")).any isDebugSwitch = false :=
      List.any_eq_false.2 fun word hword => by
      simp [h hall word hword]
    simp only [takeDebug, hnone, hdropped hall]
    rfl
  · obtain ⟨word, hword, hother⟩ : ∃ word ∈ before, isDebugSwitch word = false := by
      simpa using hall
    rw [takeDebug_append (hkept ⟨word, hword, hother⟩)]
    refine ⟨⟨fun _ h => absurd h hall, fun _ => ⟨List.suffix_append .., rfl⟩⟩, ?_⟩
    exact (List.dropWhile_suffix _).trans (List.suffix_append ..)

theorem takeDebug_parse_iff_ahead :
    "--" ∉ ["-d", "dc", "b"] ∧ "--" ∉ ["--debug"] ∧
    (∃ a, parse ["-d", "dc", "b", "--", "--debug", "x"] = .ok a ∧
      ["--debug", "x"] <:+ a.takeDebug.words) ∧
    ∃ a, parse ["--debug", "--", "dc", "--", "-d"] = .ok a ∧
      ["dc", "--", "-d"] <:+ a.takeDebug.words := by
  have hword : "--" ∉ ["-d", "dc", "b"] := by decide
  have hswitch : "--" ∉ ["--debug"] := by decide
  have hparse : parse ["-d", "dc", "b", "--", "--debug", "x"] =
    .ok ⟨true, ["dc", "b", "--", "--debug", "x"]⟩ := rfl
  have hparse' : parse ["--debug", "--", "dc", "--", "-d"] = .ok ⟨true, ["dc", "--", "-d"]⟩ := rfl
  obtain ⟨_, -, hiff, -⟩ := takeDebug_parse_iff hword hparse
  obtain ⟨_, -, hiff', -⟩ := takeDebug_parse_iff hswitch hparse'
  exact ⟨hword, hswitch, ⟨_, hparse, (hiff.2 (by decide)).1⟩, _, hparse', (hiff'.2 (by decide)).1⟩

/-- Behind a `--` that comes first, a debug switch is taken out of the words of the command. -/
theorem takeDebug_leading_separator :
    parse ["--", "dc", "b", "-d"] = .ok ⟨false, ["dc", "b", "-d"]⟩ ∧
    takeDebug ⟨false, ["dc", "b", "-d"]⟩ = ⟨true, ["dc", "b"]⟩ ∧
      ¬["dc", "b", "-d"] <:+ ["dc", "b"] ∧
    parse ["--"] = .ok ⟨false, []⟩ ∧ (takeDebug ⟨false, []⟩).debug = false := by
  refine ⟨rfl, rfl, by decide, rfl, rfl⟩

end Shorthand.Arguments
