import Shorthand.Invocation.Assembly
import Shorthand.Proofs.Invocation.Spelling
/-!
What else stands in a fragment that is read as an assignment. Nothing that a shell would run does if
the value holds no separator of statements. For every value that holds one there is a fragment in
which a shell would see a second statement, and which is read as an assignment none the less.
-/
set_option autoImplicit false

namespace Shorthand

namespace Assignment

open Text (isBlank dropBlank dropBlankEnd)
open Words (Mode isSeparator)

inductive Manner where
  | pwsh
  | cmd
  | posix
  deriving DecidableEq, Repr

namespace Manner

def all : List Manner := [pwsh, cmd, posix]

def read? : Manner → String → Option (List Char × List Char)
  | pwsh, s => pwsh? s.toList
  | cmd, s => cmd? s.toList
  | posix, s => posix? s

def escape : Manner → Char
  | pwsh => '\x60'
  | cmd => '^'
  | posix => '\\'

/-- Where a character leads to that nothing protects. In cmd a single quote is a character like any
other. -/
def opened (m : Manner) (c : Char) : Mode :=
  if c = '"' then .double
  else if c = '\'' && m ≠ cmd then .single
  else if c = m.escape then .escaped
  else .bare

/-- Where a shell stands behind a character. Nothing escapes in the quotes of cmd, and it has no
comments. -/
def next (m : Manner) : Mode → Char → Mode
  | .gap, c => if isSeparator c then .gap else if c = '#' && m ≠ cmd then .comment else m.opened c
  | .comment, c => if c = '\n' then .gap else .comment
  | .bare, c => if isSeparator c then .gap else m.opened c
  | .escaped, _ => .bare
  | .single, c => if c = '\'' then .bare else .single
  | .double, c =>
    if c = '"' then .bare else if c = m.escape && m ≠ cmd then .doubleEscaped else .double
  | .doubleEscaped, _ => .double

end Manner

/-- The modes in which nothing protects the next character. -/
def isExposed : Mode → Bool
  | .gap | .bare => true
  | _ => false

def endsStatement (c : Char) : Bool := c = ';' || c = '&' || c = '|'

def isOfStatement (c : Char) : Bool := !isBlank c && !endsStatement c

/-- Whether a second statement stands in a text: behind a separator that is not protected. A doubled
separator counts as one, and one that only blanks follow ends the text. -/
def Manner.goesOn (m : Manner) : Mode → List Char → Bool
  | _, [] => false
  | mode, c :: r =>
    isExposed mode && endsStatement c && r.any isOfStatement || m.goesOn (m.next mode c) r

def manner? (fragment : String) : Option Manner :=
  Manner.all.find? fun m => (m.read? (Text.trim fragment)).isSome

/-- As a shell would get it, the fragment is a single statement. -/
def IsSingle (fragment : String) : Prop :=
  ∀ m ∈ manner? fragment, m.goesOn .gap (Text.trim fragment).toList = false

instance (fragment : String) : Decidable (IsSingle fragment) :=
  inferInstanceAs
    (Decidable (∀ m ∈ manner? fragment, m.goesOn .gap (Text.trim fragment).toList = false))

theorem ofFragment?_eq_some_iff {fragment name value : String} :
    ofFragment? fragment = some (name, value) ↔
      ∃ m ∈ manner? fragment, m.read? (Text.trim fragment) = some (name.toList, value.toList) := by
  have hpair (p : List Char × List Char) :
      (String.ofList p.1, String.ofList p.2) = (name, value) ↔ p = (name.toList, value.toList) := by
    simp [Prod.ext_iff, ← String.toList_inj]
  unfold ofFragment? manner? Manner.all
  cases hp : pwsh? (Text.trim fragment).toList with
  | some p => simp [Manner.read?, hp, hpair]
  | none =>
    cases hc : cmd? (Text.trim fragment).toList with
    | some p => simp [Manner.read?, hp, hc, hpair]
    | none =>
      cases hs : posix? (Text.trim fragment) with
      | some p => simp [Manner.read?, hp, hc, hs, hpair]
      | none => simp [Manner.read?, hp, hc, hs]

theorem eq_of_endsStatement {c : Char} (h : endsStatement c = true) :
    c = ';' ∨ c = '&' ∨ c = '|' := by
  simpa [endsStatement, or_assoc] using h

theorem endsStatement_of_kind {p : Char → Bool} {c : Char} (hc : p c = true)
    (hp : p ';' = false ∧ p '&' = false ∧ p '|' = false) : endsStatement c = false := by
  rw [Bool.eq_false_iff]
  intro he
  rcases eq_of_endsStatement he with rfl | rfl | rfl <;> simp [hp] at hc

theorem endsStatement_of_isBlank {c : Char} (h : isBlank c = true) : endsStatement c = false :=
  endsStatement_of_kind h (by decide)

theorem endsStatement_of_isName {n : List Char} (hn : isName n = true) :
    ∀ c ∈ n, endsStatement c = false :=
  fun c hc => endsStatement_of_kind (isNameChar_of_isName hn c hc) (by decide)

/-- Where only separators and blanks follow the first separator, nothing goes on. -/
theorem Manner.goesOn_append (m : Manner) {front back : List Char}
    (hf : ∀ c ∈ front, endsStatement c = false) (hb : ∀ c ∈ back, isOfStatement c = false)
    (mode : Mode) :
    m.goesOn mode (front ++ back) = false := by
  induction front generalizing mode with
  | nil =>
    rw [List.nil_append]
    induction back generalizing mode with
    | nil => rfl
    | cons c r ih =>
      have hr := (List.forall_mem_cons.1 hb).2
      simp [goesOn, ih hr, List.any_eq_false.2 (by simpa using hr)]
  | cons c r ih =>
    obtain ⟨hc, hr⟩ := List.forall_mem_cons.1 hf
    simp [goesOn, hc, ih hr]

theorem expect_eq_some_iff {c : Char} {s r : List Char} : expect c s = some r ↔ s = c :: r := by
  cases s with
  | nil => simp [expect]
  | cons d s => simp [expect]

theorem eq_append_of_takeName? {s n r : List Char} (h : takeName? s = some (n, r)) :
    s = n ++ r := by
  simp only [takeName?] at h
  split at h
  · simp only [Option.some.injEq, Prod.mk.injEq] at h
    rw [← h.1, ← h.2, List.takeWhile_append_dropWhile]
  · cases h

theorem exists_dropOne (c : Char) (s : List Char) :
    ∃ mark, s = mark ++ dropOne c s ∧ (mark = [] ∨ mark = [c]) := by
  cases s with
  | nil => exact ⟨[], rfl, .inl rfl⟩
  | cons d r =>
    by_cases hd : d = c
    · exact ⟨[c], by simp [dropOne, hd], .inr rfl⟩
    · exact ⟨[], by simp [dropOne, hd], .inl rfl⟩

theorem exists_dropSemicolon (s : List Char) :
    ∃ mark, s = dropSemicolon s ++ mark ∧ (mark = [] ∨ mark = [';']) := by
  unfold dropSemicolon
  split
  · rename_i h
    obtain ⟨front, rfl⟩ := List.getLast?_eq_some_iff.1 h
    exact ⟨[';'], by rw [List.dropLast_concat], .inr rfl⟩
  · exact ⟨[], by simp, .inl rfl⟩

theorem eq_of_unquoteWith {quote : Char} {s t : List Char} (h : unquoteWith quote s = some t) :
    s = quote :: (t ++ [quote]) := by
  obtain ⟨r, hr, h⟩ := Option.bind_eq_some_iff.1 h
  obtain ⟨back, hback, h⟩ := Option.bind_eq_some_iff.1 h
  obtain rfl := Option.some.inj h
  rw [expect_eq_some_iff.1 hr, ← List.reverse_reverse r, expect_eq_some_iff.1 hback,
    List.reverse_cons]

theorem mem_unquote {c : Char} (hs : c ≠ '\'') (hd : c ≠ '"') {s : List Char} (h : c ∈ s) :
    c ∈ unquote s := by
  unfold unquote
  cases hsingle : unquoteWith '\'' s with
  | some t => simpa [eq_of_unquoteWith hsingle, hs] using h
  | none =>
    cases hdouble : unquoteWith '"' s with
    | some t => simpa [eq_of_unquoteWith hdouble, hd] using h
    | none => simpa using h

def IsGap (s : List Char) : Prop := ∀ c ∈ s, isBlank c = true

theorem IsGap.endsStatement {s : List Char} (h : IsGap s) :
    ∀ c ∈ s, Assignment.endsStatement c = false :=
  fun c hc => endsStatement_of_isBlank (h c hc)

theorem IsGap.isOfStatement {s : List Char} (h : IsGap s) :
    ∀ c ∈ s, Assignment.isOfStatement c = false :=
  fun c hc => by simp [Assignment.isOfStatement, h c hc]

theorem exists_of_pwsh? {s n v : List Char} (h : pwsh? s = some (n, v)) :
    isName n = true ∧ ∃ gap start written stop mark tail,
      IsGap gap ∧ IsGap start ∧ IsGap stop ∧ IsGap tail ∧
      (mark = [] ∨ mark = [';']) ∧ v = unquote written ∧
      s = "$env:".toList ++ n ++ gap ++ ('=' :: start) ++ written ++ (stop ++ mark ++ tail) := by
  refine ⟨isName_of_pwsh? h, ?_⟩
  simp only [pwsh?, Option.bind_eq_bind] at h
  split at h
  · cases h
  · rename_i hdollar
    obtain ⟨⟨name, r⟩, hname, h⟩ := Option.bind_eq_some_iff.1 h
    obtain ⟨t, ht, h⟩ := Option.bind_eq_some_iff.1 h
    split at h
    · cases h
    · obtain ⟨rfl, rfl⟩ := Prod.mk.inj (Option.some.inj h)
      obtain ⟨u, hu⟩ :=
        List.isPrefixOf_iff_prefix.1 (by simpa using hdollar : "$env:".toList.isPrefixOf s = true)
      have hnamed : u = name ++ r := by
        rw [← eq_append_of_takeName? hname, ← hu, List.drop_left]
      obtain ⟨gap, hgap, hblank⟩ := Text.exists_dropBlank r
      obtain ⟨start, hstart, hstartBlank⟩ := Text.exists_dropBlank t
      obtain ⟨tail, htail, htailBlank⟩ := Text.exists_dropBlankEnd (dropBlank t)
      obtain ⟨mark, hmark, hsemicolon⟩ := exists_dropSemicolon (dropBlankEnd (dropBlank t))
      obtain ⟨stop, hstop, hstopBlank⟩ :=
        Text.exists_dropBlankEnd (dropSemicolon (dropBlankEnd (dropBlank t)))
      refine ⟨gap, start, _, stop, mark, tail, hblank, hstartBlank, hstopBlank, htailBlank,
        hsemicolon, rfl, ?_⟩
      calc s = "$env:".toList ++ (name ++ (gap ++ '=' :: t)) := by
            rw [← hu, hnamed, ← expect_eq_some_iff.1 ht, ← hgap]
        _ = "$env:".toList ++ (name ++ (gap ++ '=' :: (start ++
              (dropBlankEnd (dropSemicolon (dropBlankEnd (dropBlank t))) ++
                stop ++ mark ++ tail)))) := by
            rw [← hstop, ← hmark, ← htail, ← hstart]
        _ = _ := by simp only [List.append_assoc, List.cons_append]

theorem blank_or_mark_of_mem {s : List Char}
    (h : dropBlank (dropOne '&' (dropOne '&' (dropBlank s))) = []) :
    ∀ c ∈ s, isBlank c = true ∨ c = '&' := by
  obtain ⟨gap, hgap, hblank⟩ := Text.exists_dropBlank s
  obtain ⟨first, hfirst, hone⟩ := exists_dropOne '&' (dropBlank s)
  obtain ⟨second, hsecond, hother⟩ := exists_dropOne '&' (dropOne '&' (dropBlank s))
  have hmark {mark : List Char} (hm : mark = [] ∨ mark = ['&']) : ∀ c ∈ mark, c = '&' := by
    rcases hm with rfl | rfl <;> simp
  have hrest := List.all_eq_true.1 (Text.dropBlank_eq_nil.1 h)
  rw [hgap, hfirst, hsecond]
  intro c hc
  simp only [List.mem_append] at hc
  rcases hc with hc | hc | hc | hc
  · exact .inl (hblank c hc)
  · exact .inr (hmark hone c hc)
  · exact .inr (hmark hother c hc)
  · exact .inl (hrest c hc)

theorem exists_of_cmd? {s n v : List Char} (h : cmd? s = some (n, v)) :
    isName n = true ∧ ∃ word gap opening body closing tail, isSet word = true ∧ IsGap gap ∧
      (opening = [] ∨ opening = ['"']) ∧ (closing = [] ∨ closing = ['"']) ∧ v = dropBlankEnd body ∧
      (∀ c ∈ tail, isBlank c = true ∨ c = '&') ∧
      s = word ++ gap ++ opening ++ n ++ ('=' :: body) ++ closing ++ tail := by
  refine ⟨isName_of_cmd? h, ?_⟩
  simp only [cmd?, Option.bind_eq_bind] at h
  split at h
  · cases h
  · rename_i hset
    split at h
    · cases h
    · obtain ⟨⟨name, r⟩, hname, h⟩ := Option.bind_eq_some_iff.1 h
      obtain ⟨t, ht, h⟩ := Option.bind_eq_some_iff.1 h
      split at h
      · rename_i hend
        obtain ⟨rfl, rfl⟩ := Prod.mk.inj (Option.some.inj h)
        obtain ⟨gap, hgap, hblank⟩ := Text.exists_dropBlank (s.drop 3)
        obtain ⟨opening, hopening, hquote⟩ := exists_dropOne '"' (dropBlank (s.drop 3))
        have hbody := List.takeWhile_append_dropWhile
          (p := fun c => decide (c ≠ '"') && decide (c ≠ '&')) (l := t)
        obtain ⟨closing, hclosing, hquote'⟩ :=
          exists_dropOne '"' (t.dropWhile fun c => decide (c ≠ '"') && decide (c ≠ '&'))
        refine ⟨s.take 3, gap, opening, _, closing, _, by simpa using hset, hblank, hquote,
          hquote', rfl, blank_or_mark_of_mem (List.isEmpty_iff.1 hend), ?_⟩
        calc s = s.take 3 ++ (gap ++ (opening ++ (name ++ '=' :: t))) := by
              rw [← expect_eq_some_iff.1 ht, ← eq_append_of_takeName? hname, ← hopening, ← hgap,
                List.take_append_drop]
          _ = _ := by
              simp only [List.append_assoc, List.cons_append]
              rw [← hclosing, hbody]
      · cases h

theorem endsStatement_of_isSet {word : List Char} (h : isSet word = true) :
    ∀ c ∈ word, endsStatement c = false := by
  unfold isSet at h
  split at h
  · rename_i s e t
    simp only [Bool.and_eq_true, Bool.or_eq_true, decide_eq_true_eq] at h
    obtain ⟨⟨(rfl | rfl) | rfl, rfl | rfl⟩, rfl | rfl⟩ := h <;> simp [endsStatement]
  · cases h

/-- A fragment for PowerShell whose value holds no separator has at most one, and last. -/
theorem Manner.goesOn_of_pwsh? (m : Manner) {s n v : List Char} (h : pwsh? s = some (n, v))
    (hv : ∀ c ∈ v, endsStatement c = false) (mode : Mode) : m.goesOn mode s = false := by
  obtain ⟨hn, gap, start, written, stop, mark, tail, hgap, hstart, hstop, htail, hmark, rfl, rfl⟩ :=
    exists_of_pwsh? h
  have hwritten : ∀ c ∈ written, endsStatement c = false := by
    intro c hc
    rw [Bool.eq_false_iff]
    intro he
    have hquotes : c ≠ '\'' ∧ c ≠ '"' := by
      rcases eq_of_endsStatement he with rfl | rfl | rfl <;> decide
    exact absurd he (by simp [hv c (mem_unquote hquotes.1 hquotes.2 hc)])
  refine m.goesOn_append ?_ ?_ mode
  · have hdollar : ∀ c ∈ "$env:".toList, endsStatement c = false := by simp [endsStatement]
    have hsign : endsStatement '=' = false := by decide
    simp only [List.forall_mem_append, List.forall_mem_cons]
    exact ⟨⟨⟨⟨hdollar, endsStatement_of_isName hn⟩, hgap.endsStatement⟩, hsign,
      hstart.endsStatement⟩, hwritten⟩
  · have hmarks : ∀ c ∈ mark, isOfStatement c = false := by
      rcases hmark with rfl | rfl <;> simp [isOfStatement, endsStatement]
    simp only [List.forall_mem_append]
    exact ⟨⟨hstop.isOfStatement, hmarks⟩, htail.isOfStatement⟩

/-- A fragment for cmd whose value holds no separator has none but the `&` at its end. -/
theorem Manner.goesOn_of_cmd? (m : Manner) {s n v : List Char} (h : cmd? s = some (n, v))
    (hv : ∀ c ∈ v, endsStatement c = false) (mode : Mode) : m.goesOn mode s = false := by
  obtain ⟨hn, word, gap, opening, body, closing, tail, hword, hgap, hopening, hclosing, rfl,
    htail, rfl⟩ :=
    exists_of_cmd? h
  have hquote {q : List Char} (hq : q = [] ∨ q = ['"']) : ∀ c ∈ q, endsStatement c = false := by
    rcases hq with rfl | rfl <;> simp [endsStatement]
  have hbody : ∀ c ∈ body, endsStatement c = false := by
    obtain ⟨stop, hstop, hblank⟩ := Text.exists_dropBlankEnd body
    rw [hstop]
    exact List.forall_mem_append.2 ⟨hv, IsGap.endsStatement hblank⟩
  refine m.goesOn_append ?_ ?_ mode
  · have hsign : endsStatement '=' = false := by decide
    simp only [List.forall_mem_append, List.forall_mem_cons]
    exact ⟨⟨⟨⟨⟨endsStatement_of_isSet hword, hgap.endsStatement⟩, hquote hopening⟩,
      endsStatement_of_isName hn⟩, hsign, hbody⟩, hquote hclosing⟩
  · intro c hc
    rcases htail c hc with hblank | rfl
    · simp [isOfStatement, hblank]
    · decide

theorem opened_of_endsStatement {c : Char} (h : endsStatement c = true) :
    Mode.opened c = .bare := by
  rcases eq_of_endsStatement h with rfl | rfl | rfl <;> rfl

theorem Manner.opened_posix (c : Char) : Manner.posix.opened c = Mode.opened c := by
  simp [opened, Mode.opened, escape]
  rfl

theorem Manner.next_posix (mode : Mode) (c : Char) : posix.next mode c = mode.next c := by
  cases mode with
  | double => by_cases hback : c = '\\' <;> simp [next, Mode.next, escape, hback]
  | _ => simp [next, Mode.next, opened_posix]

theorem given_of_endsStatement {mode : Mode} {c : Char} (hm : isExposed mode = true)
    (he : endsStatement c = true) :
    mode.given c = [c] := by
  rcases eq_of_endsStatement he with rfl | rfl | rfl <;> cases mode <;> first | rfl | cases hm

/-- One character of a line for a POSIX shell: the rest is read on from where the character leads
to, no word loses by it, and a separator of statements that nothing protects is itself part of a
word. -/
theorem exists_of_read_cons {mode : Mode} {c : Char} {r : List Char} {ws : List (List Char)}
    (h : Words.read mode (c :: r) = some ws) :
    ∃ vs, Words.read (Manner.posix.next mode c) r = some vs ∧ vs.flatten ⊆ ws.flatten ∧
      (isExposed mode = true → endsStatement c = true → c ∈ ws.flatten) := by
  obtain ⟨vs, hvs, hflatten⟩ := Words.exists_read_of_cons h
  rw [Manner.next_posix, hflatten]
  refine ⟨vs, hvs, List.subset_append_right _ _, fun hm he => ?_⟩
  rw [given_of_endsStatement hm he]
  exact List.mem_cons_self

/-- A line whose words hold no separator of statements is a single statement. -/
theorem goesOn_of_read {mode : Mode} {s : List Char} {ws : List (List Char)}
    (h : Words.read mode s = some ws) (hws : ∀ c ∈ ws.flatten, endsStatement c = false) :
    Manner.posix.goesOn mode s = false := by
  induction s generalizing mode ws with
  | nil => rfl
  | cons c r ih =>
    obtain ⟨vs, hvs, hsubset, hmem⟩ := exists_of_read_cons h
    -- What the rest is read as goes into the words, so the rest cannot go on either.
    have hrest := ih hvs fun d hd => hws d (hsubset hd)
    rw [Manner.goesOn, hrest, Bool.or_false, Bool.eq_false_iff]
    intro hgoes
    simp only [Bool.and_eq_true] at hgoes
    exact absurd hgoes.1.2 (by simp [hws c (hmem hgoes.1.1 hgoes.1.2)])

theorem Manner.goesOn_of_read? {m : Manner} {s : String} {n v : List Char}
    (h : m.read? s = some (n, v)) (hv : ∀ c ∈ v, endsStatement c = false) :
    m.goesOn .gap s.toList = false := by
  cases m with
  | pwsh =>
    rw [read?] at h
    exact goesOn_of_pwsh? _ h hv _
  | cmd =>
    rw [read?] at h
    exact goesOn_of_cmd? _ h hv _
  | posix =>
    rw [read?] at h
    obtain ⟨hname, hword⟩ := posix?_eq_some_iff.1 h
    refine goesOn_of_read hword fun c hc => ?_
    simp only [List.flatten_cons, List.flatten_nil, List.append_nil, List.mem_append,
      List.mem_cons] at hc
    rcases hc with hc | rfl | hc
    · exact endsStatement_of_isName hname c hc
    · rfl
    · exact hv c hc

def sheltered (v : List Char) : List Char :=
  v.flatMap fun c => if c = '\'' then ['"', '\'', '"'] else ['\'', c, '\'']

@[simp] theorem sheltered_cons (c : Char) (r : List Char) :
    sheltered (c :: r) = (if c = '\'' then ['"', '\'', '"'] else ['\'', c, '\'']) ++ sheltered r :=
  List.flatMap_cons

theorem read_sheltered (v tail : List Char) :
    Words.read .bare (sheltered v ++ tail) = (Words.read .bare tail).map (Words.extend v) := by
  induction v with
  | nil => rw [Words.map_extend_nil rfl]; rfl
  | cons c r ih =>
    by_cases hc : c = '\'' <;>
      simp [hc, Words.read, isSeparator, Mode.opened, ih, Words.extend_extend, Function.comp_def]

theorem read_separator {sep : Char} (h : endsStatement sep = true) (tail : List Char) :
    Words.read .bare (sep :: tail) = (Words.read .bare tail).map (Words.extend [sep]) := by
  rw [Words.read, if_pos (opened_of_endsStatement h), if_neg]
  rcases eq_of_endsStatement h with rfl | rfl | rfl <;> decide

theorem goesOn_sheltered (v : List Char) {tail : List Char}
    (h : Manner.posix.goesOn .bare tail = true) :
    Manner.posix.goesOn .bare (sheltered v ++ tail) = true := by
  induction v with
  | nil => exact h
  | cons c r ih =>
    by_cases hc : c = '\''
    · simp [hc, Manner.goesOn, Manner.next, Manner.opened, Manner.escape, isSeparator, ih]
    · simp [hc, Manner.goesOn, Manner.next, Manner.opened, isSeparator, ih]

theorem Manner.next_of_isBare {c : Char} (hc : Words.isBare c = true) {mode : Mode}
    (hmode : isExposed mode = true) :
    Manner.posix.next mode c = .bare := by
  have hhash : c ≠ '#' := Words.ne_of_isBare hc (by decide)
  have hsep := Words.isSeparator_of_isBare hc
  have hopened := Words.opened_of_isBare hc
  cases mode with
  | gap | bare => simp [next, hsep, hhash, opened_posix, hopened]
  | comment | escaped | single | double | doubleEscaped => cases hmode

theorem goesOn_word {word tail : List Char} (hword : ∀ c ∈ word, Words.isBare c = true)
    (h : Manner.posix.goesOn .bare tail = true) :
    Manner.posix.goesOn .bare (word ++ tail) = true := by
  induction word with
  | nil => exact h
  | cons c r ih =>
    obtain ⟨hc, hr⟩ := List.forall_mem_cons.1 hword
    have hnext : Manner.posix.next .bare c = .bare := Manner.next_of_isBare hc rfl
    simp [Manner.goesOn, hnext, ih hr]

theorem goesOn_name {n tail : List Char} (hn : isName n = true)
    (h : Manner.posix.goesOn .bare tail = true) :
    Manner.posix.goesOn .gap (n ++ '=' :: tail) = true := by
  have hbare : ∀ c ∈ n, Words.isBare c = true :=
    fun c hc => isBare_of_isNameChar (isNameChar_of_isName hn c hc)
  have hsign : Manner.posix.goesOn .bare ('=' :: tail) = true := by
    simp [Manner.goesOn, h, show Manner.posix.next .bare '=' = .bare by decide]
  cases n with
  | nil => cases hn
  | cons c r =>
    obtain ⟨hc, hr⟩ := List.forall_mem_cons.1 hbare
    have hnext : Manner.posix.next .gap c = .bare := Manner.next_of_isBare hc rfl
    simp [Manner.goesOn, hnext, goesOn_word hr hsign]

/-- A value with one separator left without quotes, and a word behind it even where the value ends
there. -/
def bared (before : List Char) (sep : Char) (after : List Char) : List Char :=
  sheltered before ++ sep :: (sheltered after ++ ['\'', '\''])

theorem read_bared (before after : List Char) {sep : Char} (h : endsStatement sep = true) :
    Words.read .bare (bared before sep after) = some [before ++ sep :: after] := by
  have hmark : Words.read .bare ['\'', '\''] = some [[]] := by decide
  simp [bared, read_sheltered, read_separator h, hmark, Words.extend]

theorem goesOn_bared (before after : List Char) {sep : Char} (h : endsStatement sep = true) :
    Manner.posix.goesOn .bare (bared before sep after) = true := by
  have hquote : isOfStatement '\'' = true := by decide
  exact goesOn_sheltered before (by simp [Manner.goesOn, isExposed, h, hquote])

/-- Any value with a separator of statements can be given to a variable so that a second statement
begins there. -/
theorem exists_not_isSingle {name : String} (hn : isName name.toList = true)
    (before after : List Char) {sep : Char} (h : endsStatement sep = true) :
    ∃ fragment, ofFragment? fragment = some (name, .ofList (before ++ sep :: after)) ∧
      ¬IsSingle fragment := by
  obtain ⟨fragment, htext⟩ :
      ∃ fragment : String, fragment.toList = name.toList ++ '=' :: bared before sep after :=
    ⟨_, String.toList_ofList⟩
  have hlast : ∀ c ∈ (bared before sep after).getLast?, isBlank c = false := by
    simp [bared, List.getLast?_append, List.getLast?_cons]
    decide
  obtain ⟨htrim, hpwsh, hcmd, hposix⟩ := posix?_name hn htext hlast (read_bared before after h)
  refine ⟨fragment, by simp [ofFragment?_eq_posix? htrim hpwsh hcmd, hposix], fun hsingle => ?_⟩
  have hmanner : manner? fragment = some .posix := by
    simp [manner?, Manner.all, htrim, Manner.read?, hpwsh, hcmd, hposix]
  have hno := hsingle .posix hmanner
  rw [htrim, htext, goesOn_name hn (goesOn_bared before after h)] at hno
  cases hno

/-- A fragment that sets a variable is a single statement, whatever its manner, if the value it sets
holds no separator of statements. For any other value some fragment sets it and goes on with a
second statement. -/
theorem isSingle_of_ofFragment?_iff {name : String} (hn : isName name.toList = true)
    (value : String) :
    (∀ fragment, ofFragment? fragment = some (name, value) → IsSingle fragment) ↔
      ∀ c ∈ value.toList, endsStatement c = false := by
  constructor
  · intro h c hc
    rw [Bool.eq_false_iff]
    intro hsep
    obtain ⟨before, after, hvalue⟩ := List.append_of_mem hc
    obtain ⟨fragment, hfragment, hnot⟩ := exists_not_isSingle hn before after hsep
    rw [← hvalue, String.ofList_toList] at hfragment
    exact hnot (h fragment hfragment)
  · intro hv fragment h m hm
    obtain ⟨m', hm', hread⟩ := ofFragment?_eq_some_iff.1 h
    obtain rfl := Option.some.inj (hm.symm.trans hm')
    exact Manner.goesOn_of_read? hread hv

theorem isSingle_of_ofFragment?_iff_blanks :
    isName "A".toList = true ∧ (∀ c ∈ "1 2".toList, endsStatement c = false) ∧
    ofFragment? " $env:A = '1 2' ; " = some ("A", "1 2") ∧ IsSingle " $env:A = '1 2' ; " := by
  have hn : isName "A".toList = true := by decide +kernel
  have hv : ∀ c ∈ "1 2".toList, endsStatement c = false := by simp [endsStatement]
  have h : ofFragment? " $env:A = '1 2' ; " = some ("A", "1 2") := by decide +kernel
  exact ⟨hn, hv, h, (isSingle_of_ofFragment?_iff hn "1 2").2 hv _ h⟩

/-- In each manner a second statement is taken for a part of the value, and so it is never run. -/
theorem ofFragment?_not_isSingle :
    (ofFragment? "$env:A=1; cd sub;" = some ("A", "1; cd sub") ∧ ¬IsSingle "$env:A=1; cd sub;") ∧
    (ofFragment? "set A=1|more &&" = some ("A", "1|more") ∧ ¬IsSingle "set A=1|more &&") ∧
    (ofFragment? "A=1;./run" = some ("A", "1;./run") ∧ ¬IsSingle "A=1;./run") ∧
    Invocation.assemble .pwsh ["$env:A=1; cd sub;"] ["npx"] =
      .ok { program := "npx", environment := [("A", "1; cd sub")] } := by
  refine ⟨by decide +kernel, by decide +kernel, by decide +kernel, ?_⟩
  exact eq_ok_of_toOption (by decide +kernel)

end Assignment

end Shorthand
