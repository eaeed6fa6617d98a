import Mathlib.Algebra.GroupWithZero.Nat
import Shorthand.Proofs.Script.PwshLine
/-!
Lines for cmd as the started program takes them apart. Its rule counts the backslashes in front of
each quote: two of them stand for one, and an odd one left over makes the quote a character of the
word. The quotes of a word are written with a backslash in front, and nothing is done about the
backslashes that the word has there itself. A line reads back as its words exactly if no word has
any.
-/
set_option autoImplicit false

namespace Shorthand.Script

open Words (NulFree extend flatten_extend)

inductive CmdState where
  | gap
  /-- In a word, within quotes or not, behind so many backslashes that no word has got yet. -/
  | inside (isQuoted : Bool) (held : Nat)
  deriving DecidableEq, Repr

namespace CmdState

def isQuoted : CmdState → Bool
  | gap => false
  | inside isQuoted _ => isQuoted

def held : CmdState → Nat
  | gap => 0
  | inside _ held => held

/-- The words that follow, behind the word that ends here if there is one. -/
def finish : CmdState → List (List Char) → List (List Char)
  | gap, ws => ws
  | inside _ held, ws => List.replicate held '\\' :: ws

end CmdState

/-- The words of a line from here on, where a kind of blanks parts them; in the middle of a word its
rest comes first. The end of the line also ends quotes. -/
def readCmd (blank : Char → Bool) (s : CmdState) : List Char → List (List Char)
  | [] => s.finish []
  | c :: r =>
    if c = '\\' then readCmd blank (.inside s.isQuoted (s.held + 1)) r
    else if c = '"' then
      if s.held % 2 = 0 then
        extend (List.replicate (s.held / 2) '\\') (readCmd blank (.inside (!s.isQuoted) 0) r)
      else
        extend (List.replicate (s.held / 2) '\\' ++ ['"']) (readCmd blank (.inside s.isQuoted 0) r)
    else if !s.isQuoted && blank c then s.finish (readCmd blank .gap r)
    else extend (List.replicate s.held '\\' ++ [c]) (readCmd blank (.inside s.isQuoted 0) r)

def wordsOfCmd (blank : Char → Bool) (line : List Char) : List (List Char) :=
  readCmd blank .gap line

/-- How many backslashes stand right in front of a quote, in a text behind so many of them. -/
def leaning : Nat → List Char → Nat
  | _, [] => 0
  | held, c :: r =>
    if c = '\\' then leaning (held + 1) r else (if c = '"' then held else 0) + leaning 0 r

variable {blank : Char → Bool}

theorem count_finish (s : CmdState) (ws : List (List Char)) :
    (s.finish ws).flatten.count '\\' = s.held + ws.flatten.count '\\' ∧
    (s.finish ws).flatten.count '"' = ws.flatten.count '"' := by
  cases s <;> simp [CmdState.finish, CmdState.held, List.count_replicate]

/-- Of the backslashes right in front of a quote half are left, and where their number is odd the
quote itself makes up the odd half. All others are left. -/
theorem count_readCmd (blank : Char → Bool) (s : CmdState) (line : List Char) :
    2 * (readCmd blank s line).flatten.count '\\' + (readCmd blank s line).flatten.count '"' +
      leaning s.held line = 2 * (s.held + line.count '\\') := by
  induction line generalizing s with
  | nil => simp [readCmd, leaning, count_finish]
  | cons c r ih =>
    have hword (isQuoted : Bool) (held : Nat) := ih (.inside isQuoted held)
    have hgap := ih .gap
    simp only [CmdState.held] at hword hgap
    rw [readCmd, leaning]
    split
    · rename_i hc
      have h := hword s.isQuoted (s.held + 1)
      simp [hc]
      omega
    · rename_i hback
      split
      · rename_i hquote
        split
        · have h := hword (!s.isQuoted) 0
          simp [flatten_extend, List.count_replicate, hquote]
          omega
        · have h := hword s.isQuoted 0
          simp [flatten_extend, List.count_replicate, hquote]
          omega
      · rename_i hquote
        split
        · simp [hback, count_finish]
          omega
        · have h := hword s.isQuoted 0
          simp [flatten_extend, List.count_replicate, hback, hquote]
          omega

def shielded (word : List Char) : List Char :=
  word.flatMap fun c => if c = '"' then ['\\', '"'] else [c]

@[simp] theorem shielded_cons (c : Char) (r : List Char) :
    shielded (c :: r) = (if c = '"' then ['\\', '"'] else [c]) ++ shielded r := List.flatMap_cons

/-- A word is written in quotes, or else as it is because it needs none. -/
theorem quoteCmd_cases (word : List Char) :
    needsQuotes cmdSpecials word = true ∧ quoteCmd word = '"' :: shielded word ++ ['"'] ∨
    needsQuotes cmdSpecials word = false ∧ quoteCmd word = word ∧ word ≠ [] ∧
      ∀ c ∈ word, Text.isBlank c = false ∧ c ≠ '"' := by
  unfold quoteCmd
  split
  · rename_i hq
    exact .inl ⟨hq, rfl⟩
  · rename_i hq
    have hplain : word ≠ [] ∧ ∀ c ∈ word, Text.isBlank c = false ∧ c ∉ cmdSpecials := by
      simpa [needsQuotes] using hq
    refine .inr ⟨by simpa using hq, rfl, hplain.1, fun c hc => ⟨(hplain.2 c hc).1, ?_⟩⟩
    rintro rfl
    exact (hplain.2 _ hc).2 (by decide)

/-- The backslashes of a word that its quotes in the line cannot bear: in front of a quote of its
own, or last. -/
def stray (word : List Char) : Nat :=
  if needsQuotes cmdSpecials word then leaning 0 (word ++ ['"']) else 0

theorem leaning_append (held : Nat) (a : List Char) {c : Char} (hc : c ≠ '\\') (b : List Char) :
    leaning held (a ++ c :: b) = leaning held (a ++ [c]) + leaning 0 b := by
  induction a generalizing held with
  | nil => simp [leaning, hc]
  | cons d a ih => by_cases hd : d = '\\' <;> simp [leaning, hd, ih, Nat.add_assoc]

theorem leaning_concat (held : Nat) (a : List Char) {c : Char} (hc : c ≠ '"') :
    leaning held (a ++ [c]) = leaning held a := by
  induction a generalizing held with
  | nil => simp [leaning, hc]
  | cons d a ih => simp [leaning, ih]

theorem leaning_eq_zero (held : Nat) {s : List Char} (h : '"' ∉ s) : leaning held s = 0 := by
  induction s generalizing held with
  | nil => rfl
  | cons c r ih =>
    simp only [List.mem_cons, not_or] at h
    simp [leaning, ih _ h.2, Ne.symm h.1]

theorem leaning_shielded (held : Nat) (word : List Char) :
    leaning held (shielded word ++ ['"']) = word.count '"' + leaning held (word ++ ['"']) := by
  induction word generalizing held with
  | nil => simp [shielded]
  | cons c r ih =>
    by_cases hquote : c = '"'
    · simp [leaning, hquote, ih]
      omega
    · by_cases hback : c = '\\' <;> simp [leaning, hquote, hback, ih]

theorem count_shielded (word : List Char) :
    (shielded word).count '\\' = word.count '\\' + word.count '"' := by
  induction word with
  | nil => rfl
  | cons c r ih =>
    by_cases hquote : c = '"'
    · simp [hquote, ih]
      omega
    · by_cases hback : c = '\\'
      · simp [hback, ih]
        omega
      · simp [hquote, hback, ih]

theorem count_quoteCmd (word : List Char) :
    leaning 0 (quoteCmd word) = word.count '"' + stray word ∧
    (quoteCmd word).count '\\' = word.count '\\' + word.count '"' := by
  rcases quoteCmd_cases word with ⟨hneeds, hq⟩ | ⟨hneeds, hq, -, hplain⟩
  · rw [hq, stray, if_pos hneeds]
    exact ⟨by simp [leaning, leaning_shielded], by simp [count_shielded]⟩
  · have hquote : '"' ∉ word := fun hc => (hplain _ hc).2 rfl
    rw [hq, stray, hneeds, List.count_eq_zero.2 hquote]
    exact ⟨leaning_eq_zero 0 hquote, rfl⟩

theorem count_spaced (words : List (List Char)) :
    leaning 0 (spaced (words.map quoteCmd)) = words.flatten.count '"' + (words.map stray).sum ∧
    (spaced (words.map quoteCmd)).count '\\' =
      words.flatten.count '\\' + words.flatten.count '"' := by
  induction words with
  | nil => exact ⟨rfl, rfl⟩
  | cons word words ih =>
    obtain ⟨hleaning, hcount⟩ := count_quoteCmd word
    cases words with
    | nil => simp [spaced, hleaning, hcount]
    | cons next words =>
      have hspace : leaning 0 (quoteCmd word ++ [' ']) = leaning 0 (quoteCmd word) :=
        leaning_concat 0 _ (by decide)
      have hline : spaced ((word :: next :: words).map quoteCmd) =
          quoteCmd word ++ ' ' :: spaced ((next :: words).map quoteCmd) := by
        rw [List.map_cons, List.map_cons, spaced_cons_cons]
      rw [hline, leaning_append 0 _ (by decide), hspace, hleaning, ih.1]
      simp only [List.count_append, List.count_cons, List.flatten_cons, hcount, ih.2]
      simp
      omega

inductive FollowsCmd (blank : Char → Bool) : List Char → List (List Char) → Prop
  | done : FollowsCmd blank [] []
  | space (r : List Char) : FollowsCmd blank (' ' :: r) (readCmd blank .gap r)

section Reading

variable {tail : List Char} {ws : List (List Char)}

theorem FollowsCmd.inside (h : FollowsCmd blank tail ws) (hspace : blank ' ' = true) (held : Nat) :
    readCmd blank (.inside false held) tail = List.replicate held '\\' :: ws := by
  cases h with
  | done => rfl
  | space r => simp [readCmd, CmdState.isQuoted, CmdState.finish, hspace]

theorem readCmd_shielded (held : Nat) {word : List Char} (h : leaning held (word ++ ['"']) = 0)
    (tail : List Char) :
    readCmd blank (.inside true held) (shielded word ++ '"' :: tail) =
      extend (List.replicate held '\\' ++ word) (readCmd blank (.inside false 0) tail) := by
  induction word generalizing held with
  | nil =>
    obtain rfl : held = 0 := by simpa [leaning] using h
    simp [shielded, readCmd, CmdState.isQuoted, CmdState.held]
  | cons c r ih =>
    rw [List.cons_append, leaning] at h
    by_cases hback : c = '\\'
    · rw [if_pos hback] at h
      simp [readCmd, hback, CmdState.isQuoted, CmdState.held, ih _ h, List.replicate_succ']
    · rw [if_neg hback] at h
      obtain ⟨hheld, hr⟩ := Nat.add_eq_zero_iff.1 h
      by_cases hquote : c = '"'
      · obtain rfl : held = 0 := by simpa [hquote] using hheld
        simp [readCmd, hquote, CmdState.isQuoted, CmdState.held, ih _ hr, Words.extend_extend]
      · simp [readCmd, hquote, hback, CmdState.isQuoted, CmdState.held, ih _ hr,
          Words.extend_extend]

theorem readCmd_plain (h : FollowsCmd blank tail ws) (hspace : blank ' ' = true) (held : Nat)
    {word : List Char} (hword : ∀ c ∈ word, blank c = false ∧ c ≠ '"') :
    readCmd blank (.inside false held) (word ++ tail) =
      (List.replicate held '\\' ++ word) :: ws := by
  induction word generalizing held with
  | nil => simpa using h.inside hspace held
  | cons c r ih =>
    obtain ⟨⟨hblank, hquote⟩, hr⟩ := List.forall_mem_cons.1 hword
    by_cases hback : c = '\\'
    · simp [readCmd, hback, CmdState.isQuoted, CmdState.held, ih _ hr, List.replicate_succ']
    · simp [readCmd, hback, hquote, hblank, CmdState.isQuoted, CmdState.held, ih _ hr, extend]

/-- In front of a word the first character decides nothing but that there is one. -/
theorem readCmd_gap_cons {c : Char} (hc : blank c = false) (r : List Char) :
    readCmd blank .gap (c :: r) = readCmd blank (.inside false 0) (c :: r) := by
  simp [readCmd, hc, CmdState.isQuoted, CmdState.held]

theorem readCmd_quoteCmd (h : FollowsCmd blank tail ws) (hspace : blank ' ' = true)
    (hblank : ∀ c, blank c = true → Text.isBlank c = true) {word : List Char}
    (hword : stray word = 0) :
    readCmd blank .gap (quoteCmd word ++ tail) = word :: ws := by
  have hvisible {c : Char} (hc : Text.isBlank c = false) : blank c = false :=
    Bool.eq_false_iff.2 fun hb => by simp [hblank c hb] at hc
  rcases quoteCmd_cases word with ⟨hneeds, hq⟩ | ⟨-, hq, hne, hplain⟩
  · rw [stray, if_pos hneeds] at hword
    have hend : readCmd blank (.inside false 0) tail = [] :: ws := h.inside hspace 0
    rw [hq, List.append_assoc, List.cons_append, readCmd_gap_cons (hvisible (by decide)),
      List.singleton_append]
    simp [readCmd, CmdState.isQuoted, CmdState.held, readCmd_shielded 0 hword, hend, extend]
  · obtain ⟨c, r, rfl⟩ := List.exists_cons_of_ne_nil hne
    have hr : ∀ d ∈ c :: r, blank d = false ∧ d ≠ '"' :=
      fun d hd => ⟨hvisible (hplain d hd).1, (hplain d hd).2⟩
    rw [hq, List.cons_append, readCmd_gap_cons (hr c (by simp)).1, ← List.cons_append,
      readCmd_plain h hspace 0 hr]
    rfl

theorem readCmd_spaced (hspace : blank ' ' = true)
    (hblank : ∀ c, blank c = true → Text.isBlank c = true) {words : List (List Char)}
    (hwords : ∀ word ∈ words, stray word = 0) :
    wordsOfCmd blank (spaced (words.map quoteCmd)) = words := by
  induction words with
  | nil => rfl
  | cons word words ih =>
    obtain ⟨hword, hrest⟩ := List.forall_mem_cons.1 hwords
    cases words with
    | nil => simpa [spaced, wordsOfCmd] using readCmd_quoteCmd .done hspace hblank hword
    | cons next words =>
      have hline : spaced ((word :: next :: words).map quoteCmd) =
          quoteCmd word ++ ' ' :: spaced ((next :: words).map quoteCmd) := by
        rw [List.map_cons, List.map_cons, spaced_cons_cons]
      rw [hline, wordsOfCmd, readCmd_quoteCmd (.space _) hspace hblank hword]
      exact congrArg (word :: ·) (ih hrest)

end Reading

/-- The words and the line have to hold the same backslashes and quotes, so that none may stray. -/
theorem wordsOfCmd_spaced_iff (hspace : blank ' ' = true)
    (hblank : ∀ c, blank c = true → Text.isBlank c = true) (words : List (List Char)) :
    wordsOfCmd blank (spaced (words.map quoteCmd)) = words ↔ ∀ word ∈ words, stray word = 0 := by
  refine ⟨fun h => ?_, readCmd_spaced hspace hblank⟩
  obtain ⟨hleaning, hcount⟩ := count_spaced words
  have hread := count_readCmd blank .gap (spaced (words.map quoteCmd))
  rw [wordsOfCmd] at h
  rw [h, hcount, CmdState.held, hleaning] at hread
  have hsum : (words.map stray).sum = 0 := by omega
  simpa [List.sum_eq_zero_iff_forall_eq_nat] using hsum

theorem infix_replicate_append (held : Nat) {c : Char} (hc : c ≠ '\\') (r : List Char) :
    ['\\', '"'] <:+: List.replicate held '\\' ++ c :: r ↔
      (c = '"' ∧ held ≠ 0) ∨ ['\\', '"'] <:+: r := by
  induction held with
  | zero => simp [List.infix_cons_iff, Ne.symm hc]
  | succ held ih =>
    rw [List.replicate_succ, List.cons_append, List.infix_cons_iff, ih]
    cases held with
    | zero => simp [eq_comm (a := '"')]
    | succ held => simp [List.replicate_succ]

theorem leaning_eq_zero_iff (held : Nat) (s : List Char) :
    leaning held s = 0 ↔ ¬['\\', '"'] <:+: List.replicate held '\\' ++ s := by
  induction s generalizing held with
  | nil =>
    refine iff_of_true rfl fun h => ?_
    have hmem : '"' ∈ List.replicate held '\\' := by simpa using h.subset (a := '"') (by simp)
    exact absurd (List.eq_of_mem_replicate hmem) (by decide)
  | cons c r ih =>
    rw [leaning]
    split
    · rename_i hc
      rw [ih, hc, List.replicate_succ', List.append_assoc]
      rfl
    · rename_i hc
      have hrest := ih 0
      rw [List.replicate_zero, List.nil_append] at hrest
      rw [infix_replicate_append held hc, Nat.add_eq_zero_iff, hrest]
      by_cases hquote : c = '"' <;> simp [hquote]

theorem stray_eq_zero_iff (word : List Char) :
    stray word = 0 ↔ (needsQuotes cmdSpecials word = true → ¬['\\', '"'] <:+: word ++ ['"']) := by
  unfold stray
  split
  · rename_i hneeds
    rw [leaning_eq_zero_iff]
    simp [hneeds]
  · rename_i hneeds
    simp [hneeds]

/-- A line for cmd is read back as its words by the programs that it starts exactly if none of the
words that stand in quotes has a backslash last or in front of a quote, whatever of the white space
it is that parts words for them. -/
theorem wordsOfCmd_line_iff {blank : Char → Bool} (hspace : blank ' ' = true)
    (hblank : ∀ c, blank c = true → Text.isBlank c = true) {words : List String}
    (h : ∀ w ∈ words, NulFree w) :
    ∃ q, line .cmd words = .ok q ∧
      (wordsOfCmd blank q.toList = words.map String.toList ↔
        ∀ w ∈ words, needsQuotes cmdSpecials w.toList = true →
          ¬['\\', '"'] <:+: w.toList ++ ['"']) := by
  have hany : (words.any fun w => w.toList.contains '\x00') = false := by simpa [NulFree] using h
  have hquoted :
      (words.map fun w => quoteCmd w.toList) = (words.map String.toList).map quoteCmd := by simp
  refine ⟨.ofList (spaced ((words.map String.toList).map quoteCmd)),
    by rw [line, hany, hquoted]; rfl, ?_⟩
  rw [String.toList_ofList, wordsOfCmd_spaced_iff hspace hblank]
  simp only [List.forall_mem_map, stray_eq_zero_iff]

/-- Blanks as most programs know them; a path that ends in a backslash but needs no quotes, a word
with a quote, and backslashes away from quotes. -/
theorem wordsOfCmd_line_iff_quotes :
    (∀ w ∈ ["C:\\bin\\", "say \"hi\"", "", "\\\\a b\\c"], NulFree w) ∧
    line .cmd ["C:\\bin\\", "say \"hi\"", "", "\\\\a b\\c"] =
      .ok "C:\\bin\\ \"say \\\"hi\\\"\" \"\" \"\\\\a b\\c\"" ∧
    wordsOfCmd (fun c => c = ' ' || c = '\t')
      "C:\\bin\\ \"say \\\"hi\\\"\" \"\" \"\\\\a b\\c\"".toList =
      ["C:\\bin\\", "say \"hi\"", "", "\\\\a b\\c"].map String.toList := by
  have hn : ∀ w ∈ ["C:\\bin\\", "say \"hi\"", "", "\\\\a b\\c"], NulFree w := by decide +kernel
  have hline : line .cmd ["C:\\bin\\", "say \"hi\"", "", "\\\\a b\\c"] =
      .ok "C:\\bin\\ \"say \\\"hi\\\"\" \"\" \"\\\\a b\\c\"" :=
        eq_ok_of_toOption (by decide +kernel)
  have hblank : ∀ c, (decide (c = ' ') || decide (c = '\t')) = true → Text.isBlank c = true := by
    intro c hc
    simp only [Bool.or_eq_true, decide_eq_true_eq] at hc
    rcases hc with rfl | rfl <;> decide
  obtain ⟨q, hq, hiff⟩ := wordsOfCmd_line_iff (by decide) hblank hn
  obtain rfl := Except.ok.inj (hline.symm.trans hq)
  exact ⟨hn, hline, hiff.2 (by decide +kernel)⟩

/-- A backslash in front of a quote takes away its shield, and one at the end shields the quote that
should close. -/
theorem wordsOfCmd_line_ne :
    (∀ w ∈ ["npx", "a\\\"b", "my dir\\", "x"], NulFree w) ∧
    line .cmd ["npx", "a\\\"b", "my dir\\", "x"] = .ok "npx \"a\\\\\"b\" \"my dir\\\" x" ∧
    wordsOfCmd Text.isBlank "npx \"a\\\\\"b\" \"my dir\\\" x".toList =
      ["npx", "a\\b my", "dir\"", "x"].map String.toList ∧
    ¬∀ words : List String, words ≠ [] → (∀ w ∈ words, NulFree w) →
      ∃ q, line .cmd words = .ok q ∧
        wordsOfCmd Text.isBlank q.toList = words.map String.toList := by
  have hn : ∀ w ∈ ["npx", "a\\\"b", "my dir\\", "x"], NulFree w := by decide +kernel
  have hline : line .cmd ["npx", "a\\\"b", "my dir\\",
    "x"] = .ok "npx \"a\\\\\"b\" \"my dir\\\" x" :=
    eq_ok_of_toOption (by decide +kernel)
  have hread : wordsOfCmd Text.isBlank "npx \"a\\\\\"b\" \"my dir\\\" x".toList =
      ["npx", "a\\b my", "dir\"", "x"].map String.toList := by decide +kernel
  refine ⟨hn, hline, hread, fun h => ?_⟩
  obtain ⟨q, hq, hwords⟩ := h _ (by simp) hn
  obtain rfl := Except.ok.inj (hline.symm.trans hq)
  exact absurd (hread.symm.trans hwords) (by decide +kernel)

end Shorthand.Script
