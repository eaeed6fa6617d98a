import Shorthand.Invocation.Script
import Shorthand.Proofs.Success
import Shorthand.Proofs.Words.Quoting
/-!
Lines for PowerShell read back as their words. The reader knows nothing of how a line is put
together: one space parts two words, a quote opens a word that runs to the next quote not doubled,
and any other word refuses blanks and marks of the shell. The call operator stands in front exactly
of a quoted program.
-/
set_option autoImplicit false

namespace Shorthand.Script

open Words (NulFree extend)

/-- The characters that mean something to PowerShell outside of quotes. -/
def pwshMarks : List Char := "$\x60;&|()\x7b\x7d@,'\"<>#".toList

def isPlainPwsh (c : Char) : Bool := !Text.isBlank c && !pwshMarks.contains c

inductive PwshMode where
  /-- In front of a word. -/
  | start
  | bare
  | quoted
  /-- After a quote within quotes. Another one takes it back into them. -/
  | closing
  deriving DecidableEq, Repr

/-- The words of a line from here on; in the middle of a word its rest comes first. -/
def readPwsh : PwshMode → List Char → Option (List (List Char))
  | .start, [] | .quoted, [] => none
  | .bare, [] | .closing, [] => some [[]]
  | .start, c :: r =>
    if c = '\'' then readPwsh .quoted r
    else if isPlainPwsh c then (readPwsh .bare r).map (extend [c])
    else none
  | .bare, c :: r =>
    if c = ' ' then (readPwsh .start r).map ([] :: ·)
    else if isPlainPwsh c then (readPwsh .bare r).map (extend [c])
    else none
  | .quoted, c :: r =>
    if c = '\'' then readPwsh .closing r else (readPwsh .quoted r).map (extend [c])
  | .closing, c :: r =>
    if c = '\'' then (readPwsh .quoted r).map (extend [c])
    else if c = ' ' then (readPwsh .start r).map ([] :: ·)
    else none

def isCall (line : List Char) : Bool := ['&', ' '].isPrefixOf line

/-- The words of a whole line, behind the call operator if there is one. -/
def wordsOfPwsh (line : List Char) : Option (List (List Char)) :=
  readPwsh .start (if isCall line then line.drop 2 else line)

inductive Follows : List Char → List (List Char) → Prop
  | done : Follows [] []
  | space {r : List Char} {ws : List (List Char)} (h : readPwsh .start r = some ws) :
      Follows (' ' :: r) ws

variable {tail : List Char} {ws : List (List Char)}

theorem Follows.bare (h : Follows tail ws) : readPwsh .bare tail = some ([] :: ws) := by
  cases h with
  | done => rfl
  | space h => simp [readPwsh, h]

theorem Follows.closing (h : Follows tail ws) : readPwsh .closing tail = some ([] :: ws) := by
  cases h with
  | done => rfl
  | space h => simp [readPwsh, h]

def doubled (word : List Char) : List Char :=
  word.flatMap fun c => if c = '\'' then ['\'', '\''] else [c]

@[simp] theorem doubled_cons (c : Char) (r : List Char) :
    doubled (c :: r) = (if c = '\'' then ['\'', '\''] else [c]) ++ doubled r := List.flatMap_cons

@[simp] theorem length_doubled (word : List Char) :
    (doubled word).length = word.length + word.count '\'' := by
  induction word with
  | nil => rfl
  | cons c r ih => by_cases hc : c = '\'' <;> simp [hc, ih] <;> omega

@[simp] theorem mem_doubled {c : Char} {word : List Char} : c ∈ doubled word ↔ c ∈ word := by
  induction word with
  | nil => rfl
  | cons d r ih => by_cases hd : d = '\'' <;> simp [hd, ih]

theorem doubled_eq_self_iff {word : List Char} : doubled word = word ↔ '\'' ∉ word := by
  constructor
  · intro h
    have hlength := congrArg List.length h
    rw [length_doubled] at hlength
    exact List.count_eq_zero.1 (by omega)
  · intro h
    induction word with
    | nil => rfl
    | cons c r ih =>
      simp only [List.mem_cons, not_or] at h
      simp [Ne.symm h.1, ih h.2]

/-- A word is written in quotes, or else as it is because it needs none. -/
theorem quotePwsh_cases (word : List Char) :
    quotePwsh word = '\'' :: doubled word ++ ['\''] ∨
    quotePwsh word = word ∧ word ≠ [] ∧ ∀ c ∈ word, isPlainPwsh c = true := by
  have hmarks : pwshMarks = pwshSpecials := by decide
  unfold quotePwsh
  split
  · exact .inl rfl
  · rename_i hq
    exact .inr ⟨rfl, by simpa [needsQuotes, isPlainPwsh, hmarks] using hq⟩

theorem ne_of_isPlainPwsh {c d : Char} (h : isPlainPwsh c = true) (hd : isPlainPwsh d = false) :
    c ≠ d := by
  rintro rfl
  rw [hd] at h
  cases h

theorem readPwsh_doubled (h : Follows tail ws) (word : List Char) :
    readPwsh .quoted (doubled word ++ '\'' :: tail) = some (word :: ws) := by
  induction word with
  | nil => simpa [doubled, readPwsh] using h.closing
  | cons c r ih => by_cases hc : c = '\'' <;> simp [readPwsh, hc, ih, extend]

theorem readPwsh_plain (h : Follows tail ws) {word : List Char}
    (hw : ∀ c ∈ word, isPlainPwsh c = true) :
    readPwsh .bare (word ++ tail) = some (word :: ws) := by
  induction word with
  | nil => exact h.bare
  | cons c r ih =>
    obtain ⟨hc, hr⟩ := List.forall_mem_cons.1 hw
    simp [readPwsh, ne_of_isPlainPwsh hc (d := ' ') (by decide), hc, ih hr, extend]

theorem readPwsh_quotePwsh (h : Follows tail ws) (word : List Char) :
    readPwsh .start (quotePwsh word ++ tail) = some (word :: ws) := by
  rcases quotePwsh_cases word with hq | ⟨hq, hne, hplain⟩
  · rw [hq]
    simpa [readPwsh] using readPwsh_doubled h word
  · rw [hq]
    obtain ⟨c, r, rfl⟩ := List.exists_cons_of_ne_nil hne
    obtain ⟨hc, hr⟩ := List.forall_mem_cons.1 hplain
    simp [readPwsh, ne_of_isPlainPwsh hc (d := '\'') (by decide), hc, readPwsh_plain h hr, extend]

@[simp] theorem spaced_cons_cons (w v : List Char) (ws : List (List Char)) :
    spaced (w :: v :: ws) = w ++ ' ' :: spaced (v :: ws) := by
  rw [spaced, List.intercalate_cons_of_ne_nil (by simp), List.append_assoc]
  rfl

theorem readPwsh_spaced (word : List Char) (words : List (List Char)) :
    readPwsh .start (spaced ((word :: words).map quotePwsh)) = some (word :: words) := by
  induction words generalizing word with
  | nil => simpa [spaced] using readPwsh_quotePwsh .done word
  | cons next words ih =>
    rw [List.map_cons, List.map_cons, spaced_cons_cons]
    exact readPwsh_quotePwsh (.space (ih next)) word

/-- The first character of a written word tells whether the word was quoted, and is no call
operator. -/
theorem exists_quotePwsh_eq_cons (word : List Char) :
    ∃ c r, quotePwsh word = c :: r ∧ c ≠ '&' ∧ (c = '\'' ↔ quotePwsh word ≠ word) := by
  rcases quotePwsh_cases word with hq | ⟨hq, hne, hplain⟩
  · have hlength : ('\'' :: doubled word ++ ['\'']).length ≠ word.length := by simp; omega
    have hword : quotePwsh word ≠ word := fun h => hlength (congrArg List.length (hq.symm.trans h))
    exact ⟨'\'', doubled word ++ ['\''], hq, by decide, by simp [hword]⟩
  · obtain ⟨c, r, rfl⟩ := List.exists_cons_of_ne_nil hne
    have hc : isPlainPwsh c = true := hplain c (by simp)
    have hquote : c ≠ '\'' := ne_of_isPlainPwsh hc (by decide)
    exact ⟨c, r, hq, ne_of_isPlainPwsh hc (by decide), by simp [hquote, hq]⟩

theorem exists_spaced_eq_cons (word : List Char) (words : List (List Char)) :
    ∃ c r, spaced ((word :: words).map quotePwsh) = c :: r ∧
      c ≠ '&' ∧ (c = '\'' ↔ quotePwsh word ≠ word) := by
  obtain ⟨c, r, hcr, hc⟩ := exists_quotePwsh_eq_cons word
  cases words with
  | nil => exact ⟨c, r, by simp [spaced, hcr], hc⟩
  | cons next words =>
    refine ⟨c, r ++ ' ' :: spaced ((next :: words).map quotePwsh), ?_, hc⟩
    rw [List.map_cons, List.map_cons, spaced_cons_cons, hcr]
    rfl

/-- A line begins with the call operator exactly if its program was quoted, and behind it stand the
words. -/
theorem linePwsh_cons (word : List Char) (words : List (List Char)) :
    (isCall (linePwsh (word :: words)) = true ↔ quotePwsh word ≠ word) ∧
    wordsOfPwsh (linePwsh (word :: words)) =
      readPwsh .start (spaced ((word :: words).map quotePwsh)) := by
  obtain ⟨c, r, hcr, hcall, hquote⟩ := exists_spaced_eq_cons word words
  by_cases hc : c = '\''
  · have hline : linePwsh (word :: words) = '&' :: ' ' :: c :: r := by
      simp only [linePwsh, hcr, hc]; rfl
    rw [hline, hcr]
    exact ⟨iff_of_true rfl (hquote.1 hc), rfl⟩
  · have hline : linePwsh (word :: words) = c :: r := by
      simp only [linePwsh, hcr, List.head?_cons, Option.some.injEq, hc, if_false]
    have hno : isCall (c :: r) = false := by simp [isCall, List.isPrefixOf, Ne.symm hcall]
    rw [hline, hcr, wordsOfPwsh, hno]
    exact ⟨iff_of_false (by decide) (fun h => hc (hquote.2 h)), rfl⟩

/-- A line for PowerShell reads back as its words, whatever they hold, and calls its program exactly
if the program had to be quoted. -/
theorem wordsOfPwsh_line (program : String) {args : List String}
    (h : ∀ w ∈ program :: args, NulFree w) :
    ∃ q, line .pwsh (program :: args) = .ok q ∧
      wordsOfPwsh q.toList = some ((program :: args).map String.toList) ∧
      (isCall q.toList = true ↔ quotePwsh program.toList ≠ program.toList) := by
  have hany : ((program :: args).any fun w => w.toList.contains '\x00') = false := by
    simpa [NulFree] using h
  obtain ⟨hcall, hwords⟩ := linePwsh_cons program.toList (args.map String.toList)
  refine ⟨.ofList (linePwsh ((program :: args).map String.toList)), by rw [line, hany]; rfl, ?_, ?_⟩
  · rw [String.toList_ofList, List.map_cons, hwords, readPwsh_spaced]
  · rw [String.toList_ofList, List.map_cons, hcall]

theorem wordsOfPwsh_line_quotes :
    (∀ w ∈ ["my tool", "it''s", "", "say \"hi\"", "-x", "'"], NulFree w) ∧
    line .pwsh ["my tool", "it''s", "", "say \"hi\"", "-x", "'"] =
      .ok "& 'my tool' 'it''''s' '' 'say \"hi\"' -x ''''" ∧
    wordsOfPwsh "& 'my tool' 'it''''s' '' 'say \"hi\"' -x ''''".toList =
      some (["my tool", "it''s", "", "say \"hi\"", "-x", "'"].map String.toList) ∧
    isCall "& 'my tool' 'it''''s' '' 'say \"hi\"' -x ''''".toList = true := by
  have hn : ∀ w ∈ ["my tool", "it''s", "", "say \"hi\"", "-x", "'"], NulFree w := by decide +kernel
  have hline : line .pwsh ["my tool", "it''s", "", "say \"hi\"", "-x", "'"] =
      .ok "& 'my tool' 'it''''s' '' 'say \"hi\"' -x ''''" := eq_ok_of_toOption (by decide +kernel)
  obtain ⟨q, hq, hwords, hcall⟩ := wordsOfPwsh_line "my tool" hn
  obtain rfl := Except.ok.inj (hline.symm.trans hq)
  exact ⟨hn, hline, hwords, hcall.2 (by decide +kernel)⟩

end Shorthand.Script
