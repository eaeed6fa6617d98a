import Shorthand.Proofs.Words.Reading
import Shorthand.Words.Quote
set_option autoImplicit false

namespace Shorthand.Words

theorem ne_of_isBare {c d : Char} (h : isBare c = true) (hd : isBare d = false) : c ≠ d := by
  rintro rfl
  rw [hd] at h
  cases h

theorem isSeparator_of_isBare {c : Char} (h : isBare c = true) : isSeparator c = false := by
  have hs := ne_of_isBare h (d := ' ') (by decide)
  have ht := ne_of_isBare h (d := '\t') (by decide)
  have hn := ne_of_isBare h (d := '\n') (by decide)
  simp [isSeparator, hs, ht, hn]

theorem opened_of_isBare {c : Char} (h : isBare c = true) : Mode.opened c = .bare := by
  have hd := ne_of_isBare h (d := '"') (by decide)
  have hs := ne_of_isBare h (d := '\'') (by decide)
  have hb := ne_of_isBare h (d := '\\') (by decide)
  simp [Mode.opened, hd, hs, hb]

def Style.Keeps (style : Style) (c : Char) : Prop :=
  match style with
  | .bare => isBare c = true
  | .single => c ≠ '\''
  | .double => True

theorem Style.keeps_of_admits {style : Style} {c : Char} (h : style.admits c = true) :
    style.Keeps c := by
  cases style with
  | bare => exact h
  | single =>
    simp only [admits, Bool.and_eq_true, decide_eq_true_eq] at h
    exact h.1.1
  | double => trivial

theorem keeps_of_mem_stylesOf {style : Style} {c : Char} (h : style ∈ stylesOf c) :
    style.Keeps c := by
  unfold stylesOf at h
  split at h
  · rename_i hc
    subst hc
    obtain rfl := List.mem_singleton.1 h
    simp [Style.Keeps]
  · exact Style.keeps_of_admits (List.mem_filter.1 h).2

@[simp] theorem stylesOf_ne_nil (c : Char) : stylesOf c ≠ [] := by
  unfold stylesOf
  split
  · simp
  · rename_i hc
    -- Of the characters that single quotes leave out, double quotes leave out only `^`.
    by_cases hs : Style.single.admits c = true
    · exact List.ne_nil_of_mem (List.mem_filter.2 ⟨by simp, hs⟩ : Style.single ∈ _)
    · refine List.ne_nil_of_mem (List.mem_filter.2 ⟨by simp, ?_⟩ : Style.double ∈ _)
      simp only [Style.admits, Bool.and_eq_true, decide_eq_true_eq, not_and, ne_eq, hc,
        not_false_eq_true, and_true, Classical.not_not] at hs
      by_cases hq : c = '\''
      · subst hq; decide
      · rw [hs hq]; decide

theorem preferred_mem {styles : List Style} (h : styles ≠ []) : preferred styles ∈ styles := by
  cases styles with
  | nil => exact absurd rfl h
  | cons s ss => simp [preferred]

theorem isLiteral_of_isBare {c : Char} (h : isBare c = true) : isLiteral c = true := by
  simp [isLiteral, isSeparator_of_isBare h, opened_of_isBare h]

theorem read_bare_bare {chunk : List Char} (h : ∀ c ∈ chunk, isBare c = true) (tail : List Char) :
    read .bare (chunk ++ tail) = (read .bare tail).map (extend chunk) :=
  read_literal (fun c hc => isLiteral_of_isBare (h c hc)) tail

theorem read_single_quoted {chunk : List Char} (h : ∀ c ∈ chunk, c ≠ '\'') (tail : List Char) :
    read .single (chunk ++ '\'' :: tail) = (read .bare tail).map (extend chunk) := by
  induction chunk with
  | nil => rw [map_extend_nil rfl]; rfl
  | cons c r ih =>
    obtain ⟨hc, hr⟩ := List.forall_mem_cons.1 h
    rw [List.cons_append, read, if_neg hc, ih hr, map_extend_extend]
    rfl

theorem read_double_quoted (chunk tail : List Char) :
    read .double (chunk.flatMap (fun c => if c = '"' || c = '\\' then ['\\', c] else [c]) ++
      '"' :: tail) =
      (read .bare tail).map (extend chunk) := by
  induction chunk with
  | nil => rw [map_extend_nil rfl]; rfl
  | cons c r ih =>
    rw [List.flatMap_cons, List.append_assoc]
    by_cases hc : c = '"' ∨ c = '\\'
    · have he : isEscapable c = true := by rcases hc with rfl | rfl <;> rfl
      rw [if_pos (by simpa using hc)]
      simp only [List.cons_append, List.nil_append]
      rw [read, if_neg (by decide), if_pos rfl, read, ih, if_pos he, map_extend_extend]
      rfl
    · simp only [not_or] at hc
      rw [if_neg (by simpa using hc)]
      simp only [List.cons_append, List.nil_append]
      rw [read, if_neg hc.1, if_neg hc.2, ih, map_extend_extend]
      rfl

theorem read_write {style : Style} {chunk : List Char} (h : ∀ c ∈ chunk, style.Keeps c)
    (tail : List Char) :
    read .bare (style.write chunk ++ tail) = (read .bare tail).map (extend chunk) := by
  cases style with
  | bare => exact read_bare_bare h tail
  | single =>
    rw [← read_single_quoted h tail]
    simp only [Style.write, List.append_assoc, List.cons_append, List.nil_append]
    rw [read, if_neg (by decide), if_neg (by decide)]
    rfl
  | double =>
    rw [← read_double_quoted chunk tail]
    simp only [Style.write, List.append_assoc, List.cons_append, List.nil_append]
    rw [read, if_neg (by decide), if_neg (by decide)]
    rfl

theorem read_gap_write {style : Style} {chunk : List Char} (h : ∀ c ∈ chunk, style.Keeps c)
    (hne : chunk ≠ []) (tail : List Char) :
    read .gap (style.write chunk ++ tail) = read .bare (style.write chunk ++ tail) := by
  obtain ⟨c, r, hcr, hsep, hhash⟩ :
      ∃ c r, style.write chunk = c :: r ∧ isSeparator c = false ∧ c ≠ '#' := by
    cases style with
    | bare =>
      -- An empty chunk without quotes would be no word.
      cases chunk with
      | nil => exact absurd rfl hne
      | cons c r =>
        have hc : isBare c = true := h c (by simp)
        exact ⟨c, r, rfl, isSeparator_of_isBare hc, ne_of_isBare hc (by decide)⟩
    | single | double => exact ⟨_, _, rfl, by decide, by decide⟩
  rw [hcr, List.cons_append, read, read]
  simp only [hsep, hhash, Bool.false_eq_true, if_false]

def Left (styles : List Style) (chunk : List Char) : Prop :=
  styles ≠ [] ∧ ∀ s ∈ styles, ∀ c ∈ chunk, s.Keeps c

theorem left_stylesOf (c : Char) : Left (stylesOf c) [c] := by
  refine ⟨stylesOf_ne_nil c, fun s hs d hd => ?_⟩
  obtain rfl := List.mem_singleton.1 hd
  exact keeps_of_mem_stylesOf hs

theorem Left.preferred_keeps {styles : List Style} {chunk : List Char} (h : Left styles chunk) :
    ∀ c ∈ chunk.reverse, (preferred styles).Keeps c :=
  fun c hc => h.2 _ (preferred_mem h.1) c (List.mem_reverse.1 hc)

theorem Left.cons {styles : List Style} {chunk : List Char} (h : Left styles chunk) {c : Char}
    (hne : styles.filter (·.admits c) ≠ []) : Left (styles.filter (·.admits c)) (c :: chunk) := by
  refine ⟨hne, fun s hs => List.forall_mem_cons.2 ⟨?_, ?_⟩⟩
  · exact Style.keeps_of_admits (List.mem_filter.1 hs).2
  · exact h.2 s (List.mem_filter.1 hs).1

theorem read_writeChunks {styles : List Style} {chunk : List Char} (rest : List Char)
    (h : Left styles chunk) (tail : List Char) :
    read .bare (writeChunks styles chunk rest ++ tail) =
      (read .bare tail).map (extend (chunk.reverse ++ rest)) := by
  induction rest generalizing styles chunk with
  | nil => rw [writeChunks, read_write h.preferred_keeps, List.append_nil]
  | cons c r ih =>
    rw [writeChunks]
    split
    · rw [List.append_assoc, read_write h.preferred_keeps, ih (left_stylesOf c), map_extend_extend]
      rfl
    · rename_i s ss hf
      rw [ih (hf ▸ h.cons (by rw [hf]; simp))]
      simp

theorem read_gap_writeChunks {styles : List Style} {chunk : List Char} (rest : List Char)
    (h : Left styles chunk) (hne : chunk ≠ []) (tail : List Char) :
    read .gap (writeChunks styles chunk rest ++ tail) =
      read .bare (writeChunks styles chunk rest ++ tail) := by
  induction rest generalizing styles chunk with
  | nil =>
    rw [writeChunks]
    exact read_gap_write h.preferred_keeps (by simpa using hne) tail
  | cons c r ih =>
    rw [writeChunks]
    split
    · rw [List.append_assoc]
      exact read_gap_write h.preferred_keeps (by simpa using hne) _
    · rename_i s ss hf
      exact ih (hf ▸ h.cons (by rw [hf]; simp)) (by simp)

theorem read_quoted (word tail : List Char) :
    read .bare (quoted word ++ tail) = (read .bare tail).map (extend word) := by
  cases word with
  | nil =>
    have he : ∀ c ∈ ([] : List Char), Style.single.Keeps c := by simp
    exact read_write he tail
  | cons c r => exact read_writeChunks r (left_stylesOf c) tail

/-- A quoted word is read as the word, whatever its characters are and whatever follows it. -/
theorem isWritten_quoted (word : List Char) : IsWritten (quoted word) word := by
  intro tail
  rw [← read_quoted]
  cases word with
  | nil => rfl
  | cons c r => exact read_gap_writeChunks r (left_stylesOf c) (by simp) tail

/-- A text without U+0000. -/
def NulFree (s : String) : Prop := '\x00' ∉ s.toList

instance (s : String) : Decidable (NulFree s) := inferInstanceAs (Decidable ('\x00' ∉ s.toList))

theorem quote_of_nulFree {w : String} (h : NulFree w) :
    quote w = some (.ofList (quoted w.toList)) := by
  have hw : ¬w.toList.contains '\x00' := by simpa [NulFree] using h
  rw [quote, if_neg hw]

theorem mapM_quote {words : List String} (h : ∀ w ∈ words, NulFree w) :
    words.mapM quote = some (words.map fun w => .ofList (quoted w.toList)) := by
  induction words with
  | nil => rfl
  | cons w ws ih =>
    obtain ⟨hw, hr⟩ := List.forall_mem_cons.1 h
    simp [List.mapM_cons, quote_of_nulFree hw, ih hr]

theorem join_of_nulFree {words : List String} (h : ∀ w ∈ words, NulFree w) :
    join words = some (.ofList ([' '].intercalate (words.map fun w => quoted w.toList))) := by
  rw [join, mapM_quote h, Option.map_some]
  congr 1
  apply String.toList_injective
  simp [String.toList_intercalate, Function.comp_def]

theorem read_join {words : List String} {line : String} (h : ∀ w ∈ words, NulFree w)
    (hl : join words = some line) : read .gap line.toList = some (words.map String.toList) := by
  rw [join_of_nulFree h] at hl
  obtain rfl := Option.some.inj hl
  rw [String.toList_ofList]
  exact read_intercalate fun w _ => isWritten_quoted w.toList

@[simp] theorem map_ofList_toList (words : List String) :
    (words.map String.toList).map String.ofList = words := by
  simp [Function.comp_def]

theorem split_join {words : List String} {line : String} (h : ∀ w ∈ words, NulFree w)
    (hl : join words = some line) : split line = some words := by
  rw [split, read_join h hl, Option.map_some, map_ofList_toList]

/-- Two lines with a blank between them read as the words of the one and then those of the other, if
no `#` stands in the first. -/
theorem split_append_blank {p q : String} {ws vs : List String} (hp : '#' ∉ p.toList)
    (hws : split p = some ws) (hvs : split q = some vs) :
    split (p ++ " " ++ q) = some (ws ++ vs) := by
  obtain ⟨us, hus, rfl⟩ := Option.map_eq_some_iff.1 hws
  obtain ⟨ts, hts, rfl⟩ := Option.map_eq_some_iff.1 hvs
  have h := read_append_blank (by decide) hp hus q.toList
  rw [hts] at h
  simp [split, h]

end Shorthand.Words
