import Shorthand.Proofs.Origin
import Shorthand.Proofs.Words.Quoting
set_option autoImplicit false

namespace Shorthand.Words

theorem Mode.length_given (m : Mode) (c : Char) :
    (m.given c).length + (m.next c).held.length ≤ m.held.length + 1 := by
  cases m <;> simp only [next, given] <;> repeat' split
  all_goals first | (simp_all [held]; done) | simp [held_opened]

/-- The words of a text are together no longer than the text and what the mode held back. -/
theorem length_of_read {m : Mode} {s : List Char} {ws : List (List Char)} (h : read m s = some ws) :
    ws.flatten.length ≤ m.held.length + s.length := by
  induction s generalizing m ws with
  | nil =>
    cases m <;> simp [read] at h
    all_goals subst h; simp
  | cons c r ih =>
    obtain ⟨vs, hvs, hflatten⟩ := exists_read_of_cons h
    have hgiven := m.length_given c
    have hrest := ih hvs
    rw [hflatten, List.length_append, List.length_cons]
    omega

theorem Mode.given_bare (c : Char) : given .bare c = if isLiteral c then [c] else [] := by
  by_cases hsep : isSeparator c = true <;> simp [given, isLiteral, hsep]

/-- Only literal characters come through outside of quotes without loss. -/
theorem literal_of_read {s : List Char} {ws : List (List Char)} (h : read .bare s = some ws)
    (hlength : s.length ≤ ws.flatten.length) : ∀ c ∈ s, isLiteral c = true := by
  induction s generalizing ws with
  | nil => simp
  | cons c r ih =>
    obtain ⟨vs, hvs, hflatten⟩ := exists_read_of_cons h
    rw [hflatten, Mode.given_bare, List.length_append, List.length_cons] at hlength
    by_cases hc : isLiteral c = true
    · have hnext : Mode.next .bare c = .bare := by
        simp only [isLiteral, Bool.and_eq_true, Bool.not_eq_true', decide_eq_true_eq] at hc
        simp [Mode.next, hc]
      rw [hnext] at hvs
      rw [if_pos hc, List.length_singleton] at hlength
      exact List.forall_mem_cons.2 ⟨hc, ih hvs (by omega)⟩
    · have hheld : (Mode.next .bare c).held = [] := by
        rw [Mode.next]
        split
        · rfl
        · exact Mode.held_opened c
      have hrest := length_of_read hvs
      rw [hheld] at hrest
      simp only [if_neg hc, List.length_nil] at hlength hrest
      omega

theorem length_write (style : Style) (chunk : List Char) :
    chunk.length ≤ (style.write chunk).length ∧
      (style ≠ .bare → chunk.length < (style.write chunk).length) := by
  cases style with
  | bare => exact ⟨Nat.le_refl _, fun h => absurd rfl h⟩
  | single => simp [Style.write]; omega
  | double =>
    have hescaped : chunk.length ≤
        (chunk.flatMap fun c => if c = '"' || c = '\\' then ['\\', c] else [c]).length := by
      induction chunk with
      | nil => simp
      | cons c r ih =>
        rw [List.flatMap_cons, List.length_append, List.length_cons]
        split <;> simp only [List.length_cons, List.length_nil] <;> omega
    simp only [Style.write, List.length_append, List.length_cons, List.length_nil]
    omega

/-- Words are longer written than read, unless they are bare. -/
theorem length_writeChunks {styles : List Style} {chunk : List Char} (rest : List Char)
    (h : Left styles chunk) :
    (∀ c ∈ chunk ++ rest, isBare c = true) ∧
      chunk.length + rest.length ≤ (writeChunks styles chunk rest).length ∨
      chunk.length + rest.length < (writeChunks styles chunk rest).length := by
  induction rest generalizing styles chunk with
  | nil =>
    obtain ⟨hle, hlt⟩ := length_write (preferred styles) chunk.reverse
    rw [writeChunks, List.append_nil]
    rw [List.length_reverse] at hle hlt
    by_cases hbare : preferred styles = .bare
    · refine .inl ⟨fun c hc => ?_, hle⟩
      simpa [hbare, Style.Keeps] using h.preferred_keeps c (List.mem_reverse.2 hc)
    · exact .inr (hlt hbare)
  | cons c r ih =>
    rw [writeChunks]
    split
    · obtain ⟨hle, hlt⟩ := length_write (preferred styles) chunk.reverse
      rw [List.length_reverse] at hle hlt
      have hrest := ih (left_stylesOf c)
      simp only [List.length_append, List.length_cons, List.length_nil] at hrest ⊢
      by_cases hbare : preferred styles = .bare
      · have hchunk : ∀ d ∈ chunk, isBare d = true := fun d hd => by
          simpa [hbare, Style.Keeps] using h.preferred_keeps d (List.mem_reverse.2 hd)
        rcases hrest with ⟨hr, hlength⟩ | hlength
        · exact .inl ⟨List.forall_mem_append.2 ⟨hchunk, hr⟩, by omega⟩
        · exact .inr (by omega)
      · have := hlt hbare
        exact .inr (by omega)
    · rename_i s ss hf
      have hrest := ih (hf ▸ h.cons (by rw [hf]; simp))
      simp only [List.length_cons] at hrest ⊢
      rcases hrest with ⟨hr, hlength⟩ | hlength
      · exact .inl ⟨fun d hd => hr d (List.perm_middle.mem_iff.1 hd), by omega⟩
      · exact .inr (by omega)

theorem writeChunks_bare {styles : List Style} {chunk rest : List Char}
    (hrest : ∀ c ∈ rest, isBare c = true) :
    writeChunks (.bare :: styles) chunk rest = chunk.reverse ++ rest := by
  induction rest generalizing styles chunk with
  | nil => simp [writeChunks, preferred, Style.write]
  | cons c r ih =>
    obtain ⟨hc, hr⟩ := List.forall_mem_cons.1 hrest
    have hadmits : Style.bare.admits c = true := hc
    have hfilter :
        (Style.bare :: styles).filter (·.admits c) = .bare :: styles.filter (·.admits c) :=
      List.filter_cons_of_pos hadmits
    simp [writeChunks, hfilter, ih hr]

theorem stylesOf_of_isBare {c : Char} (h : isBare c = true) :
    stylesOf c = .bare :: [Style.single, Style.double].filter fun s => s.admits c := by
  have hadmits : Style.bare.admits c = true := h
  rw [stylesOf, if_neg (ne_of_isBare h (by decide)), List.filter_cons, if_pos hadmits]

/-- Exactly the words of bare characters are written without quotes. -/
theorem quoted_eq_self_iff (word : List Char) :
    quoted word = word ↔ word ≠ [] ∧ ∀ c ∈ word, isBare c = true := by
  cases word with
  | nil => simp [quoted]
  | cons c r =>
    refine ⟨fun heq => ⟨by simp, ?_⟩, fun h => ?_⟩
    · rcases length_writeChunks r (left_stylesOf c) with ⟨hbare, -⟩ | hlength
      · exact hbare
      · have hquoted : (writeChunks (stylesOf c) [c] r).length = (c :: r).length :=
          congrArg List.length heq
        simp only [List.length_cons, List.length_nil] at hquoted hlength
        omega
    · obtain ⟨hc, hr⟩ := List.forall_mem_cons.1 h.2
      rw [quoted, stylesOf_of_isBare hc, writeChunks_bare hr]
      rfl

theorem mem_write {style : Style} {chunk : List Char} {d : Char} (h : d ∈ style.write chunk) :
    d ∈ chunk ∨ Mode.opened d ≠ .bare := by
  cases style with
  | bare => exact .inl h
  | single =>
    simp only [Style.write, List.mem_append, List.mem_cons, List.not_mem_nil, or_false] at h
    rcases h with (rfl | h) | rfl
    · exact .inr (by decide)
    · exact .inl h
    · exact .inr (by decide)
  | double =>
    simp only [Style.write, List.mem_append, List.mem_cons, List.not_mem_nil, or_false,
      List.mem_flatMap] at h
    rcases h with (rfl | ⟨c, hc, h⟩) | rfl
    · exact .inr (by decide)
    · split at h
      · rcases List.mem_cons.1 h with rfl | h
        · exact .inr (by decide)
        · exact .inl (List.mem_singleton.1 h ▸ hc)
      · exact .inl (List.mem_singleton.1 h ▸ hc)
    · exact .inr (by decide)

theorem mem_writeChunks {styles : List Style} {chunk rest : List Char} {d : Char}
    (h : d ∈ writeChunks styles chunk rest) : d ∈ chunk ++ rest ∨ Mode.opened d ≠ .bare := by
  induction rest generalizing styles chunk with
  | nil =>
    rw [writeChunks] at h
    simpa using mem_write h
  | cons c r ih =>
    rw [writeChunks] at h
    split at h
    · rcases List.mem_append.1 h with h | h
      · exact (mem_write h).imp_left fun hd => by simp [List.mem_reverse.1 hd]
      · exact (ih h).imp_left fun hd => List.mem_append_right chunk hd
    · exact (ih h).imp_left fun hd => List.perm_middle.mem_iff.2 hd

theorem mem_quoted_iff {word : List Char} {d : Char} (hd : Mode.opened d = .bare) :
    d ∈ quoted word ↔ d ∈ word := by
  refine ⟨fun h => ?_, fun h => subset_of_read (isWritten_quoted word).read_end word (by simp) h⟩
  cases word with
  | nil =>
    have : d = '\'' := by simpa [quoted] using h
    exact absurd hd (by subst this; decide)
  | cons c r => exact (mem_writeChunks h).resolve_right (not_not_intro hd)

end Shorthand.Words
