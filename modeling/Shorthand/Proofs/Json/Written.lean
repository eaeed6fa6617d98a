import Shorthand.Json.Printer
import Shorthand.Proofs.Json.Padding
set_option autoImplicit false

namespace Shorthand.Json

variable {s tail : List Char} {c : Char} {n k : Nat}

theorem skipSpace_eq_self (h : isSpace c = false) : skipSpace (c :: s) = c :: s := by
  simp [skipSpace, h]

theorem hexDigit?_hexDigit (n : Nat) : hexDigit? (hexDigit n) = some (n % 16) := by
  have hall : ∀ d < 16, hexDigit? (Nat.digitChar d) = some d := by decide
  exact hall (n % 16) (Nat.mod_lt n (by decide))

theorem unicodeEscape_control (h : c.toNat < 0x20) (s : List Char) :
    unicodeEscape ('0' :: '0' :: hexDigit (c.toNat / 16) :: hexDigit c.toNat :: s) =
      .ok (c, s) := by
  have hhex :
      hex4 ('0' :: '0' :: hexDigit (c.toNat / 16) :: hexDigit c.toNat :: s) = .ok (c.toNat, s) := by
    refine hex4_eq_ok_iff.2 ⟨['0', '0', hexDigit (c.toNat / 16), hexDigit c.toNat],
      [0, 0, c.toNat / 16 % 16, c.toNat % 16], rfl, rfl, ?_, ?_⟩
    · have hzero : hexDigit? '0' = some 0 := by decide
      simp [hexDigit?_hexDigit, hzero]
    · simp only [List.foldl_cons, List.foldl_nil]
      omega
  have hlow : isLowSurrogate c.toNat = false := by
    simp only [isLowSurrogate, Bool.and_eq_false_iff, decide_eq_false_iff_not]
    omega
  have hhigh : isHighSurrogate c.toNat = false := by
    simp only [isHighSurrogate, Bool.and_eq_false_iff, decide_eq_false_iff_not]
    omega
  rw [unicodeEscape, hhex]
  simp [hlow, hhigh, Char.ofNat_toNat]

theorem stringChars_escape {r : List Char} (h : escape s = .ok (c, r)) :
    stringChars (n + 1) ('\\' :: s) = (stringChars n r).map fun p => (c :: p.1, p.2) := by
  have hquote : '\\' ≠ '"' := by decide
  rw [stringChars, if_neg hquote, if_pos rfl, h]
  dsimp only [ok_bind, error_bind]
  cases stringChars n r <;> rfl

theorem stringChars_plain (hquote : c ≠ '"') (hslash : c ≠ '\\') (hcontrol : isControl c = false) :
    stringChars (n + 1) (c :: s) = (stringChars n s).map fun p => (c :: p.1, p.2) := by
  rw [stringChars, if_neg hquote, if_neg hslash, if_neg (by simp [hcontrol])]
  cases stringChars n s <;> rfl

theorem escaped_cases (c : Char) :
    (∃ d, escaped c = ['\\', d] ∧ d ≠ 'u' ∧ shortEscape? d = some c) ∨
    (c.toNat < 0x20 ∧
      escaped c = ['\\', 'u', '0', '0', hexDigit (c.toNat / 16), hexDigit c.toNat]) ∨
    (c ≠ '"' ∧ c ≠ '\\' ∧ isControl c = false ∧ escaped c = [c]) := by
  by_cases h : c ∈ ['"', '\\', '\x08', '\t', '\n', '\x0c', '\r']
  · simp only [List.mem_cons, List.not_mem_nil, or_false] at h
    rcases h with rfl | rfl | rfl | rfl | rfl | rfl | rfl <;> exact .inl ⟨_, rfl, by decide, rfl⟩
  · simp only [List.mem_cons, List.not_mem_nil, or_false, not_or] at h
    obtain ⟨hquote, hslash, hb, ht, hn, hf, hr⟩ := h
    simp only [escaped, hquote, hslash, hb, ht, hn, hf, hr, if_false]
    by_cases hcontrol : c.toNat < 0x20
    · exact .inr (.inl ⟨hcontrol, if_pos hcontrol⟩)
    · exact .inr (.inr ⟨hquote, hslash, by simpa [isControl] using hcontrol, if_neg hcontrol⟩)

theorem stringChars_escaped (n : Nat) (c : Char) (s : List Char) :
    stringChars (n + 1) (escaped c ++ s) = (stringChars n s).map fun p => (c :: p.1, p.2) := by
  rcases escaped_cases c with ⟨d, heq, hu, hd⟩ | ⟨hcontrol, heq⟩ | ⟨hquote, hslash, hcontrol, heq⟩
  · rw [heq]
    exact stringChars_escape (by simp [escape, hd])
  · rw [heq]
    exact stringChars_escape (unicodeEscape_control hcontrol s)
  · rw [heq]
    exact stringChars_plain hquote hslash hcontrol

theorem stringChars_flatMap_escaped {cs : List Char} (hn : cs.length < n) (s : List Char) :
    stringChars n (cs.flatMap escaped ++ '"' :: s) = .ok (cs, s) := by
  induction cs generalizing n with
  | nil =>
    obtain ⟨n, rfl⟩ : ∃ k, n = k + 1 := ⟨n - 1, by omega⟩
    rfl
  | cons c cs ih =>
    obtain ⟨n, rfl⟩ : ∃ k, n = k + 1 := ⟨n - 1, by omega⟩
    simp only [List.length_cons, Nat.add_lt_add_iff_right] at hn
    rw [List.flatMap_cons, List.append_assoc, stringChars_escaped, ih hn]
    rfl

theorem length_le_flatMap_escaped (cs : List Char) : cs.length ≤ (cs.flatMap escaped).length := by
  induction cs with
  | nil => simp
  | cons c cs ih =>
    have hc : 0 < (escaped c).length := by
      unfold escaped
      split_ifs <;> simp
    simp only [List.flatMap_cons, List.length_append, List.length_cons]
    omega

theorem stringAfterQuote_written (text : String) (s : List Char) :
    stringAfterQuote (text.toList.flatMap escaped ++ '"' :: s) = .ok (text, s) := by
  have hlength := length_le_flatMap_escaped text.toList
  rw [stringAfterQuote,
    stringChars_flatMap_escaped (by simp only [List.length_append, List.length_cons]; omega)]
  simp

theorem writeString_append (text : String) (s : List Char) :
    writeString text ++ s = '"' :: (text.toList.flatMap escaped ++ '"' :: s) := by
  simp [writeString]

theorem le_ofDigitChars (ds : List Char) (k : Nat) : k ≤ Nat.ofDigitChars 10 ds k := by
  rw [Nat.ofDigitChars_eq_ofDigitChars_zero]
  have hpow : 0 < 10 ^ ds.length := Nat.pow_pos (by decide)
  calc k ≤ 10 ^ ds.length * k := Nat.le_mul_of_pos_left k hpow
    _ ≤ _ := Nat.le_add_right _ _

theorem pushDigits_eq {ds : List Char} (h : Nat.ofDigitChars 10 ds k < Nat.pow 2 64) :
    pushDigits k ds = (Nat.ofDigitChars 10 ds k, ds.length) := by
  induction ds generalizing k with
  | nil => rfl
  | cons c ds ih =>
    have hstep :
        Nat.ofDigitChars 10 (c :: ds) k = Nat.ofDigitChars 10 ds (k * 10 + digitValue c) := by
      rw [Nat.ofDigitChars_cons, Nat.mul_comm]
      rfl
    rw [hstep] at h ⊢
    rw [pushDigits]
    simp only [Nat.lt_of_le_of_lt (le_ofDigitChars ds _) h, if_true, ih h, List.length_cons]

theorem exists_toDigits_eq_cons (hn : 0 < n) : ∃ d ds, Nat.toDigits 10 n = d :: ds ∧ d ≠ '0' := by
  induction n using Nat.strongRecOn with
  | ind n ih =>
    by_cases hlt : n < 10
    · refine ⟨Nat.digitChar n, [], Nat.toDigits_of_lt_base hlt, ?_⟩
      rw [Ne, Nat.digitChar_eq_zero]
      omega
    · obtain ⟨d, ds, hds, hd⟩ := ih (n / 10) (by omega) (by omega)
      exact ⟨d, ds ++ [Nat.digitChar (n % 10)],
        by rw [Nat.toDigits_of_base_le (by decide) (by omega), hds]; rfl, hd⟩

theorem isDigit_of_mem_toDigits (h : c ∈ Nat.toDigits 10 n) : c.isDigit :=
  Nat.isDigit_of_mem_toDigits (by decide) (by decide) h

theorem numberTail_of_endsToken (m : Mantissa) (h : EndsToken tail) :
    numberTail m true tail = m.toNumber tail := by
  cases tail with
  | nil => rfl
  | cons c tail =>
    have hmark : isExponentMark c = false :=
      eq_false_of_isTokenChar (isTokenChar_of_isExponentMark c) h.head
    have hpoint : c ≠ '.' := by
      rintro rfl
      exact absurd h.head (by decide)
    simp [numberTail, hmark]

theorem digits_toDigits (isNegative : Bool) (hn : n < Nat.pow 2 64) (h : EndsToken tail) :
    digits isNegative (Nat.toDigits 10 n ++ tail) = (Mantissa.mk isNegative n 0).toNumber tail := by
  rw [← numberTail_of_endsToken _ h]
  by_cases hzero : n = 0
  · subst hzero
    cases tail with
    | nil => rfl
    | cons c tail =>
      have hc : c.isDigit = false := eq_false_of_isTokenChar (isTokenChar_of_isDigit c) h.head
      simp [digits, hc]
  · obtain ⟨d, ds, hds, hd⟩ := exists_toDigits_eq_cons (Nat.pos_of_ne_zero hzero)
    have hdigit : ∀ c ∈ d :: ds, c.isDigit := fun c hc => isDigit_of_mem_toDigits (hds ▸ hc)
    have hstop : tail.takeWhile Char.isDigit = [] ∧ tail.dropWhile Char.isDigit = tail := by
      cases tail with
      | nil => simp
      | cons c tail =>
        have hc : c.isDigit = false := eq_false_of_isTokenChar (isTokenChar_of_isDigit c) h.head
        simp [hc]
    have hpush : pushDigits 0 (d :: ds) = (n, (d :: ds).length) := by
      rw [← hds, pushDigits_eq (by rwa [Nat.ofDigitChars_ten_toDigits]),
        Nat.ofDigitChars_ten_toDigits]
    have htake : (d :: ds ++ tail).takeWhile Char.isDigit = d :: ds := by
      rw [List.takeWhile_append_of_pos hdigit, hstop.1, List.append_nil]
    have hdrop : (d :: ds ++ tail).dropWhile Char.isDigit = tail := by
      rw [List.dropWhile_append_of_pos hdigit, hstop.2]
    rw [hds]
    simp only [List.cons_append] at htake hdrop ⊢
    simp [digits, hdigit d (by simp), htake, hdrop, hpush]

end Shorthand.Json
