import Shorthand.Proofs.Json.Next
import Shorthand.Proofs.Json.Token
/-!
Blanks between tokens. What a reader makes of a text, it makes of the text with blanks put in or
taken out outside of strings, as long as none is put into a token: it gives the same value, and the
rests differ in such blanks only.
-/
set_option autoImplicit false

namespace Shorthand.Json

/-- Where in a text a character stands: outside of strings, perhaps right behind a character of a
token, in a string, or behind a backslash in a string. -/
inductive Zone where
  | code (inToken : Bool)
  | string
  | escape

def Zone.next (c : Char) : Zone → Zone
  | .code _ => if c = '"' then .string else .code (isTokenChar c)
  | .string => if c = '"' then .code false else if c = '\\' then .escape else .string
  | .escape => .string

/-- The second text has blanks that the first lacks and lacks blanks that the first has; where it
has one of its own, it stands before or behind no token character, or where the first has a blank
too. -/
inductive Padded : Zone → List Char → List Char → Prop
  | nil {z : Zone} : Padded z [] []
  | left {g : Bool} {a b : List Char} (h : Padded (.code false) a b) : Padded (.code g) (' ' :: a) b
  | right {g : Bool} {a b : List Char} (hfree : g → EndsToken a) (h : Padded (.code false) a b) :
    Padded (.code g) a (' ' :: b)
  | cons {z : Zone} {c : Char} {a b : List Char} (h : Padded (z.next c) a b) :
      Padded z (c :: a) (c :: b)

/-- The next thing to be read is no token. -/
def Settled (s : List Char) : Prop := EndsToken (skipSpace s)

variable {α : Type} {a b r s w : List Char} {g : Bool} {c : Char}

namespace Padded

theorem loosen (h : Padded (.code g) a b) : Padded (.code false) a b := by
  cases h with
  | nil => exact .nil
  | left h => exact .left h
  | right _ h => exact .right (by simp) h
  | cons h => exact .cons h

theorem skipSpace_cases (h : Padded (.code g) a b) :
    (skipSpace a = [] ∧ skipSpace b = []) ∨
      ∃ c r r', skipSpace a = c :: r ∧
        skipSpace b = c :: r' ∧ Padded ((Zone.code false).next c) r r' ∧
        r'.length < b.length := by
  -- By induction on how the texts differ, whose zone is a variable there: up to the next token it
  -- is of code.
  generalize hz : Zone.code g = z at h
  induction h generalizing g with
  | nil => exact .inl ⟨rfl, rfl⟩
  | left h ih => exact ih rfl
  | right _ h ih =>
    rcases ih rfl with hend | ⟨c, r, r', ha, hb, hpad, hlt⟩
    · exact .inl hend
    · exact .inr ⟨c, r, r', ha, hb, hpad, Nat.lt_succ_of_lt hlt⟩
  | @cons _ c a b h ih =>
    subst hz
    by_cases hc : isSpace c
    · have hnext : (Zone.code g).next c = .code false := by
        simp only [isSpace, Bool.or_eq_true, decide_eq_true_eq] at hc
        rcases hc with ((rfl | rfl) | rfl) | rfl <;> rfl
      have hskip (t : List Char) : skipSpace (c :: t) = skipSpace t := by simp [skipSpace, hc]
      rw [hskip, hskip]
      rcases ih hnext.symm with hend | ⟨d, r, r', ha, hb, hpad, hlt⟩
      · exact .inl hend
      · exact .inr ⟨d, r, r', ha, hb, hpad, Nat.lt_succ_of_lt hlt⟩
    · have hskip (t : List Char) : skipSpace (c :: t) = c :: t := by simp [skipSpace, hc]
      exact .inr ⟨c, a, b, hskip a, hskip b, h, Nat.lt_succ_self _⟩

theorem skipSpace_nil (h : Padded (.code g) a b) (ha : skipSpace a = []) : skipSpace b = [] := by
  rcases h.skipSpace_cases with ⟨-, hb⟩ | ⟨c, r, r', ha', -⟩
  · exact hb
  · simp [ha] at ha'

theorem skipSpace_cons (h : Padded (.code g) a b) (ha : skipSpace a = c :: r) :
    ∃ r', skipSpace b = c :: r' ∧
      Padded ((Zone.code false).next c) r r' ∧ r'.length < b.length := by
  rcases h.skipSpace_cases with ⟨ha', -⟩ | ⟨c', r₁, r', ha', hb, hrest⟩
  · simp [ha] at ha'
  · obtain ⟨rfl, rfl⟩ := List.cons.inj (ha.symm.trans ha')
    exact ⟨r', hb, hrest⟩

theorem behind (h : Padded ((Zone.code g).next c) a b) (hc : c ≠ '"') :
    Padded (.code false) a b := by
  rw [Zone.next, if_neg hc] at h
  exact h.loosen

theorem behindToken (h : Padded ((Zone.code g).next c) a b) (hc : isTokenChar c) :
    Padded (.code true) a b := by
  have hquote : c ≠ '"' := by
    rintro rfl
    exact absurd hc (by decide)
  rwa [Zone.next, if_neg hquote, hc] at h

theorem skipMark (h : Padded (.code g) a b) (ha : skipSpace a = c :: r) (hc : c ≠ '"') :
    ∃ r', skipSpace b = c :: r' ∧ Padded (.code false) r r' ∧ r'.length < b.length := by
  obtain ⟨r', hb, hpad, hlt⟩ := h.skipSpace_cons ha
  exact ⟨r', hb, hpad.behind hc, hlt⟩

end Padded

theorem settled_of_skipSpace (h : skipSpace s = c :: r) (hc : isTokenChar c = false) :
    Settled s := by
  rw [Settled, h]
  exact endsToken_cons hc

theorem Settled.endsToken (h : Settled s) : EndsToken s := by
  cases s with
  | nil => exact h
  | cons c s =>
    by_cases hc : isSpace c
    · simp only [isSpace, Bool.or_eq_true, decide_eq_true_eq] at hc
      rcases hc with ((rfl | rfl) | rfl) | rfl <;> exact endsToken_cons (by decide)
    · simpa [Settled, skipSpace, hc] using h

namespace Padded

/-- Where the first text goes on with no token, the second does not either. -/
theorem endsToken (h : Padded (.code g) a b) (ha : Settled a) : EndsToken b := by
  generalize hz : Zone.code g = z at h
  induction h generalizing g with
  | nil => exact ha
  | left h ih => exact ih ha rfl
  | right => exact endsToken_cons (by decide)
  | cons => exact endsToken_cons ha.endsToken.head

theorem skipToken (h : Padded (.code true) (w ++ r) b) (hw : AllToken w) :
    ∃ r', b = w ++ r' ∧ Padded (.code true) r r' := by
  induction w generalizing b with
  | nil => exact ⟨b, rfl, h⟩
  | cons c w ih =>
    obtain ⟨hc, hw⟩ := List.forall_mem_cons.1 hw
    cases h with
    | left h => exact absurd hc (by decide)
    | right hfree h => exact absurd hc (by simp [(hfree rfl).head])
    | cons h =>
      have hnext : (Zone.code true).next c = .code true := by
        have hquote : c ≠ '"' := by
          rintro rfl
          exact absurd hc (by decide)
        simp [Zone.next, hquote, hc]
      rw [hnext] at h
      obtain ⟨r', rfl, hpad⟩ := ih h hw
      exact ⟨r', rfl, hpad⟩

end Padded

theorem Scans.padded {read : Reader α} (h : Scans read) {v : α} (hpad : Padded (.code true) a b)
    (hread : read a = .ok (v, r)) (hr : Settled r) :
    ∃ r', read b = .ok (v, r') ∧ Padded (.code false) r r' ∧ r'.length ≤ b.length := by
  obtain ⟨w, rfl, hw, hall⟩ := h hread hr.endsToken
  obtain ⟨r', rfl, hrest⟩ := hpad.skipToken hw
  exact ⟨r', hall r' (hrest.endsToken hr), hrest.loosen, by simp⟩

theorem literal_padded {u v : α} (hw : AllToken w) (hpad : Padded (.code true) a b)
    (hread : literal v w a = .ok (u, r)) :
    ∃ r', literal v w b = .ok (u, r') ∧ Padded (.code false) r r' ∧ r'.length ≤ b.length := by
  obtain ⟨rfl, rfl⟩ := literal_eq_ok_iff.1 hread
  obtain ⟨r', rfl, hrest⟩ := hpad.skipToken hw
  exact ⟨r', literal_eq_ok_iff.2 ⟨rfl, rfl⟩, hrest.loosen, by simp⟩

theorem isSome_of_mapM {β : Type} {f : α → Option β} {l : List α} {bs : List β}
    (h : l.mapM f = some bs) :
    ∀ a ∈ l, (f a).isSome := by
  induction l generalizing bs with
  | nil => simp
  | cons a l ih =>
    simp only [List.mapM_cons, Option.bind_eq_bind, Option.bind_eq_some_iff] at h
    obtain ⟨b, hb, bs, hbs, -⟩ := h
    exact List.forall_mem_cons.2 ⟨by simp [hb], ih hbs⟩

theorem val_le_of_hexDigit? (h : (hexDigit? c).isSome) : c.val ≤ 0x7f := by
  unfold hexDigit? at h
  split_ifs at h with hdigit hlower hupper
  · simp only [Char.isDigit, Bool.and_eq_true, decide_eq_true_eq] at hdigit
    exact UInt32.le_trans hdigit.2 (by decide)
  · exact UInt32.le_trans hlower.2 (by decide)
  · exact UInt32.le_trans hupper.2 (by decide)
  · cases h

theorem byteCount_of_hexDigits (h : ∀ c ∈ w, (hexDigit? c).isSome) : byteCount w = w.length := by
  induction w with
  | nil => rfl
  | cons c w ih =>
    obtain ⟨hc, hw⟩ := List.forall_mem_cons.1 h
    have hsize : c.utf8Size = 1 := if_pos (val_le_of_hexDigit? hc)
    rw [byteCount, ih hw, hsize, List.length_cons, Nat.add_comm]

@[simp] theorem byteCount_append (a b : List Char) :
    byteCount (a ++ b) = byteCount a + byteCount b := by
  induction a with
  | nil => simp [byteCount]
  | cons c a ih => simp [byteCount, ih, Nat.add_assoc]

/-- Four digits are read, whatever follows them. -/
theorem hex4_eq_ok_iff {n : Nat} : hex4 s = .ok (n, r) ↔
    ∃ w ds, s = w ++ r ∧ w.length = 4 ∧
      w.mapM hexDigit? = some ds ∧ ds.foldl (fun n d => n * 16 + d) 0 = n := by
  constructor
  · intro h
    unfold hex4 at h
    split_ifs at h with hcount
    split at h
    · rename_i ds hds
      cases h
      have hlength : 4 ≤ s.length := by
        -- Digits have one byte each, so that fewer than four of them would be too few bytes.
        by_contra hshort
        have hall := byteCount_of_hexDigits
          (isSome_of_mapM (List.take_of_length_le (by omega : s.length ≤ 4) ▸ hds))
        omega
      exact ⟨s.take 4, ds, (List.take_append_drop 4 s).symm, by simp [hlength], hds, rfl⟩
    · cases h
  · rintro ⟨w, ds, rfl, hlength, hds, rfl⟩
    have hcount : byteCount w = w.length := byteCount_of_hexDigits (isSome_of_mapM hds)
    simp [hex4, hcount, hlength, List.take_left' hlength, List.drop_left' hlength, hds]

theorem next_string (h : c ≠ '"') (h' : c ≠ '\\') : Zone.string.next c = .string := by
  simp [Zone.next, h, h']

namespace Padded

theorem string_cons (h : Padded .string (c :: a) b) :
    ∃ b', b = c :: b' ∧ Padded (Zone.string.next c) a b' := by
  cases h with
  | cons h => exact ⟨_, rfl, h⟩

theorem escape_cons (h : Padded .escape (c :: a) b) : ∃ b', b = c :: b' ∧ Padded .string a b' := by
  cases h with
  | cons h => exact ⟨_, rfl, h⟩

theorem string_append (h : Padded .string (w ++ r) b) (hw : ∀ c ∈ w, c ≠ '"' ∧ c ≠ '\\') :
    ∃ r', b = w ++ r' ∧ Padded .string r r' := by
  induction w generalizing b with
  | nil => exact ⟨b, rfl, h⟩
  | cons c w ih =>
    obtain ⟨hc, hw⟩ := List.forall_mem_cons.1 hw
    obtain ⟨b, rfl, hrest⟩ := h.string_cons
    rw [next_string hc.1 hc.2] at hrest
    obtain ⟨r', rfl, hr⟩ := ih hrest hw
    exact ⟨r', rfl, hr⟩

end Padded

theorem hex4_padded {n : Nat} (h : Padded .string a b) (hread : hex4 a = .ok (n, r)) :
    ∃ r', hex4 b = .ok (n, r') ∧ Padded .string r r' ∧ r'.length ≤ b.length := by
  obtain ⟨w, ds, rfl, hlength, hds, hn⟩ := hex4_eq_ok_iff.1 hread
  have hplain : ∀ c ∈ w, c ≠ '"' ∧ c ≠ '\\' := by
    intro c hc
    have hdigit := isSome_of_mapM hds c hc
    constructor
    · rintro rfl
      exact absurd hdigit (by decide)
    · rintro rfl
      exact absurd hdigit (by decide)
  obtain ⟨r', rfl, hrest⟩ := h.string_append hplain
  exact ⟨r', hex4_eq_ok_iff.2 ⟨w, ds, rfl, hlength, hds, hn⟩, hrest, by simp⟩

theorem expectInPair_eq_ok_iff : expectInPair c s = .ok r ↔ s = c :: r := by
  cases s with
  | nil => simp [expectInPair]
  | cons d s => by_cases hd : d = c <;> simp [expectInPair, hd]

theorem unicodeEscape_padded {d : Char} (h : Padded .string a b)
    (hread : unicodeEscape a = .ok (d, r)) :
    ∃ r', unicodeEscape b = .ok (d, r') ∧ Padded .string r r' ∧ r'.length ≤ b.length := by
  obtain ⟨⟨high, a₁⟩, hhigh, hread⟩ := exists_of_bind_eq_ok hread
  obtain ⟨b₁, hhigh', hpad, hle⟩ := hex4_padded h hhigh
  rw [unicodeEscape, hhigh']
  dsimp only [ok_bind, error_bind] at hread ⊢
  by_cases hlow : isLowSurrogate high
  · rw [if_pos hlow] at hread
    cases hread
  rw [if_neg hlow] at hread ⊢
  by_cases hpair : isHighSurrogate high
  · rw [if_pos hpair] at hread ⊢
    obtain ⟨a₂, ha, hletters⟩ := exists_of_bind_eq_ok hread
    obtain ⟨a₃, ha', hdigits⟩ := exists_of_bind_eq_ok hletters
    obtain ⟨⟨low, a₄⟩, hread₄, htail⟩ := exists_of_bind_eq_ok hdigits
    obtain rfl := expectInPair_eq_ok_iff.1 ha
    obtain rfl := expectInPair_eq_ok_iff.1 ha'
    obtain ⟨b₂, rfl, hslash⟩ := hpad.string_cons
    obtain ⟨b₃, rfl, hletter⟩ := Padded.escape_cons hslash
    obtain ⟨b₄, hread₄', hrest, hle'⟩ := hex4_padded hletter hread₄
    simp only [expectInPair, if_true, ok_bind, hread₄']
    by_cases hfits : isLowSurrogate low
    · rw [if_pos hfits] at htail ⊢
      obtain ⟨rfl, rfl⟩ := Prod.mk.inj (Except.ok.inj htail)
      simp only [List.length_cons] at hle
      exact ⟨b₄, rfl, hrest, by omega⟩
    · rw [if_neg hfits] at htail
      cases htail
  · rw [if_neg hpair] at hread ⊢
    cases hread
    exact ⟨b₁, rfl, hpad, hle⟩

theorem escape_padded {d : Char} (h : Padded .escape a b) (hread : escape a = .ok (d, r)) :
    ∃ r', escape b = .ok (d, r') ∧ Padded .string r r' ∧ r'.length < b.length := by
  cases a with
  | nil => cases hread
  | cons c a =>
    obtain ⟨b, rfl, hpad⟩ := h.escape_cons
    by_cases hc : c = 'u'
    · subst hc
      obtain ⟨r', hread, hpad, hle⟩ := unicodeEscape_padded hpad hread
      exact ⟨r', hread, hpad, Nat.lt_succ_of_le hle⟩
    · simp only [escape] at hread ⊢
      split at hread
      · cases hread
        exact ⟨b, rfl, hpad, Nat.lt_succ_self _⟩
      · cases hread

/-- A string is read character by character, whatever the counts, as long as they suffice. -/
theorem stringChars_padded {n m : Nat} {cs : List Char} (h : Padded .string a b) (hm : b.length < m)
    (hread : stringChars n a = .ok (cs, r)) :
    ∃ r', stringChars m b = .ok (cs, r') ∧ Padded (.code false) r r' ∧ r'.length < b.length := by
  induction n generalizing a b m cs with
  | zero => cases hread
  | succ n ih =>
    cases a with
    | nil => cases hread
    | cons c a =>
      obtain ⟨b, rfl, hpad⟩ := h.string_cons
      obtain ⟨m, rfl⟩ : ∃ k, m = k + 1 := ⟨m - 1, by omega⟩
      simp only [List.length_cons, Nat.add_lt_add_iff_right] at hm ⊢
      simp only [stringChars] at hread ⊢
      split_ifs at hread ⊢ with hquote hslash hcontrol
      · subst hquote
        cases hread
        exact ⟨b, rfl, hpad, Nat.lt_succ_self _⟩
      · subst hslash
        obtain ⟨⟨d, a₁⟩, hd, hread⟩ := exists_of_bind_eq_ok hread
        obtain ⟨⟨ds, r₁⟩, hds, hread⟩ := exists_of_bind_eq_ok hread
        cases hread
        obtain ⟨b₁, hd', hpad₁, hlt⟩ := escape_padded hpad hd
        obtain ⟨r', hds', hrest, hlt'⟩ := ih hpad₁ (Nat.lt_trans hlt hm) hds
        exact ⟨r', by simp [hd', hds'], hrest, by omega⟩
      · rw [next_string hquote hslash] at hpad
        obtain ⟨⟨ds, r₁⟩, hds, hread⟩ := exists_of_bind_eq_ok hread
        cases hread
        obtain ⟨r', hds', hrest, hlt⟩ := ih hpad hm hds
        exact ⟨r', by simp [hds'], hrest, by omega⟩

theorem stringAfterQuote_padded {text : String} (h : Padded .string a b)
    (hread : stringAfterQuote a = .ok (text, r)) :
    ∃ r', stringAfterQuote b = .ok (text, r') ∧
      Padded (.code false) r r' ∧ r'.length < b.length := by
  obtain ⟨⟨cs, r₁⟩, hcs, hread⟩ := exists_of_bind_eq_ok hread
  cases hread
  obtain ⟨r', hcs', hpad, hlt⟩ := stringChars_padded h (Nat.lt_succ_self _) hcs
  exact ⟨r', by simp [stringAfterQuote, hcs'], hpad, hlt⟩

end Shorthand.Json
