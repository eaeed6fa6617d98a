import Shorthand.Proofs.Json.Carrying
set_option autoImplicit false

namespace Shorthand.Json

/-- What the first step passes over, the second passes over in a padded text that is short
enough. -/
def Passes (bound : Nat) (skip skip' : Skipper) : Prop :=
  ∀ ⦃a b r : List Char⦄, Padded (.code false) a b → b.length < bound → skip a = .ok r → Settled r →
    ∃ r', skip' b = .ok r' ∧ Padded (.code false) r r' ∧ r'.length < b.length

variable {a b r s : List Char} {c : Char} {n m : Nat} {isFirst : Bool} {next : Next}

theorem skipEscape_padded (h : Padded .escape a b) (hread : skipEscape a = .ok r) :
    ∃ r', skipEscape b = .ok r' ∧ Padded .string r r' ∧ r'.length < b.length := by
  cases a with
  | nil => cases hread
  | cons c a =>
    obtain ⟨b, rfl, hpad⟩ := h.escape_cons
    by_cases hc : c = 'u'
    · subst hc
      obtain ⟨⟨n, r₁⟩, hn, heq⟩ := exists_of_map_eq_ok hread
      cases heq
      obtain ⟨r', hn', hrest, hle⟩ := hex4_padded hpad hn
      exact ⟨r', by simp [skipEscape, hn'], hrest, Nat.lt_succ_of_le hle⟩
    · simp only [skipEscape] at hread ⊢
      split_ifs at hread ⊢
      cases hread
      exact ⟨b, rfl, hpad, Nat.lt_succ_self _⟩

theorem skipString_padded (h : Padded .string a b) (hm : b.length < m)
    (hread : skipString n a = .ok r) :
    ∃ r', skipString m b = .ok r' ∧ Padded (.code false) r r' ∧ r'.length < b.length := by
  induction n generalizing a b m with
  | zero => cases hread
  | succ n ih =>
    cases a with
    | nil => cases hread
    | cons c a =>
      obtain ⟨b, rfl, hpad⟩ := h.string_cons
      obtain ⟨m, rfl⟩ : ∃ k, m = k + 1 := ⟨m - 1, by omega⟩
      simp only [List.length_cons, Nat.add_lt_add_iff_right] at hm ⊢
      simp only [skipString] at hread ⊢
      split_ifs at hread ⊢ with hquote hslash hcontrol
      · subst hquote
        cases hread
        exact ⟨b, rfl, hpad, Nat.lt_succ_self _⟩
      · subst hslash
        obtain ⟨a₁, ha, hread⟩ := exists_of_bind_eq_ok hread
        obtain ⟨b₁, hb, hpad₁, hlt⟩ := skipEscape_padded hpad ha
        obtain ⟨r', hr', hrest, hlt'⟩ := ih hpad₁ (Nat.lt_trans hlt hm) hread
        exact ⟨r', by simp [hb, hr'], hrest, by omega⟩
      · rw [next_string hquote hslash] at hpad
        obtain ⟨r', hr', hrest, hlt⟩ := ih hpad hm hread
        exact ⟨r', hr', hrest, by omega⟩

theorem nextSkippedItem_padded (h : Padded (.code false) a b)
    (hnext : nextSkippedItem isFirst a = .ok next) :
    ∃ next', nextSkippedItem isFirst b = .ok next' ∧
      PaddedNext (.code false) b.length next next' := by
  rcases nextSkippedItem_eq_ok_iff.1 hnext with ⟨r, ha, rfl⟩
    | ⟨hfirst, c, r, ha, hc, rfl⟩ | ⟨hfirst, r, ha, rfl⟩
  · obtain ⟨r', hb, hpad, hlt⟩ := h.skipMark ha (by decide)
    exact ⟨.closed r', nextSkippedItem_eq_ok_iff.2 (.inl ⟨r', hb, rfl⟩), .closed hpad hlt⟩
  · obtain ⟨r', hb, hpad, hlt⟩ := h.skipSpace_cons ha
    exact ⟨.item (c :: r'), nextSkippedItem_eq_ok_iff.2 (.inr (.inl ⟨hfirst, c, r', hb, hc, rfl⟩)),
      .item (.cons hpad) hlt⟩
  · obtain ⟨r', hb, hpad, hlt⟩ := h.skipMark ha (by decide)
    exact ⟨.item r', nextSkippedItem_eq_ok_iff.2 (.inr (.inr ⟨hfirst, r', hb, rfl⟩)),
      .item hpad (Nat.le_of_lt hlt)⟩

theorem settled_of_nextSkippedItem (h : nextSkippedItem false s = .ok next) : Settled s := by
  rcases nextSkippedItem_eq_ok_iff.1 h with ⟨r, hs, -⟩ | ⟨hfirst, -⟩ | ⟨-, r, hs, -⟩
  · exact settled_of_skipSpace hs (by decide)
  · cases hfirst
  · exact settled_of_skipSpace hs (by decide)

theorem settled_of_skipItems {item : Skipper} (h : skipItems item n false s = .ok r) :
    Settled s := by
  cases n with
  | zero => cases h
  | succ n =>
    obtain ⟨next, hnext, -⟩ := exists_of_bind_eq_ok h
    exact settled_of_nextSkippedItem hnext

theorem skipItems_padded {item item' : Skipper} {bound : Nat} (hitem : Passes bound item item')
    (h : Padded (.code false) a b) (hbound : b.length < bound) (hm : b.length < m)
    (hread : skipItems item n isFirst a = .ok r) :
    ∃ r', skipItems item' m isFirst b = .ok r' ∧
      Padded (.code false) r r' ∧ r'.length < b.length := by
  induction n generalizing a b m isFirst with
  | zero => cases hread
  | succ n ih =>
    obtain ⟨m, rfl⟩ : ∃ k, m = k + 1 := ⟨m - 1, by omega⟩
    obtain ⟨next, hnext, hread⟩ := exists_of_bind_eq_ok hread
    obtain ⟨next', hnext', hpad⟩ := nextSkippedItem_padded h hnext
    rw [skipItems, hnext']
    cases hpad with
    | closed hrest hlt =>
      cases hread
      exact ⟨_, rfl, hrest, hlt⟩
    | item hrest hle =>
      obtain ⟨a₁, hv, hread⟩ := exists_of_bind_eq_ok hread
      obtain ⟨b₁, hv', hpad₁, hlt₁⟩ := hitem hrest (by omega) hv (settled_of_skipItems hread)
      obtain ⟨r', hr', hpad', hlt'⟩ := ih hpad₁ (by omega) (by omega : b₁.length < m) hread
      exact ⟨r', by simp [hv', hr'], hpad', by omega⟩

theorem settled_of_skipEntries {item : Skipper} (h : skipEntries item n false s = .ok r) :
    Settled s := by
  cases n with
  | zero => cases h
  | succ n =>
    obtain ⟨next, hnext, -⟩ := exists_of_bind_eq_ok h
    exact settled_of_nextKey (nextSkippedKey_eq_ok_iff.1 hnext)

theorem skipEntries_padded {item item' : Skipper} {bound : Nat} (hitem : Passes bound item item')
    (h : Padded (.code false) a b) (hbound : b.length < bound) (hm : b.length < m)
    (hread : skipEntries item n isFirst a = .ok r) :
    ∃ r', skipEntries item' m isFirst b = .ok r' ∧
      Padded (.code false) r r' ∧ r'.length < b.length := by
  induction n generalizing a b m isFirst with
  | zero => cases hread
  | succ n ih =>
    obtain ⟨m, rfl⟩ : ∃ k, m = k + 1 := ⟨m - 1, by omega⟩
    obtain ⟨next, hnext, hread⟩ := exists_of_bind_eq_ok hread
    obtain ⟨next', hnext', hpad⟩ := nextKey_padded h (nextSkippedKey_eq_ok_iff.1 hnext)
    rw [skipEntries, nextSkippedKey_eq_ok_iff.2 hnext']
    cases hpad with
    | closed hrest hlt =>
      cases hread
      exact ⟨_, rfl, hrest, hlt⟩
    | item hrest hle =>
      obtain ⟨a₁, hk, hread⟩ := exists_of_bind_eq_ok hread
      obtain ⟨a₂, hcolon, hread⟩ := exists_of_bind_eq_ok hread
      obtain ⟨a₃, hv, hread⟩ := exists_of_bind_eq_ok hread
      obtain ⟨b₁, hk', hpad₁, hlt₁⟩ := skipString_padded hrest (Nat.lt_succ_self _) hk
      obtain ⟨b₂, hcolon', hpad₂, hlt₂⟩ := afterColon_padded hpad₁ hcolon
      obtain ⟨b₃, hv', hpad₃, hlt₃⟩ := hitem hpad₂ (by omega) hv (settled_of_skipEntries hread)
      obtain ⟨r', hr', hpad', hlt'⟩ := ih hpad₃ (by omega) (by omega : b₃.length < m) hread
      exact ⟨r', by simp [skipStringAfterQuote, hk', hcolon', hv', hr'], hpad', by omega⟩

theorem skipLiteral_padded {w : List Char} (hw : AllToken w) (hpad : Padded (.code true) a b)
    (hread : (literal () w a).map (·.2) = .ok r) :
    ∃ r', (literal () w b).map (·.2) = .ok r' ∧
      Padded (.code false) r r' ∧ r'.length ≤ b.length := by
  obtain ⟨⟨u, r₁⟩, hu, heq⟩ := exists_of_map_eq_ok hread
  cases heq
  obtain ⟨r', hu', hrest⟩ := literal_padded hw hpad hu
  exact ⟨r', by simp [hu'], hrest⟩

/-- Depth is no bound: the count of the second step need only be above the length of its text. -/
theorem passes_skipDeep (n m : Nat) : Passes m (skipDeep n) (skipDeep m) := by
  induction n generalizing m with
  | zero => exact fun _ _ _ _ _ hread _ => nomatch hread
  | succ n ih =>
    intro a b r hpad hm hread hr
    obtain ⟨m, rfl⟩ : ∃ k, m = k + 1 := ⟨m - 1, by omega⟩
    cases ha : skipSpace a with
    | nil => simp [skipDeep, ha] at hread
    | cons c a₁ =>
      obtain ⟨b₁, hb, hpad₁, hlt⟩ := hpad.skipSpace_cons ha
      simp only [skipDeep, ha] at hread
      simp only [skipDeep, hb]
      split_ifs at hread ⊢ with hquote hlist hobject hnull htrue hfalse hminus hdigit
      · subst hquote
        obtain ⟨r', hr', hrest, hlt'⟩ := skipString_padded hpad₁ (Nat.lt_succ_self _) hread
        exact ⟨r', hr', hrest, by omega⟩
      · obtain ⟨r', hr', hrest, hlt'⟩ :=
          skipItems_padded (ih m) (hpad₁.behind hquote) (by omega) (Nat.lt_succ_self _) hread
        exact ⟨r', hr', hrest, by omega⟩
      · obtain ⟨r', hr', hrest, hlt'⟩ :=
          skipEntries_padded (ih m) (hpad₁.behind hquote) (by omega) (Nat.lt_succ_self _) hread
        exact ⟨r', hr', hrest, by omega⟩
      · subst hnull
        obtain ⟨r', hr', hrest, hle⟩ :=
          skipLiteral_padded (by decide) (hpad₁.behindToken (by decide)) hread
        exact ⟨r', hr', hrest, by omega⟩
      · subst htrue
        obtain ⟨r', hr', hrest, hle⟩ :=
          skipLiteral_padded (by decide) (hpad₁.behindToken (by decide)) hread
        exact ⟨r', hr', hrest, by omega⟩
      · subst hfalse
        obtain ⟨r', hr', hrest, hle⟩ :=
          skipLiteral_padded (by decide) (hpad₁.behindToken (by decide)) hread
        exact ⟨r', hr', hrest, by omega⟩
      · subst hminus
        obtain ⟨r', hr', hrest, hle⟩ :=
          scans_skipNumber.padded (v := ()) (hpad₁.behindToken (by decide))
            (asReader_eq_ok_iff.2 hread) hr
        exact ⟨r', asReader_eq_ok_iff.1 hr', hrest, by omega⟩
      · have hc := isTokenChar_of_isDigit c hdigit
        obtain ⟨r', hr', hrest, hle⟩ :=
          scans_skipNumber.padded_cons (v := ()) hc (hpad₁.behindToken hc)
            (asReader_eq_ok_iff.2 hread) hr
        exact ⟨r', asReader_eq_ok_iff.1 hr', hrest, by omega⟩

theorem skipValue_padded (h : Padded (.code false) a b) (hread : skipValue a = .ok r)
    (hr : Settled r) :
    ∃ r', skipValue b = .ok r' ∧ Padded (.code false) r r' ∧ r'.length < b.length :=
  passes_skipDeep _ _ h (Nat.lt_succ_self _) hread hr

end Shorthand.Json
