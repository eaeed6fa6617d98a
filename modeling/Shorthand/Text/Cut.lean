set_option autoImplicit false

namespace Shorthand.Text

def cutChars (c : Char) : List Char → Option (List Char × List Char)
  | [] => none
  | d :: r => if d = c then some ([], r) else (cutChars c r).map fun p => (d :: p.1, p.2)

def cutDoubled (c : Char) : List Char → Option (List Char × List Char)
  | d :: e :: r =>
    if d = c ∧ e = c then some ([], r) else (cutDoubled c (e :: r)).map fun p => (d :: p.1, p.2)
  | _ => none

theorem eq_of_cutChars {c : Char} {s a b : List Char} (h : cutChars c s = some (a, b)) :
    s = a ++ c :: b ∧ c ∉ a := by
  induction s generalizing a with
  | nil => simp [cutChars] at h
  | cons d r ih =>
    rw [cutChars] at h
    split at h
    · simp only [Option.some.injEq, Prod.mk.injEq] at h
      obtain ⟨rfl, rfl⟩ := h
      simp_all
    · rename_i hd
      obtain ⟨p, hp, hq⟩ := Option.map_eq_some_iff.1 h
      obtain ⟨x, y⟩ := p
      simp only [Prod.mk.injEq] at hq
      obtain ⟨rfl, rfl⟩ := hq
      obtain ⟨rfl, hx⟩ := ih hp
      exact ⟨rfl, by simp [hx, Ne.symm hd]⟩

theorem cutChars_eq_none_iff {c : Char} {s : List Char} : cutChars c s = none ↔ c ∉ s := by
  induction s with
  | nil => simp [cutChars]
  | cons d s ih => by_cases hd : d = c <;> simp [cutChars, hd, eq_comm (a := c), ih]

theorem cutChars_append {c : Char} {s : List Char} (h : c ∉ s) (rest : List Char) :
    cutChars c (s ++ c :: rest) = some (s, rest) := by
  induction s with
  | nil => simp [cutChars]
  | cons d s ih =>
    simp only [List.mem_cons, not_or] at h
    simp [cutChars, Ne.symm h.1, ih h.2]

theorem eq_of_cutDoubled {c : Char} {s a b : List Char} (h : cutDoubled c s = some (a, b)) :
    s = a ++ c :: c :: b := by
  fun_induction cutDoubled c s generalizing a with
  | case1 r => simp_all
  | case2 d e r hd ih =>
    obtain ⟨⟨x, y⟩, hp, hq⟩ := Option.map_eq_some_iff.1 h
    simp only [Prod.mk.injEq] at hq
    obtain ⟨rfl, rfl⟩ := hq
    rw [ih hp]; rfl
  | case3 => simp at h

theorem length_of_cutDoubled {c : Char} {s a b : List Char} (h : cutDoubled c s = some (a, b)) :
    b.length < s.length := by
  rw [eq_of_cutDoubled h]; simp; omega

theorem cutDoubled_append {c : Char} {s : List Char} (h : ¬[c, c] <:+: s ++ [c])
    (rest : List Char) :
    cutDoubled c (s ++ c :: c :: rest) = some (s, rest) := by
  induction s with
  | nil => simp [cutDoubled]
  | cons d s ih =>
    have hrest := ih fun hs => h (List.infix_cons hs)
    obtain ⟨e, t, u, ht, hu⟩ : ∃ e t u, s ++ c :: c :: rest = e :: t ∧ s ++ [c] = e :: u := by
      cases s <;> simp
    have hd : ¬(d = c ∧ e = c) := by
      rintro ⟨rfl, rfl⟩
      exact h (by rw [List.cons_append, hu]; exact (List.prefix_append [e, e] u).isInfix)
    rw [ht] at hrest
    rw [List.cons_append, ht, cutDoubled, if_neg hd, hrest]
    rfl

theorem not_infix_of_cutDoubled {c : Char} {s a b : List Char} (h : cutDoubled c s = some (a, b)) :
    ¬[c, c] <:+: a ++ [c] := by
  fun_induction cutDoubled c s generalizing a with
  | case1 r =>
    obtain rfl : [] = a := congrArg Prod.fst (Option.some.inj h)
    exact fun hpair => absurd hpair.length_le (by simp)
  | case2 d e r hd ih =>
    obtain ⟨⟨x, y⟩, hp, hq⟩ := Option.map_eq_some_iff.1 h
    simp only [Prod.mk.injEq] at hq
    obtain ⟨rfl, rfl⟩ := hq
    have hhead : (x ++ [c]).head? = some e := by
      have heq := congrArg List.head? (eq_of_cutDoubled hp)
      cases x <;> simpa [eq_comm] using heq
    intro hpair
    rcases List.infix_cons_iff.1 hpair with hstart | hpair
    · obtain ⟨rfl, hrest⟩ := List.cons_prefix_cons.1 hstart
      cases x <;> simp_all
    · exact ih hp hpair
  | case3 => cases h

theorem cutDoubled_eq_some_iff {c : Char} {s a b : List Char} :
    cutDoubled c s = some (a, b) ↔ s = a ++ c :: c :: b ∧ ¬[c, c] <:+: a ++ [c] := by
  refine ⟨fun h => ⟨eq_of_cutDoubled h, not_infix_of_cutDoubled h⟩, ?_⟩
  rintro ⟨rfl, h⟩
  exact cutDoubled_append h b

theorem cutDoubled_eq_none_iff {c : Char} {s : List Char} :
    cutDoubled c s = none ↔ ¬[c, c] <:+: s := by
  fun_induction cutDoubled c s with
  | case1 d e r h =>
    obtain ⟨hd, he⟩ := h
    rw [hd, he]
    simpa using (List.prefix_append [c, c] r).isInfix
  | case2 d e r hd ih =>
    have hstart : ¬[c, c] <+: d :: e :: r := by simpa [List.cons_prefix_cons, eq_comm] using hd
    rw [Option.map_eq_none_iff, ih]
    exact ⟨fun hrest hpair => (List.infix_cons_iff.1 hpair).elim hstart hrest,
      fun hall hpair => hall (List.infix_cons hpair)⟩
  | case3 s hshort =>
    refine iff_of_true rfl fun hpair => ?_
    match s with
    | [] | [_] => exact absurd hpair.length_le (by simp)
    | d :: e :: r => exact hshort d e r rfl

def cut (c : Char) (s : String) : Option (String × String) :=
  (cutChars c s.toList).map fun p => (.ofList p.1, .ofList p.2)

def dropStart? (start s : String) : Option String :=
  if start.toList.isPrefixOf s.toList then
    some (.ofList (s.toList.drop start.toList.length)) else none

@[simp] theorem dropStart?_append (start rest : String) :
    dropStart? start (start ++ rest) = some rest := by
  simp [dropStart?]

theorem eq_of_dropStart? {start s rest : String} (h : dropStart? start s = some rest) :
    s = start ++ rest := by
  unfold dropStart? at h
  split at h
  · rename_i hprefix
    obtain rfl := Option.some.inj h
    obtain ⟨t, ht⟩ := List.isPrefixOf_iff_prefix.1 hprefix
    rw [← String.toList_inj, String.toList_append, String.toList_ofList, ← ht, List.drop_left]
  · cases h

def startsWith (c : Char) (s : String) : Bool := s.toList.head? = some c

theorem startsWith_append {c : Char} {s : String} (h : startsWith c s = true) (rest : String) :
    startsWith c (s ++ rest) = true := by
  simp only [startsWith, decide_eq_true_eq] at h ⊢
  rw [String.toList_append, List.head?_append, h, Option.some_or]

end Shorthand.Text
