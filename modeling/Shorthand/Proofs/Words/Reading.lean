import Shorthand.Words.Split
set_option autoImplicit false

namespace Shorthand.Words

@[simp] theorem extend_ne_nil (a : List Char) (ws : List (List Char)) : extend a ws ≠ [] := by
  cases ws <;> simp [extend]

theorem extend_extend (a b : List Char) (ws : List (List Char)) :
    extend a (extend b ws) = extend (a ++ b) ws := by
  cases ws with
  | nil => rfl
  | cons w ws => simp [extend]

theorem flatten_extend (a : List Char) (ws : List (List Char)) :
    (extend a ws).flatten = a ++ ws.flatten := by
  cases ws <;> simp [extend]

theorem map_extend_extend (a b : List Char) (o : Option (List (List Char))) :
    (o.map (extend b)).map (extend a) = o.map (extend (a ++ b)) := by
  simp only [Option.map_map, Function.comp_def, extend_extend]

theorem extend_append {a : List Char} {ws : List (List Char)} (h : ws ≠ [])
    (vs : List (List Char)) :
    extend a ws ++ vs = extend a (ws ++ vs) := by
  cases ws with
  | nil => exact absurd rfl h
  | cons w ws => rfl

def Mode.isWithin : Mode → Bool
  | .gap | .comment => false
  | _ => true

theorem Mode.isWithin_opened (c : Char) : (Mode.opened c).isWithin = true := by
  unfold Mode.opened
  repeat' split
  all_goals rfl

theorem ne_nil_of_map_extend {a : List Char} {o : Option (List (List Char))} {ws : List (List Char)}
    (h : o.map (extend a) = some ws) : ws ≠ [] := by
  obtain ⟨vs, -, rfl⟩ := Option.map_eq_some_iff.1 h
  exact extend_ne_nil a vs

theorem ne_nil_of_read {m : Mode} {s : List Char} {ws : List (List Char)}
    (hm : m.isWithin = true) (h : read m s = some ws) : ws ≠ [] := by
  induction s generalizing m with
  | nil =>
    cases m <;> simp_all [read, Mode.isWithin]
    exact h ▸ List.cons_ne_nil _ _
  | cons c r ih =>
    cases m with
    | gap | comment => simp [Mode.isWithin] at hm
    | bare =>
      rw [read] at h
      split at h
      · obtain ⟨vs, -, rfl⟩ := Option.map_eq_some_iff.1 h; simp
      · split at h
        · exact ne_nil_of_map_extend h
        · exact ih (Mode.isWithin_opened c) h
    | escaped | doubleEscaped => rw [read] at h; exact ne_nil_of_map_extend h
    | single =>
      rw [read] at h
      split at h
      · exact ih rfl h
      · exact ne_nil_of_map_extend h
    | double =>
      rw [read] at h
      split at h
      · exact ih rfl h
      · split at h
        · exact ih rfl h
        · exact ne_nil_of_map_extend h

theorem map_extend_nil {m : Mode} (hm : m.isWithin = true) (s : List Char) :
    (read m s).map (extend []) = read m s := by
  cases h : read m s with
  | none => rfl
  | some ws =>
    cases ws with
    | nil => exact absurd rfl (ne_nil_of_read hm h)
    | cons w ws => simp [extend]

theorem Mode.opened_ne_comment (c : Char) : Mode.opened c ≠ .comment := by
  intro h
  have hw := Mode.isWithin_opened c
  rw [h] at hw
  cases hw

theorem map_extend_append {m : Mode} {a s t r : List Char} {ws : List (List Char)}
    (hm : m.isWithin = true)
    (ih : ∀ vs, read m s = some vs → read m t = (read .gap r).map (vs ++ ·))
    (h : (read m s).map (extend a) = some ws) :
    (read m t).map (extend a) = (read .gap r).map (ws ++ ·) := by
  obtain ⟨vs, hvs, rfl⟩ := Option.map_eq_some_iff.1 h
  rw [ih vs hvs, Option.map_map]
  congr 1
  funext us
  exact (extend_append (ne_nil_of_read hm hvs) us).symm

def Mode.next : Mode → Char → Mode
  | .gap, c => if isSeparator c then .gap else if c = '#' then .comment else .opened c
  | .comment, c => if c = '\n' then .gap else .comment
  | .bare, c => if isSeparator c then .gap else .opened c
  | .escaped, _ => .bare
  | .single, c => if c = '\'' then .bare else .single
  | .double, c => if c = '"' then .bare else if c = '\\' then .doubleEscaped else .double
  | .doubleEscaped, _ => .double

def Mode.given : Mode → Char → List Char
  | .gap, c => if isSeparator c || c = '#' || Mode.opened c ≠ .bare then [] else [c]
  | .comment, _ => []
  | .bare, c => if isSeparator c || Mode.opened c ≠ .bare then [] else [c]
  | .escaped, c => if c = '\n' then [] else [c]
  | .single, c => if c = '\'' then [] else [c]
  | .double, c => if c = '"' || c = '\\' then [] else [c]
  | .doubleEscaped, c => if isEscapable c then [c] else if c = '\n' then [] else ['\\', c]

theorem exists_read_of_cons {m : Mode} {c : Char} {r : List Char} {ws : List (List Char)}
    (h : read m (c :: r) = some ws) :
    ∃ vs, read (m.next c) r = some vs ∧ ws.flatten = m.given c ++ vs.flatten := by
  have hextend {n : Mode} {a : List Char} (h : (read n r).map (extend a) = some ws) :
      ∃ vs, read n r = some vs ∧ ws.flatten = a ++ vs.flatten := by
    obtain ⟨vs, hvs, rfl⟩ := Option.map_eq_some_iff.1 h
    exact ⟨vs, hvs, flatten_extend a vs⟩
  cases m with
  | gap =>
    by_cases hsep : isSeparator c = true
    · exact ⟨ws, by simpa [read, Mode.next, hsep] using h, by simp [Mode.given, hsep]⟩
    · by_cases hhash : c = '#'
      · rw [read, if_neg hsep, if_pos hhash] at h
        exact ⟨ws, by rw [Mode.next, if_neg hsep, if_pos hhash, h], by simp [Mode.given, hhash]⟩
      · by_cases hbare : Mode.opened c = .bare
        · simpa [Mode.next, Mode.given, hsep, hhash, hbare] using
            hextend (a := [c]) (n := .bare) (by simpa [read, hsep, hhash, hbare] using h)
        · exact ⟨ws, by simpa [read, Mode.next, hsep, hhash, hbare] using h,
            by simp [Mode.given, hbare]⟩
  | comment =>
    rw [read] at h
    exact ⟨ws, h, rfl⟩
  | bare =>
    by_cases hsep : isSeparator c = true
    · obtain ⟨vs, hvs, rfl⟩ := Option.map_eq_some_iff.1 (by simpa [read, hsep] using h)
      exact ⟨vs, by simpa [Mode.next, hsep] using hvs, by simp [Mode.given, hsep]⟩
    · by_cases hbare : Mode.opened c = .bare
      · simpa [Mode.next, Mode.given, hsep, hbare] using
          hextend (a := [c]) (n := .bare) (by simpa [read, hsep, hbare] using h)
      · exact ⟨ws, by simpa [read, Mode.next, hsep, hbare] using h, by simp [Mode.given, hbare]⟩
  | escaped | doubleEscaped =>
    rw [read] at h
    exact hextend h
  | single =>
    by_cases hquote : c = '\''
    · exact ⟨ws, by simpa [read, Mode.next, hquote] using h, by simp [Mode.given, hquote]⟩
    · simpa [Mode.next, Mode.given, hquote] using
        hextend (a := [c]) (n := .single) (by simpa [read, hquote] using h)
  | double =>
    by_cases hquote : c = '"'
    · exact ⟨ws, by simpa [read, Mode.next, hquote] using h, by simp [Mode.given, hquote]⟩
    · by_cases hback : c = '\\'
      · exact ⟨ws, by simpa [read, Mode.next, hback] using h, by simp [Mode.given, hback]⟩
      · simpa [Mode.next, Mode.given, hquote, hback] using
          hextend (a := [c]) (n := .double) (by simpa [read, hquote, hback] using h)

/-- The characters that outside of quotes stand for themselves. -/
def isLiteral (c : Char) : Bool := !isSeparator c && Mode.opened c = .bare

theorem read_literal {s : List Char} (h : ∀ c ∈ s, isLiteral c = true) (tail : List Char) :
    read .bare (s ++ tail) = (read .bare tail).map (extend s) := by
  induction s with
  | nil => rw [map_extend_nil rfl]; rfl
  | cons c r ih =>
    obtain ⟨hc, hr⟩ := List.forall_mem_cons.1 h
    simp only [isLiteral, Bool.and_eq_true, Bool.not_eq_true', decide_eq_true_eq] at hc
    rw [List.cons_append, read, hc.1, if_neg (by decide), if_pos hc.2, ih hr, map_extend_extend]
    rfl

/-- A line without `#` is read up to a blank as if it stood alone. -/
theorem read_append_blank {m : Mode} {s : List Char} {ws : List (List Char)} (hm : m ≠ .comment)
    (hs : '#' ∉ s) (h : read m s = some ws) (r : List Char) :
    read m (s ++ ' ' :: r) = (read .gap r).map (ws ++ ·) := by
  induction s generalizing m ws with
  | nil =>
    have hsep : isSeparator ' ' = true := rfl
    cases m <;> simp_all [read]
    all_goals subst h; simp
  | cons c s ih =>
    simp only [List.mem_cons, not_or] at hs
    obtain ⟨hc, hs⟩ := hs
    rw [List.cons_append]
    cases m with
    | comment => exact absurd rfl hm
    | gap =>
      -- Only here could a comment begin, and it would hide the rest of the line too.
      rw [read, if_neg (Ne.symm hc)] at h ⊢
      split at h
      · rw [if_pos ‹_›]; exact ih (by decide) hs h
      · rw [if_neg ‹_›]
        split at h
        · rw [if_pos ‹_›]
          exact map_extend_append rfl (fun vs hvs => ih (by decide) hs hvs) h
        · rw [if_neg ‹_›]; exact ih (Mode.opened_ne_comment c) hs h
    | bare =>
      rw [read] at h ⊢
      split at h
      · rw [if_pos ‹_›]
        obtain ⟨vs, hvs, rfl⟩ := Option.map_eq_some_iff.1 h
        rw [ih (by decide) hs hvs, Option.map_map]
        rfl
      · rw [if_neg ‹_›]
        split at h
        · rw [if_pos ‹_›]
          exact map_extend_append rfl (fun vs hvs => ih (by decide) hs hvs) h
        · rw [if_neg ‹_›]; exact ih (Mode.opened_ne_comment c) hs h
    | escaped | doubleEscaped =>
      rw [read] at h ⊢
      exact map_extend_append rfl (fun vs hvs => ih (by decide) hs hvs) h
    | single =>
      rw [read] at h ⊢
      split at h
      · rw [if_pos ‹_›]; exact ih (by decide) hs h
      · rw [if_neg ‹_›]
        exact map_extend_append rfl (fun vs hvs => ih (by decide) hs hvs) h
    | double =>
      rw [read] at h ⊢
      split at h
      · rw [if_pos ‹_›]; exact ih (by decide) hs h
      · rw [if_neg ‹_›]
        split at h
        · rw [if_pos ‹_›]; exact ih (by decide) hs h
        · rw [if_neg ‹_›]
          exact map_extend_append rfl (fun vs hvs => ih (by decide) hs hvs) h

/-- The text is read as the one word, whatever follows it in the line. -/
def IsWritten (text word : List Char) : Prop :=
  ∀ tail, read .gap (text ++ tail) = (read .bare tail).map (extend word)

theorem isWritten_literal {s : List Char} (h : ∀ c ∈ s, isLiteral c = true) (hne : s ≠ [])
    (hhash : ∀ c ∈ s.head?, c ≠ '#') : IsWritten s s := by
  intro tail
  rw [← read_literal h]
  obtain ⟨c, r, rfl⟩ := List.exists_cons_of_ne_nil hne
  have hc := h c (by simp)
  simp only [isLiteral, Bool.and_eq_true, Bool.not_eq_true', decide_eq_true_eq] at hc
  rw [List.cons_append, read, read, hc.1, if_neg (by decide), if_neg (hhash c rfl), if_pos hc.2,
    if_neg (by decide)]

theorem IsWritten.read_blank {text word : List Char} (h : IsWritten text word) (r : List Char) :
    read .gap (text ++ ' ' :: r) = (read .gap r).map (word :: ·) := by
  have hb : read .bare (' ' :: r) = (read .gap r).map ([] :: ·) := by
    rw [read, if_pos (by rfl)]
  rw [h, hb, Option.map_map]
  congr 1
  funext ws
  simp [extend]

theorem IsWritten.read_end {text word : List Char} (h : IsWritten text word) :
    read .gap text = some [word] := by
  have hn := h []
  simpa [read, extend] using hn

variable {α : Type} {text word : α → List Char}

theorem read_intercalate_append {l : List α} (h : ∀ x ∈ l, IsWritten (text x) (word x))
    {last : List Char} {ws : List (List Char)} (hl : read .gap last = some ws) :
    read .gap ([' '].intercalate (l.map text ++ [last])) = some (l.map word ++ ws) := by
  induction l with
  | nil => simpa using hl
  | cons x l ih =>
    obtain ⟨hx, hr⟩ := List.forall_mem_cons.1 h
    rw [List.map_cons, List.cons_append, List.intercalate_cons_of_ne_nil (by simp),
      List.append_assoc, List.singleton_append, hx.read_blank, ih hr]
    rfl

theorem read_intercalate {l : List α} (h : ∀ x ∈ l, IsWritten (text x) (word x)) :
    read .gap ([' '].intercalate (l.map text)) = some (l.map word) := by
  rcases List.eq_nil_or_concat l with rfl | ⟨l, x, rfl⟩
  · rfl
  · have hx : IsWritten (text x) (word x) := h x (by simp)
    have hl : ∀ y ∈ l, IsWritten (text y) (word y) := fun y hy => h y (by simp [hy])
    simpa using read_intercalate_append hl hx.read_end

end Shorthand.Words
