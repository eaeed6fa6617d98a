import Mathlib.Tactic.SplitIfs
import Shorthand.Json.Skip
import Shorthand.Proofs.Success
set_option autoImplicit false

namespace Shorthand.Json

variable {α β : Type} {isFirst : Bool} {s r w : List Char} {next : Next} {c : Char}

theorem nextItem_eq_ok_iff : nextItem isFirst s = .ok next ↔
    (∃ r, skipSpace s = ']' :: r ∧ next = .closed r) ∨
    (isFirst = true ∧ ∃ c r, skipSpace s = c :: r ∧ c ≠ ']' ∧ next = .item (c :: r)) ∨
    (isFirst = false ∧ ∃ t c r,
      skipSpace s = ',' :: t ∧ skipSpace t = c :: r ∧ c ≠ ']' ∧ next = .item (c :: r)) := by
  unfold nextItem
  cases skipSpace s with
  | nil => simp
  | cons c t =>
    by_cases hclose : c = ']'
    · grind
    · by_cases hcomma : c = ','
      · subst hcomma
        cases ht : skipSpace t <;> grind
      · grind

theorem keyQuote_eq_ok_iff : keyQuote c r = .ok next ↔ c = '"' ∧ next = .item r := by
  unfold keyQuote
  grind

theorem nextKey_eq_ok_iff : nextKey isFirst s = .ok next ↔
    (∃ r, skipSpace s = '\x7d' :: r ∧ next = .closed r) ∨
    (isFirst = true ∧ ∃ r, skipSpace s = '"' :: r ∧ next = .item r) ∨
    (isFirst = false ∧ ∃ t r,
      skipSpace s = ',' :: t ∧ skipSpace t = '"' :: r ∧ next = .item r) := by
  unfold nextKey
  cases skipSpace s with
  | nil => simp
  | cons c t =>
    by_cases hclose : c = '\x7d'
    · grind
    · by_cases hcomma : c = ','
      · subst hcomma
        cases ht : skipSpace t <;> grind [keyQuote_eq_ok_iff]
      · grind [keyQuote_eq_ok_iff]

theorem afterColon_eq_ok_iff : afterColon s = .ok r ↔ skipSpace s = ':' :: r := by
  unfold afterColon
  cases skipSpace s with
  | nil => simp
  | cons c t => by_cases hc : c = ':' <;> simp [hc]

theorem nextSkippedItem_eq_ok_iff : nextSkippedItem isFirst s = .ok next ↔
    (∃ r, skipSpace s = ']' :: r ∧ next = .closed r) ∨
    (isFirst = true ∧ ∃ c r, skipSpace s = c :: r ∧ c ≠ ']' ∧ next = .item (c :: r)) ∨
    (isFirst = false ∧ ∃ r, skipSpace s = ',' :: r ∧ next = .item r) := by
  unfold nextSkippedItem
  cases skipSpace s with
  | nil => simp
  | cons c t => by_cases hclose : c = ']' <;> grind

theorem nextSkippedKey_eq_ok_iff :
    nextSkippedKey isFirst s = .ok next ↔ nextKey isFirst s = .ok next := by
  unfold nextSkippedKey nextKey
  cases skipSpace s with
  | nil => simp
  | cons c t =>
    by_cases hclose : c = '\x7d'
    · grind
    · by_cases hcomma : c = ','
      · subst hcomma
        cases ht : skipSpace t <;> grind [keyQuote_eq_ok_iff]
      · grind

theorem eq_ok_of_map_fst {x : Except Stop (α × List Char)} {f : α → β} {v : β}
    (h : (x.map fun p => (f p.1, p.2)) = .ok (v, r)) : ∃ u, x = .ok (u, r) ∧ f u = v := by
  obtain ⟨⟨u, t⟩, hx, heq⟩ := exists_of_map_eq_ok h
  cases heq
  exact ⟨u, hx, rfl⟩

theorem literal_eq_ok_iff {u v : α} : literal v w s = .ok (u, r) ↔ s = w ++ r ∧ u = v := by
  induction w generalizing s with
  | nil => simp [literal, eq_comm, and_comm]
  | cons c w ih =>
    cases s with
    | nil => simp [literal]
    | cons d s =>
      by_cases hc : c = d
      · simp [literal, hc, ih]
      · simp [literal, hc, Ne.symm hc]

/-- The values that are words, each with its first character and the others. -/
def words : List (Char × List Char × Value) :=
  [('n', ['u', 'l', 'l'], .null), ('t', ['r', 'u', 'e'], .bool true),
    ('f', ['a', 'l', 's', 'e'], .bool false)]

variable {list object : Reader Value} {v : Value}

inductive Begins (list object : Reader Value) : Char → List Char → Value → List Char → Prop
  | string {s r : List Char} {text : String} (h : stringAfterQuote s = .ok (text, r)) :
    Begins list object '"' s (.string text) r
  | list {s r : List Char} {v : Value} (h : list s = .ok (v, r)) : Begins list object '[' s v r
  | object {s r : List Char} {v : Value} (h : object s = .ok (v, r)) :
      Begins list object '\x7b' s v r
  | word {c : Char} {w r : List Char} {v : Value} (h : (c, w, v) ∈ words) :
      Begins list object c (w ++ r) v r
  | negative {s r : List Char} {n : Number} (h : digits true s = .ok (n, r)) :
      Begins list object '-' s (.number n) r
  | natural {c : Char} {s r : List Char} {n : Number} (hc : c.isDigit)
      (h : digits false (c :: s) = .ok (n, r)) :
    Begins list object c s (.number n) r

theorem begins_of_valueWith (h : valueWith list object s = .ok (v, r)) :
    ∃ c t, skipSpace s = c :: t ∧ Begins list object c t v r := by
  unfold valueWith at h
  split at h
  · cases h
  rename_i c t hs
  refine ⟨c, t, hs, ?_⟩
  split_ifs at h with hquote hlist hobject hnull htrue hfalse hminus hdigit
  · obtain ⟨text, htext, rfl⟩ := eq_ok_of_map_fst h
    exact hquote ▸ .string htext
  · exact hlist ▸ .list h
  · exact hobject ▸ .object h
  · obtain ⟨rfl, rfl⟩ := literal_eq_ok_iff.1 h
    exact hnull ▸ .word (by simp [words])
  · obtain ⟨rfl, rfl⟩ := literal_eq_ok_iff.1 h
    exact htrue ▸ .word (by simp [words])
  · obtain ⟨rfl, rfl⟩ := literal_eq_ok_iff.1 h
    exact hfalse ▸ .word (by simp [words])
  · obtain ⟨n, hn, rfl⟩ := eq_ok_of_map_fst h
    exact hminus ▸ .negative hn
  · obtain ⟨n, hn, rfl⟩ := eq_ok_of_map_fst h
    exact .natural hdigit hn

theorem Begins.valueWith_eq {t : List Char} (hs : skipSpace s = c :: t)
    (h : Begins list object c t v r) :
    valueWith list object s = .ok (v, r) := by
  rw [valueWith, hs]
  cases h with
  | string h => simp [h]
  | list h => simpa using h
  | object h => simpa using h
  | word h =>
    simp only [words, List.mem_cons, Prod.mk.injEq, List.not_mem_nil, or_false] at h
    rcases h with ⟨rfl, rfl, rfl⟩ | ⟨rfl, rfl, rfl⟩ | ⟨rfl, rfl, rfl⟩ <;> rfl
  | negative h => simp [h]
  | natural hc h =>
    have hne (d : Char) (hd : d.isDigit = false) : c ≠ d := by
      rintro rfl
      simp [hc] at hd
    simp [hne '"' (by decide), hne '[' (by decide), hne '\x7b' (by decide), hne 'n' (by decide),
      hne 't' (by decide), hne 'f' (by decide), hne '-' (by decide), hc, h]

end Shorthand.Json
