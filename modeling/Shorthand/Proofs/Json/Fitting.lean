import Mathlib.Data.List.Nodup
import Shorthand.Proofs.Json.Next
/-!
What values a reader can give: they nest no deeper than it goes, and their whole numbers are in
range. A value in which no key stands twice is left as it is when entries are merged, and merged
entries are such.
-/
set_option autoImplicit false

namespace Shorthand.Json

def Number.InRange : Number → Prop
  | natural n => n < Nat.pow 2 64
  | negative n => 0 < n ∧ n ≤ Nat.pow 2 63
  | float _ => True

def Number.IsWhole : Number → Prop
  | natural n => n < Nat.pow 2 64
  | negative n => 0 < n ∧ n ≤ Nat.pow 2 63
  | float _ => False

inductive Fits (P : Number → Prop) : Nat → Value → Prop
  | null {depth : Nat} : Fits P depth .null
  | bool {depth : Nat} (b : Bool) : Fits P depth (.bool b)
  | number {depth : Nat} {n : Number} (h : P n) : Fits P depth (.number n)
  | string {depth : Nat} (s : String) : Fits P depth (.string s)
  | list {depth : Nat} {items : List Value} (h : ∀ v ∈ items, Fits P depth v) :
      Fits P (depth + 1) (.list items)
  | object {depth : Nat} {entries : List (String × Value)} (h : ∀ e ∈ entries, Fits P depth e.2) :
    Fits P (depth + 1) (.object entries)

variable {α : Type} {s r : List Char} {n : Number} {m : Mantissa}

theorem float_of_toFloat (h : m.toFloat s = .ok (n, r)) : ∃ x, n = .float x := by
  unfold Mantissa.toFloat at h
  split at h
  · cases h
    exact ⟨_, rfl⟩
  · cases h

theorem float_of_exponent (h : exponent m s = .ok (n, r)) : ∃ x, n = .float x := by
  unfold exponent at h
  split at h
  dsimp only at h
  split at h
  · cases h
  · split at h
    · cases h
    · split at h
      · exact float_of_toFloat h
      · split at h
        · cases h
        · cases h
          exact ⟨_, rfl⟩

theorem float_of_exponentOrEnd (h : exponentOrEnd m s = .ok (n, r)) : ∃ x, n = .float x := by
  unfold exponentOrEnd at h
  split at h
  · split_ifs at h
    · exact float_of_exponent h
    · exact float_of_toFloat h
  · exact float_of_toFloat h

theorem float_of_fraction (h : fraction m s = .ok (n, r)) : ∃ x, n = .float x := by
  unfold fraction at h
  dsimp only at h
  split at h
  · cases h
  · cases h
  · exact float_of_exponentOrEnd h

theorem inRange_of_toNumber (hm : m.digits < Nat.pow 2 64) (h : m.toNumber s = .ok (n, r)) :
    n.InRange := by
  unfold Mantissa.toNumber at h
  split_ifs at h with hneg hrange
  · cases h
    exact hrange
  · obtain ⟨x, rfl⟩ := float_of_toFloat h
    trivial
  · cases h
    exact hm

theorem inRange_of_numberTail {isWhole : Bool} (hm : m.digits < Nat.pow 2 64)
    (h : numberTail m isWhole s = .ok (n, r)) : n.InRange := by
  have hfloat (h : ∃ x, n = .float x) : n.InRange := by
    obtain ⟨x, rfl⟩ := h
    trivial
  have hplain (h : (if isWhole then m.toNumber s else m.toFloat s) = .ok (n, r)) : n.InRange := by
    split_ifs at h
    · exact inRange_of_toNumber hm h
    · exact hfloat (float_of_toFloat h)
  unfold numberTail at h
  dsimp only at h
  split at h
  · exact hfloat (float_of_fraction h)
  · split at h
    · exact hfloat (float_of_exponent h)
    · exact hplain h
  · exact hplain h

theorem pushDigits_lt {k : Nat} (hk : k < Nat.pow 2 64) (ds : List Char) :
    (pushDigits k ds).1 < Nat.pow 2 64 := by
  induction ds generalizing k with
  | nil => exact hk
  | cons c ds ih =>
    rw [pushDigits]
    dsimp only
    split_ifs with hfits
    · exact ih hfits
    · exact hk

theorem inRange_of_digits {isNegative : Bool} (h : digits isNegative s = .ok (n, r)) :
    n.InRange := by
  have hzero : 0 < Nat.pow 2 64 := by decide
  unfold digits at h
  split at h
  · cases h
  · split at h
    · split_ifs at h
      exact inRange_of_numberTail hzero h
    · exact inRange_of_numberTail hzero h
  · split_ifs at h
    exact inRange_of_numberTail (pushDigits_lt hzero _) h

theorem exists_of_mem_items {item : Reader α} {k : Nat} {isFirst : Bool} {vs : List α}
    (h : items item k isFirst s = .ok (vs, r)) : ∀ v ∈ vs, ∃ s r, item s = .ok (v, r) := by
  induction k generalizing s isFirst vs with
  | zero => cases h
  | succ k ih =>
    obtain ⟨next, -, h⟩ := exists_of_bind_eq_ok h
    cases next with
    | closed t =>
      cases h
      simp
    | item t =>
      obtain ⟨⟨v, t₁⟩, hv, h⟩ := exists_of_bind_eq_ok h
      obtain ⟨⟨ws, t₂⟩, hws, h⟩ := exists_of_bind_eq_ok h
      cases h
      exact List.forall_mem_cons.2 ⟨⟨t, t₁, hv⟩, ih hws⟩

theorem exists_of_mem_entries {item : Reader α} {k : Nat} {isFirst : Bool} {es : List (String × α)}
    (h : entries item k isFirst s = .ok (es, r)) : ∀ e ∈ es, ∃ s r, item s = .ok (e.2, r) := by
  induction k generalizing s isFirst es with
  | zero => cases h
  | succ k ih =>
    obtain ⟨next, -, h⟩ := exists_of_bind_eq_ok h
    cases next with
    | closed t =>
      cases h
      simp
    | item t =>
      obtain ⟨⟨key, t₁⟩, -, h⟩ := exists_of_bind_eq_ok h
      obtain ⟨t₂, -, h⟩ := exists_of_bind_eq_ok h
      obtain ⟨⟨v, t₃⟩, hv, h⟩ := exists_of_bind_eq_ok h
      obtain ⟨⟨ws, t₄⟩, hws, h⟩ := exists_of_bind_eq_ok h
      cases h
      exact List.forall_mem_cons.2 ⟨⟨t₂, t₃, hv⟩, ih hws⟩

theorem Begins.fits {list object : Reader Value} {c : Char} {v : Value} {depth : Nat}
    (h : Begins list object c s v r)
    (hlist : ∀ t, list t = .ok (v, r) → Fits Number.InRange depth v)
    (hobject : ∀ t, object t = .ok (v, r) → Fits Number.InRange depth v) :
    Fits Number.InRange depth v := by
  cases h with
  | string => exact .string _
  | list h => exact hlist _ h
  | object h => exact hobject _ h
  | word h =>
    simp only [words, List.mem_cons, Prod.mk.injEq, List.not_mem_nil, or_false] at h
    rcases h with ⟨-, -, rfl⟩ | ⟨-, -, rfl⟩ | ⟨-, -, rfl⟩
    · exact .null
    · exact .bool true
    · exact .bool false
  | negative h => exact .number (inRange_of_digits h)
  | natural _ h => exact .number (inRange_of_digits h)

theorem fits_of_value {depth : Nat} {v : Value} (h : value depth s = .ok (v, r)) :
    Fits Number.InRange depth v := by
  induction depth generalizing s v r with
  | zero =>
    obtain ⟨c, t, -, hbegins⟩ := begins_of_valueWith h
    exact hbegins.fits (fun t ht => nomatch ht) fun t ht => nomatch ht
  | succ depth ih =>
    obtain ⟨c, t, -, hbegins⟩ := begins_of_valueWith h
    refine hbegins.fits (fun t ht => ?_) fun t ht => ?_
    · obtain ⟨vs, hvs, rfl⟩ := eq_ok_of_map_fst ht
      refine .list fun v hv => ?_
      obtain ⟨t₁, t₂, hv⟩ := exists_of_mem_items hvs v hv
      exact ih hv
    · obtain ⟨es, hes, rfl⟩ := eq_ok_of_map_fst ht
      refine .object fun e he => ?_
      obtain ⟨t₁, t₂, he⟩ := exists_of_mem_entries hes e he
      exact ih he

mutual

def Value.holdsFloat : Value → Bool
  | .number (.float _) => true
  | .list items => itemsHoldFloat items
  | .object entries => entriesHoldFloat entries
  | _ => false

def itemsHoldFloat : List Value → Bool
  | [] => false
  | v :: r => v.holdsFloat || itemsHoldFloat r

def entriesHoldFloat : List (String × Value) → Bool
  | [] => false
  | e :: r => e.2.holdsFloat || entriesHoldFloat r

end

theorem itemsHoldFloat_eq_false_iff {items : List Value} :
    itemsHoldFloat items = false ↔ ∀ v ∈ items, v.holdsFloat = false := by
  induction items with
  | nil => simp [itemsHoldFloat]
  | cons v items ih => simp [itemsHoldFloat, ih]

theorem entriesHoldFloat_eq_false_iff {entries : List (String × Value)} :
    entriesHoldFloat entries = false ↔ ∀ e ∈ entries, e.2.holdsFloat = false := by
  induction entries with
  | nil => simp [entriesHoldFloat]
  | cons e entries ih => simp [entriesHoldFloat, ih]

/-- What is read without a floating point number has whole numbers only. -/
theorem Fits.whole {depth : Nat} {v : Value} (h : Fits Number.InRange depth v)
    (hv : v.holdsFloat = false) :
    Fits Number.IsWhole depth v := by
  induction h with
  | null => exact .null
  | bool b => exact .bool b
  | @number depth n h =>
    cases n with
    | natural n => exact .number h
    | negative n => exact .number h
    | float x => cases hv
  | string s => exact .string s
  | list h ih => exact .list fun v hmem => ih v hmem (itemsHoldFloat_eq_false_iff.1 hv v hmem)
  | object h ih => exact .object fun e hmem => ih e hmem (entriesHoldFloat_eq_false_iff.1 hv e hmem)

inductive Merged : Value → Prop
  | null : Merged .null
  | bool (b : Bool) : Merged (.bool b)
  | number (n : Number) : Merged (.number n)
  | string (s : String) : Merged (.string s)
  | list {items : List Value} (h : ∀ v ∈ items, Merged v) : Merged (.list items)
  | object {entries : List (String × Value)} (nodup : (entries.map (·.1)).Nodup)
      (h : ∀ e ∈ entries, Merged e.2) : Merged (.object entries)

theorem keys_putEntry (k : String) (v : α) (es : List (String × α)) :
    (putEntry k v es).map (·.1) = if k ∈ es.map (·.1) then es.map (·.1)
      else es.map (·.1) ++ [k] := by
  induction es with
  | nil => simp [putEntry]
  | cons e es ih =>
    by_cases hk : e.1 = k
    · simp [putEntry, hk]
    · have hk' : ¬ k = e.1 := fun h => hk h.symm
      simp only [putEntry, hk, if_false, List.map_cons, ih, List.mem_cons, hk', false_or]
      split_ifs <;> rfl

theorem mem_putEntry {k : String} {v : α} {es : List (String × α)} {e : String × α}
    (h : e ∈ putEntry k v es) :
    e = (k, v) ∨ e ∈ es := by
  induction es with
  | nil => simpa [putEntry] using h
  | cons d es ih =>
    by_cases hk : d.1 = k
    · simp only [putEntry, hk, if_true, List.mem_cons] at h ⊢
      tauto
    · simp only [putEntry, hk, if_false, List.mem_cons] at h ⊢
      tauto

theorem putEntry_of_not_mem {k : String} (v : α) {es : List (String × α)} (h : k ∉ es.map (·.1)) :
    putEntry k v es = es ++ [(k, v)] := by
  induction es with
  | nil => rfl
  | cons e es ih =>
    simp only [List.map_cons, List.mem_cons, not_or] at h
    simp [putEntry, Ne.symm h.1, ih h.2]

theorem mem_mergedEntries {done es : List (String × Value)} {e : String × Value}
    (h : e ∈ mergedEntries done es) :
    e ∈ done ∨ ∃ d ∈ es, e = (d.1, d.2.merged) := by
  induction es generalizing done with
  | nil => exact .inl (by simpa [mergedEntries] using h)
  | cons d es ih =>
    rw [mergedEntries] at h
    rcases ih h with h | ⟨d', hd', heq⟩
    · rcases mem_putEntry h with rfl | h
      · exact .inr ⟨d, by simp, rfl⟩
      · exact .inl h
    · exact .inr ⟨d', by simp [hd'], heq⟩

theorem nodup_keys_mergedEntries {done es : List (String × Value)} (h : (done.map (·.1)).Nodup) :
    ((mergedEntries done es).map (·.1)).Nodup := by
  induction es generalizing done with
  | nil => simpa [mergedEntries] using h
  | cons d es ih =>
    rw [mergedEntries]
    refine ih ?_
    rw [keys_putEntry]
    split_ifs with hmem
    · exact h
    · rw [← List.concat_eq_append]
      exact h.concat hmem

@[simp] theorem mergedItems_eq_map (items : List Value) :
    mergedItems items = items.map Value.merged := by
  induction items with
  | nil => rfl
  | cons v items ih => rw [mergedItems, ih, List.map_cons]

theorem merged_fits {P : Number → Prop} {depth : Nat} {v : Value} (h : Fits P depth v) :
    Fits P depth v.merged := by
  induction h with
  | null => exact .null
  | bool b => exact .bool b
  | number h => exact .number h
  | string s => exact .string s
  | list h ih =>
    rw [Value.merged, mergedItems_eq_map]
    exact .list (List.forall_mem_map.2 ih)
  | object h ih =>
    rw [Value.merged]
    refine .object fun e he => ?_
    rcases mem_mergedEntries he with he | ⟨d, hd, rfl⟩
    · cases he
    · exact ih d hd

mutual

theorem merged_merged : ∀ v : Value, Merged v.merged
  | .null => .null
  | .bool b => .bool b
  | .number n => .number n
  | .string s => .string s
  | .list items => .list (merged_mergedItems items)
  | .object entries => .object (nodup_keys_mergedEntries (by simp)) fun e he => by
    rcases mem_mergedEntries he with he | ⟨d, hd, rfl⟩
    · cases he
    · exact merged_entries entries d hd

theorem merged_mergedItems : ∀ items : List Value, ∀ v ∈ mergedItems items, Merged v
  | [] => by simp [mergedItems]
  | v :: items => List.forall_mem_cons.2 ⟨merged_merged v, merged_mergedItems items⟩

theorem merged_entries : ∀ entries : List (String × Value), ∀ e ∈ entries, Merged e.2.merged
  | [] => by simp
  | (_, v) :: entries => List.forall_mem_cons.2 ⟨merged_merged v, merged_entries entries⟩

end

theorem mergedEntries_append {d es : List (String × Value)} (hnodup : ((d ++ es).map (·.1)).Nodup)
    (hes : ∀ e ∈ es, e.2.merged = e.2) : mergedEntries d es = d ++ es := by
  induction es generalizing d with
  | nil => simp [mergedEntries]
  | cons e es ih =>
    obtain ⟨he, hes⟩ := List.forall_mem_cons.1 hes
    have hnew : e.1 ∉ d.map (·.1) := by
      rw [List.map_append, List.nodup_append] at hnodup
      exact fun hmem => hnodup.2.2 e.1 hmem e.1 (by simp) rfl
    have hrest : ((d ++ [e] ++ es).map (·.1)).Nodup := by simpa using hnodup
    rw [mergedEntries, he, putEntry_of_not_mem e.2 hnew, ih hrest hes, List.append_assoc,
      List.singleton_append]

theorem merged_eq {v : Value} (h : Merged v) : v.merged = v := by
  induction h with
  | null => rfl
  | bool => rfl
  | number => rfl
  | string => rfl
  | @list items h ih =>
    rw [Value.merged, mergedItems_eq_map]
    exact congrArg Value.list ((List.map_congr_left ih).trans (List.map_id items))
  | object nodup h ih => rw [Value.merged, mergedEntries_append (d := []) nodup ih, List.nil_append]

end Shorthand.Json
