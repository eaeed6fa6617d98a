import Shorthand.Proofs.Json.Fitting
import Shorthand.Proofs.Json.Next
import Shorthand.Proofs.Json.Written
set_option autoImplicit false

namespace Shorthand.Json

/-- The text begins like a value, and is read as that one, whatever follows that goes on with no
token. -/
structure Printed {α : Type} (read : Reader α) (text : List Char) (v : α) : Prop where
  head : ∃ c t, text = c :: t ∧ isSpace c = false ∧ c ≠ ']'
  read : ∀ tail, EndsToken tail → read (text ++ tail) = .ok (v, tail)

variable {α β : Type} {s tail : List Char} {c : Char} {n depth : Nat}

/-- Parts one after the other, with a comma before each but the first, or before that too. -/
def joined (isFirst : Bool) : List (List Char) → List Char
  | [] => []
  | p :: ps => (if isFirst then p else ',' :: p) ++ joined false ps

theorem commas_eq (parts : List (List Char)) : commas parts = joined true parts := by
  have hcons (p : List Char) (ps : List (List Char)) : commas (p :: ps) = p ++ joined false ps := by
    induction ps generalizing p with
    | nil => simp [commas, joined]
    | cons q ps ih => simp [commas, joined, ih]
  cases parts with
  | nil => rfl
  | cons p ps => exact hcons p ps

theorem endsToken_joined {mark : Char} (hmark : isTokenChar mark = false) (ps : List (List Char))
    (s : List Char) :
    EndsToken (joined false ps ++ mark :: s) := by
  cases ps with
  | nil => exact endsToken_cons hmark
  | cons p ps => exact endsToken_cons (by decide)

theorem nextItem_joined {isFirst : Bool} {part : List Char}
    (h : ∃ c t, part = c :: t ∧ isSpace c = false ∧ c ≠ ']')
    (ps : List (List Char)) (s : List Char) :
    nextItem isFirst (joined isFirst (part :: ps) ++ s) =
      .ok (.item (part ++ (joined false ps ++ s))) := by
  obtain ⟨c, t, rfl, hspace, hclose⟩ := h
  rw [nextItem_eq_ok_iff]
  cases isFirst with
  | true => exact .inr (.inl ⟨rfl, c, _, skipSpace_eq_self hspace, hclose, by simp⟩)
  | false =>
    refine .inr (.inr
      ⟨rfl, c :: t ++ (joined false ps ++ s), c, t ++ (joined false ps ++ s), ?_, ?_, hclose, rfl⟩)
    · simp [joined, skipSpace_eq_self (by decide : isSpace ',' = false)]
    · exact skipSpace_eq_self hspace

theorem items_printed {item : Reader α} {f : β → List Char} {g : β → α} {l : List β}
    {isFirst : Bool} (h : ∀ b ∈ l, Printed item (f b) (g b)) (hn : l.length < n) (s : List Char) :
    items item n isFirst (joined isFirst (l.map f) ++ ']' :: s) = .ok (l.map g, s) := by
  induction l generalizing n isFirst with
  | nil =>
    obtain ⟨n, rfl⟩ : ∃ k, n = k + 1 := ⟨n - 1, by omega⟩
    have hnext : nextItem isFirst (']' :: s) = .ok (.closed s) :=
      nextItem_eq_ok_iff.2 (.inl ⟨s, rfl, rfl⟩)
    simp [joined, items, hnext]
  | cons b l ih =>
    obtain ⟨n, rfl⟩ : ∃ k, n = k + 1 := ⟨n - 1, by omega⟩
    obtain ⟨hb, hl⟩ := List.forall_mem_cons.1 h
    simp only [List.length_cons, Nat.add_lt_add_iff_right] at hn
    have hread := hb.read _ (endsToken_joined (by decide : isTokenChar ']' = false) (l.map f) s)
    rw [items, List.map_cons, nextItem_joined hb.head]
    simp only [ok_bind, hread, ih hl hn, List.map_cons]

theorem nextKey_joined {isFirst : Bool} (key : String) (part : List Char) (ps : List (List Char))
    (s : List Char) :
    nextKey isFirst (joined isFirst ((writeString key ++ ':' :: part) :: ps) ++ s) =
      .ok (.item (key.toList.flatMap escaped ++
        '"' :: ':' :: (part ++ (joined false ps ++ s)))) := by
  have hspace : isSpace '"' = false := by decide
  rw [nextKey_eq_ok_iff]
  cases isFirst with
  | true => exact .inr (.inl ⟨rfl, _, by simp [joined, writeString, skipSpace_eq_self hspace], rfl⟩)
  | false =>
    refine .inr (.inr
      ⟨rfl, writeString key ++ ':' :: (part ++ (joined false ps ++ s)), _, ?_, ?_, rfl⟩)
    · simp [joined, skipSpace_eq_self (by decide : isSpace ',' = false)]
    · rw [writeString_append, skipSpace_eq_self hspace]

theorem afterColon_colon (s : List Char) : afterColon (':' :: s) = .ok s :=
  afterColon_eq_ok_iff.2 rfl

theorem entries_printed {item : Reader α} {k : β → String} {f : β → List Char} {g : β → α}
    {l : List β} {isFirst : Bool} (h : ∀ b ∈ l, Printed item (f b) (g b)) (hn : l.length < n)
    (s : List Char) :
    entries item n isFirst (joined isFirst (l.map fun b => writeString (k b) ++ ':' :: f b) ++
      '\x7d' :: s) =
      .ok (l.map fun b => (k b, g b), s) := by
  induction l generalizing n isFirst with
  | nil =>
    obtain ⟨n, rfl⟩ : ∃ k, n = k + 1 := ⟨n - 1, by omega⟩
    have hnext : nextKey isFirst ('\x7d' :: s) = .ok (.closed s) :=
      nextKey_eq_ok_iff.2 (.inl ⟨s, rfl, rfl⟩)
    simp [joined, entries, hnext]
  | cons b l ih =>
    obtain ⟨n, rfl⟩ : ∃ k, n = k + 1 := ⟨n - 1, by omega⟩
    obtain ⟨hb, hl⟩ := List.forall_mem_cons.1 h
    simp only [List.length_cons, Nat.add_lt_add_iff_right] at hn
    have hread := hb.read _ (endsToken_joined (by decide : isTokenChar '\x7d' = false)
      (l.map fun b => writeString (k b) ++ ':' :: f b) s)
    rw [entries, List.map_cons, nextKey_joined]
    simp only [ok_bind, stringAfterQuote_written, afterColon_colon, hread, ih hl hn, List.map_cons]

@[simp] theorem writtenItems_eq_map (items : List Value) :
    writtenItems items = items.map Value.write := by
  induction items with
  | nil => rfl
  | cons v items ih => rw [writtenItems, ih, List.map_cons]

@[simp] theorem writtenEntries_eq_map (entries : List (String × Value)) :
    writtenEntries entries = entries.map fun e => (e.1, e.2.write) := by
  induction entries with
  | nil => rfl
  | cons e entries ih => rw [writtenEntries, ih, List.map_cons]

theorem writeList_append (parts : List (List Char)) (s : List Char) :
    writeList parts ++ s = '[' :: (joined true parts ++ ']' :: s) := by simp [writeList, commas_eq]

theorem writeObject_append (l : List (String × List Char)) (s : List Char) :
    writeObject l ++ s = '\x7b' ::
      (joined true (l.map fun e => writeString e.1 ++ ':' :: e.2) ++ '\x7d' :: s) := by
  simp [writeObject, commas_eq]

theorem length_le_joined (isFirst : Bool) {ps : List (List Char)} (h : ∀ p ∈ ps, p ≠ []) :
    ps.length ≤ (joined isFirst ps).length := by
  induction ps generalizing isFirst with
  | nil => simp
  | cons p ps ih =>
    obtain ⟨hp, hps⟩ := List.forall_mem_cons.1 h
    have hlength := List.length_pos_iff.2 hp
    have hrest := ih false hps
    cases isFirst <;> simp only [joined, if_true, List.length_append, List.length_cons] <;> grind

theorem Printed.ne_nil {read : Reader α} {text : List Char} {v : α} (h : Printed read text v) :
    text ≠ [] := by
  obtain ⟨c, t, rfl, -⟩ := h.head
  simp

theorem items_writeList {item : Reader α} {f : β → List Char} {g : β → α} {l : List β}
    (h : ∀ b ∈ l, Printed item (f b) (g b)) (s : List Char) :
    items item ((joined true (l.map f) ++ ']' :: s).length + 1) true
      (joined true (l.map f) ++ ']' :: s) =
      .ok (l.map g, s) := by
  refine items_printed h ?_ s
  have hlength := length_le_joined true (List.forall_mem_map.2 fun b hb => (h b hb).ne_nil)
  simp only [List.length_map, List.length_append, List.length_cons] at hlength ⊢
  omega

theorem entries_writeObject {item : Reader α} {k : β → String} {f : β → List Char} {g : β → α}
    {l : List β} (h : ∀ b ∈ l, Printed item (f b) (g b)) (s : List Char) :
    entries item
        ((joined true (l.map fun b => writeString (k b) ++ ':' :: f b) ++ '\x7d' :: s).length + 1)
          true
        (joined true (l.map fun b => writeString (k b) ++ ':' :: f b) ++ '\x7d' :: s) =
      .ok (l.map fun b => (k b, g b), s) := by
  refine entries_printed h ?_ s
  have hparts : ∀ p ∈ l.map fun b => writeString (k b) ++ ':' :: f b, p ≠ [] :=
    List.forall_mem_map.2 fun b _ => by simp
  have hlength := length_le_joined true hparts
  simp only [List.length_map, List.length_append, List.length_cons] at hlength ⊢
  omega

theorem isSpace_of_isDigit (h : c.isDigit) : isSpace c = false := by
  by_contra hspace
  simp only [isSpace, Bool.or_eq_true, decide_eq_true_eq, Bool.not_eq_false] at hspace
  rcases hspace with ((rfl | rfl) | rfl) | rfl <;> exact absurd h (by decide)

variable {list object : Reader Value}

theorem Printed.of_begins {text : List Char} {v : Value} {t : List Char → List Char}
    (htext : ∀ tail, text ++ tail = c :: t tail) (hspace : isSpace c = false) (hc : c ≠ ']')
    (h : ∀ tail, EndsToken tail → Begins list object c (t tail) v tail) :
    Printed (valueWith list object) text v where
  head := ⟨c, t [], by simpa using htext [], hspace, hc⟩
  read tail htail := (h tail htail).valueWith_eq (htext tail ▸ skipSpace_eq_self hspace)

theorem printed_word {w : List Char} {v : Value} (h : (c, w, v) ∈ words) :
    Printed (valueWith list object) (c :: w) v := by
  have hall : ∀ e ∈ words, isSpace e.1 = false ∧ e.1 ≠ ']' := by decide
  obtain ⟨hspace, hc⟩ := hall _ h
  exact .of_begins (fun _ => List.cons_append) hspace hc fun _ _ => .word h

theorem printed_number {n : Number} (hn : n.IsWhole) :
    Printed (valueWith list object) n.write (.number n) := by
  cases n with
  | natural n =>
    rw [Number.write]
    cases hds : Nat.toDigits 10 n with
    | nil => exact absurd hds Nat.toDigits_ne_nil
    | cons d ds =>
      have hd : d.isDigit := isDigit_of_mem_toDigits (hds ▸ List.mem_cons_self)
      have hne : d ≠ ']' := by
        rintro rfl
        exact absurd hd (by decide)
      refine .of_begins (fun _ => List.cons_append) (isSpace_of_isDigit hd) hne fun tail htail =>
        .natural hd ?_
      rw [← List.cons_append, ← hds]
      exact digits_toDigits false hn htail
  | negative n =>
    obtain ⟨hpos, hle⟩ := hn
    have hlt : n < Nat.pow 2 64 := Nat.lt_of_le_of_lt hle (by decide)
    refine .of_begins (fun _ => List.cons_append) (by decide) (by decide) fun tail htail =>
      .negative ?_
    rw [digits_toDigits true hlt htail]
    simp [Mantissa.toNumber, hpos, hle]
  | float x => exact hn.elim

theorem printed_string (text : String) :
    Printed (valueWith list object) (writeString text) (.string text) :=
  .of_begins (writeString_append text) (by decide) (by decide) fun tail _ =>
    .string (stringAfterQuote_written text tail)

theorem exists_value_eq (depth : Nat) : ∃ list object, value depth = valueWith list object := by
  cases depth with
  | zero => exact ⟨_, _, rfl⟩
  | succ depth => exact ⟨_, _, rfl⟩

/-- A value that a reader can give is read again as it is written, unless it holds a floating point
number. -/
theorem value_printed {v : Value} (h : Fits Number.IsWhole depth v) :
    Printed (value depth) v.write v := by
  -- Only lists and objects depend on the readers of what they hold.
  have hplain {d : Nat} {v : Value} (h : ∀ list object, Printed (valueWith list object) v.write v) :
      Printed (value d) v.write v := by
    obtain ⟨list, object, heq⟩ := exists_value_eq d
    exact heq ▸ h list object
  induction h with
  | null => exact hplain fun _ _ => printed_word (by simp [words])
  | bool b => cases b <;> exact hplain fun _ _ => printed_word (by simp [words])
  | number hn => exact hplain fun _ _ => printed_number hn
  | string text => exact hplain fun _ _ => printed_string text
  | @list depth items h ih =>
    rw [Value.write, writtenItems_eq_map]
    refine .of_begins (writeList_append _) (by decide) (by decide) fun tail _ => .list ?_
    simp only [items_writeList (g := id) ih, map_ok, List.map_id]
  | @object depth entries h ih =>
    have hread := entries_writeObject (k := fun e : String × Value => e.1) (g := fun e => e.2) ih
    rw [Value.write, writtenEntries_eq_map]
    refine .of_begins (writeObject_append _) (by decide) (by decide) fun tail _ => .object ?_
    simp only [List.map_map, Function.comp_def, hread, map_ok, List.map_id']

end Shorthand.Json
