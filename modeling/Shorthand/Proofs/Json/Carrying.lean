import Shorthand.Proofs.Json.Next
import Shorthand.Proofs.Json.Padding
set_option autoImplicit false

namespace Shorthand.Json

/-- What the first reader makes of a text, the second makes of a padded one. -/
def Carries {α : Type} (read read' : Reader α) : Prop :=
  ∀ ⦃a b : List Char⦄ ⦃v : α⦄ ⦃r : List Char⦄,
    Padded (.code false) a b → read a = .ok (v, r) → Settled r →
    ∃ r', read' b = .ok (v, r') ∧ Padded (.code false) r r' ∧ r'.length < b.length

inductive PaddedNext (zone : Zone) (bound : Nat) : Next → Next → Prop
  | closed {r r' : List Char} (rest : Padded (.code false) r r') (lt : r'.length < bound) :
    PaddedNext zone bound (.closed r) (.closed r')
  | item {s s' : List Char} (rest : Padded zone s s') (le : s'.length ≤ bound) :
    PaddedNext zone bound (.item s) (.item s')

variable {α β : Type} {a b r s : List Char} {g : Bool} {c : Char} {n m : Nat} {isFirst : Bool}
  {next : Next}

theorem nextItem_padded (h : Padded (.code false) a b) (hnext : nextItem isFirst a = .ok next) :
    ∃ next', nextItem isFirst b = .ok next' ∧ PaddedNext (.code false) b.length next next' := by
  rcases nextItem_eq_ok_iff.1 hnext with ⟨r, ha, rfl⟩
    | ⟨hfirst, c, r, ha, hc, rfl⟩ | ⟨hfirst, t, c, r, ha, ht, hc, rfl⟩
  · obtain ⟨r', hb, hpad, hlt⟩ := h.skipMark ha (by decide)
    exact ⟨.closed r', nextItem_eq_ok_iff.2 (.inl ⟨r', hb, rfl⟩), .closed hpad hlt⟩
  · obtain ⟨r', hb, hpad, hlt⟩ := h.skipSpace_cons ha
    exact ⟨.item (c :: r'), nextItem_eq_ok_iff.2 (.inr (.inl ⟨hfirst, c, r', hb, hc, rfl⟩)),
      .item (.cons hpad) hlt⟩
  · obtain ⟨t', hb, hpad, hlt⟩ := h.skipMark ha (by decide)
    obtain ⟨r', hb', hpad', hlt'⟩ := hpad.skipSpace_cons ht
    exact ⟨.item (c :: r'),
      nextItem_eq_ok_iff.2 (.inr (.inr ⟨hfirst, t', c, r', hb, hb', hc, rfl⟩)),
      .item (.cons hpad') (Nat.le_of_lt (Nat.lt_of_le_of_lt hlt' hlt))⟩

theorem settled_of_nextItem (h : nextItem false s = .ok next) : Settled s := by
  rcases nextItem_eq_ok_iff.1 h with ⟨r, hs, -⟩ | ⟨hfirst, -⟩ | ⟨-, t, c, r, hs, -⟩
  · exact settled_of_skipSpace hs (by decide)
  · cases hfirst
  · exact settled_of_skipSpace hs (by decide)

theorem nextKey_padded (h : Padded (.code false) a b) (hnext : nextKey isFirst a = .ok next) :
    ∃ next', nextKey isFirst b = .ok next' ∧ PaddedNext .string b.length next next' := by
  rcases nextKey_eq_ok_iff.1 hnext with ⟨r, ha, rfl⟩
    | ⟨hfirst, r, ha, rfl⟩ | ⟨hfirst, t, r, ha, ht, rfl⟩
  · obtain ⟨r', hb, hpad, hlt⟩ := h.skipMark ha (by decide)
    exact ⟨.closed r', nextKey_eq_ok_iff.2 (.inl ⟨r', hb, rfl⟩), .closed hpad hlt⟩
  · obtain ⟨r', hb, hpad, hlt⟩ := h.skipSpace_cons ha
    exact ⟨.item r', nextKey_eq_ok_iff.2 (.inr (.inl ⟨hfirst, r', hb, rfl⟩)),
      .item hpad (Nat.le_of_lt hlt)⟩
  · obtain ⟨t', hb, hpad, hlt⟩ := h.skipMark ha (by decide)
    obtain ⟨r', hb', hpad', hlt'⟩ := hpad.skipSpace_cons ht
    exact ⟨.item r', nextKey_eq_ok_iff.2 (.inr (.inr ⟨hfirst, t', r', hb, hb', rfl⟩)),
      .item hpad' (by omega)⟩

theorem settled_of_nextKey (h : nextKey false s = .ok next) : Settled s := by
  rcases nextKey_eq_ok_iff.1 h with ⟨r, hs, -⟩ | ⟨hfirst, -⟩ | ⟨-, t, r, hs, -⟩
  · exact settled_of_skipSpace hs (by decide)
  · cases hfirst
  · exact settled_of_skipSpace hs (by decide)

theorem afterColon_padded (h : Padded (.code g) a b) (hread : afterColon a = .ok r) :
    ∃ r', afterColon b = .ok r' ∧ Padded (.code false) r r' ∧ r'.length < b.length := by
  obtain ⟨r', hb, hpad, hlt⟩ := h.skipMark (afterColon_eq_ok_iff.1 hread) (by decide)
  exact ⟨r', afterColon_eq_ok_iff.2 hb, hpad, hlt⟩

theorem settled_of_items {item : Reader α} {vs : List α} (h : items item n false s = .ok (vs, r)) :
    Settled s := by
  cases n with
  | zero => cases h
  | succ n =>
    obtain ⟨next, hnext, -⟩ := exists_of_bind_eq_ok h
    exact settled_of_nextItem hnext

theorem items_padded {item item' : Reader α} (hitem : Carries item item') {vs : List α}
    (h : Padded (.code false) a b) (hm : b.length < m)
    (hread : items item n isFirst a = .ok (vs, r)) :
    ∃ r', items item' m isFirst b = .ok (vs, r') ∧
      Padded (.code false) r r' ∧ r'.length < b.length := by
  induction n generalizing a b m isFirst vs with
  | zero => cases hread
  | succ n ih =>
    obtain ⟨m, rfl⟩ : ∃ k, m = k + 1 := ⟨m - 1, by omega⟩
    obtain ⟨next, hnext, hread⟩ := exists_of_bind_eq_ok hread
    -- The second count follows the second text: it stays above what is left of it, and so never
    -- runs out.
    obtain ⟨next', hnext', hpad⟩ := nextItem_padded h hnext
    rw [items, hnext']
    cases hpad with
    | closed hrest hlt =>
      cases hread
      exact ⟨_, rfl, hrest, hlt⟩
    | item hrest hle =>
      obtain ⟨⟨v, a₁⟩, hv, hread⟩ := exists_of_bind_eq_ok hread
      obtain ⟨⟨vs, a₂⟩, hvs, hread⟩ := exists_of_bind_eq_ok hread
      cases hread
      obtain ⟨b₁, hv', hpad₁, hlt₁⟩ := hitem hrest hv (settled_of_items hvs)
      obtain ⟨r', hvs', hpad', hlt'⟩ := ih hpad₁ (by omega : b₁.length < m) hvs
      exact ⟨r', by simp [hv', hvs'], hpad', by omega⟩

theorem settled_of_entries {item : Reader α} {es : List (String × α)}
    (h : entries item n false s = .ok (es, r)) :
    Settled s := by
  cases n with
  | zero => cases h
  | succ n =>
    obtain ⟨next, hnext, -⟩ := exists_of_bind_eq_ok h
    exact settled_of_nextKey hnext

theorem entries_padded {item item' : Reader α} (hitem : Carries item item') {es : List (String × α)}
    (h : Padded (.code false) a b) (hm : b.length < m)
    (hread : entries item n isFirst a = .ok (es, r)) :
    ∃ r', entries item' m isFirst b = .ok (es, r') ∧
      Padded (.code false) r r' ∧ r'.length < b.length := by
  induction n generalizing a b m isFirst es with
  | zero => cases hread
  | succ n ih =>
    obtain ⟨m, rfl⟩ : ∃ k, m = k + 1 := ⟨m - 1, by omega⟩
    obtain ⟨next, hnext, hread⟩ := exists_of_bind_eq_ok hread
    obtain ⟨next', hnext', hpad⟩ := nextKey_padded h hnext
    rw [entries, hnext']
    cases hpad with
    | closed hrest hlt =>
      cases hread
      exact ⟨_, rfl, hrest, hlt⟩
    | item hrest hle =>
      obtain ⟨⟨k, a₁⟩, hk, hread⟩ := exists_of_bind_eq_ok hread
      obtain ⟨a₂, hcolon, hread⟩ := exists_of_bind_eq_ok hread
      obtain ⟨⟨v, a₃⟩, hv, hread⟩ := exists_of_bind_eq_ok hread
      obtain ⟨⟨es, a₄⟩, hes, hread⟩ := exists_of_bind_eq_ok hread
      cases hread
      obtain ⟨b₁, hk', hpad₁, hlt₁⟩ := stringAfterQuote_padded hrest hk
      obtain ⟨b₂, hcolon', hpad₂, hlt₂⟩ := afterColon_padded hpad₁ hcolon
      obtain ⟨b₃, hv', hpad₃, hlt₃⟩ := hitem hpad₂ hv (settled_of_entries hes)
      obtain ⟨r', hes', hpad', hlt'⟩ := ih hpad₃ (by omega : b₃.length < m) hes
      exact ⟨r', by simp [hk', hcolon', hv', hes'], hpad', by omega⟩

theorem Scans.padded_cons {read : Reader α} (h : Scans read) {v : α} (hc : isTokenChar c)
    (hpad : Padded (.code true) a b) (hread : read (c :: a) = .ok (v, r)) (hr : Settled r) :
    ∃ r', read (c :: b) = .ok (v, r') ∧ Padded (.code false) r r' ∧ r'.length ≤ b.length := by
  obtain ⟨w, hw, hall, hagain⟩ := h hread hr.endsToken
  cases w with
  | nil =>
    obtain rfl : c :: a = r := hw
    exact absurd hc (by simp [hr.endsToken.head])
  | cons d w =>
    obtain ⟨rfl, rfl⟩ := List.cons.inj hw
    obtain ⟨r', rfl, hrest⟩ := hpad.skipToken (List.forall_mem_cons.1 hall).2
    exact ⟨r', hagain r' (hrest.endsToken hr), hrest.loosen, by simp⟩

theorem Carries.map {read read' : Reader α} (h : Carries read read') (f : α → β) :
    Carries (fun s => (read s).map fun p => (f p.1, p.2)) fun s =>
      (read' s).map fun p => (f p.1, p.2) := by
  intro a b v r hpad hread hr
  obtain ⟨u, hu, rfl⟩ := eq_ok_of_map_fst hread
  obtain ⟨r', hu', hrest⟩ := h hpad hu hr
  exact ⟨r', by simp [hu'], hrest⟩

theorem tokens_of_mem_words {w : List Char} {v : Value} (h : (c, w, v) ∈ words) :
    isTokenChar c ∧ AllToken w := by
  have hall : ∀ e ∈ words, isTokenChar e.1 ∧ AllToken e.2.1 := by decide
  exact hall _ h

theorem carries_valueWith {list list' object object' : Reader Value} (hlist : Carries list list')
    (hobject : Carries object object') :
    Carries (valueWith list object) (valueWith list' object') := by
  intro a b v r hpad hread hr
  obtain ⟨c, a₁, ha, hbegins⟩ := begins_of_valueWith hread
  obtain ⟨b₁, hb, hpad₁, hlt⟩ := hpad.skipSpace_cons ha
  have hgoes : ∃ r', Begins list' object' c b₁ v r' ∧
    Padded (.code false) r r' ∧ r'.length ≤ b₁.length := by
    cases hbegins with
    | string h =>
      obtain ⟨r', h', hrest, hlt'⟩ := stringAfterQuote_padded hpad₁ h
      exact ⟨r', .string h', hrest, Nat.le_of_lt hlt'⟩
    | list h =>
      obtain ⟨r', h', hrest, hlt'⟩ := hlist (hpad₁.behind (by decide)) h hr
      exact ⟨r', .list h', hrest, Nat.le_of_lt hlt'⟩
    | object h =>
      obtain ⟨r', h', hrest, hlt'⟩ := hobject (hpad₁.behind (by decide)) h hr
      exact ⟨r', .object h', hrest, Nat.le_of_lt hlt'⟩
    | word h =>
      obtain ⟨hc, hw⟩ := tokens_of_mem_words h
      obtain ⟨r', rfl, hrest⟩ := (hpad₁.behindToken hc).skipToken hw
      exact ⟨r', .word h, hrest.loosen, by simp⟩
    | negative h =>
      obtain ⟨r', h', hrest, hle⟩ := (scans_digits true).padded (hpad₁.behindToken (by decide)) h hr
      exact ⟨r', .negative h', hrest, hle⟩
    | natural hdigit h =>
      have hc := isTokenChar_of_isDigit c hdigit
      obtain ⟨r', h', hrest, hle⟩ := (scans_digits false).padded_cons hc (hpad₁.behindToken hc) h hr
      exact ⟨r', .natural hdigit h', hrest, hle⟩
  obtain ⟨r', hbegins', hrest, hle⟩ := hgoes
  exact ⟨r', hbegins'.valueWith_eq hb, hrest, Nat.lt_of_le_of_lt hle hlt⟩

theorem carries_items {item item' : Reader α} (h : Carries item item') :
    Carries (fun s => items item (s.length + 1) true s) fun s =>
      items item' (s.length + 1) true s :=
  fun _ _ _ _ hpad hread _ => items_padded h hpad (Nat.lt_succ_self _) hread

theorem carries_entries {item item' : Reader α} (h : Carries item item') :
    Carries (fun s => entries item (s.length + 1) true s) fun s =>
      entries item' (s.length + 1) true s :=
  fun _ _ _ _ hpad hread _ => entries_padded h hpad (Nat.lt_succ_self _) hread

theorem carries_value (depth : Nat) : Carries (value depth) (value depth) := by
  induction depth with
  | zero =>
    exact carries_valueWith (fun _ _ _ _ _ hread _ => nomatch hread)
      (fun _ _ _ _ _ hread _ => nomatch hread)
  | succ depth ih =>
    exact carries_valueWith ((carries_items ih).map Value.list)
      ((carries_entries ih).map Value.object)

end Shorthand.Json
