import Mathlib.Data.List.Sort
import Shorthand.SortedMap
set_option autoImplicit false

namespace Shorthand.SortedMap

variable {α : Type}

theorem find?_eq_some_iff {l : List (String × α)} (h : l.Pairwise fun a b => a.1 < b.1)
    {k : String} {e : String × α} : l.find? (·.1 = k) = some e ↔ e ∈ l ∧ e.1 = k := by
  induction l with
  | nil => simp
  | cons a l ih =>
    rw [List.pairwise_cons] at h
    have hne : e ∈ l → a.1 ≠ e.1 := fun he heq => String.lt_irrefl _ (heq ▸ h.1 e he)
    by_cases ha : a.1 = k
    · have hk : e ∈ l → e.1 ≠ k := fun he heq => hne he (ha.trans heq.symm)
      simp only [List.find?_cons, ha, decide_true, Option.some.injEq, List.mem_cons]
      constructor
      · rintro rfl
        exact ⟨.inl rfl, ha⟩
      · rintro ⟨rfl | he, heq⟩
        · rfl
        · exact absurd heq (hk he)
    · simp only [List.find?_cons, ha, decide_false, ih h.2, List.mem_cons]
      constructor
      · rintro ⟨he, heq⟩
        exact ⟨.inr he, heq⟩
      · rintro ⟨rfl | he, heq⟩
        · exact absurd heq ha
        · exact ⟨he, heq⟩

theorem get?_eq_some_iff {m : SortedMap α} {k : String} {v : α} :
    m.get? k = some v ↔ (k, v) ∈ m.entries := by
  simp only [get?, Option.map_eq_some_iff, find?_eq_some_iff m.rising]
  constructor
  · rintro ⟨e, ⟨he, rfl⟩, rfl⟩
    exact he
  · intro h
    exact ⟨(k, v), ⟨h, rfl⟩, rfl⟩

@[simp] theorem get?_erase (m : SortedMap α) (k k' : String) :
    (m.erase k).get? k' = if k = k' then none else m.get? k' := by
  rw [get?, erase, List.find?_filter]
  by_cases h : k = k'
  · subst h
    have hnone : m.entries.find?
      (fun e => decide (decide (e.1 ≠ k) = true ∧ decide (e.1 = k) = true)) = none :=
      List.find?_eq_none.2 fun e _ => by simp
    rw [hnone, if_pos rfl]
    rfl
  · have hsame : ∀ e : String × α,
      decide (decide (e.1 ≠ k) = true ∧ decide (e.1 = k') = true) = decide (e.1 = k') :=
      fun e => by grind
    rw [funext hsame, if_neg h]
    rfl

theorem nodup_entries (m : SortedMap α) : m.entries.Nodup :=
  m.rising.imp fun {a b} (hlt : a.1 < b.1) (heq : a = b) => String.lt_irrefl b.1 (heq ▸ hlt)

theorem eq_of_mem {m : SortedMap α} {k : String} {v v' : α} (h : (k, v) ∈ m.entries)
    (h' : (k, v') ∈ m.entries) :
    v = v' :=
  Option.some.inj ((get?_eq_some_iff.2 h).symm.trans (get?_eq_some_iff.2 h'))

theorem ext_get? {m n : SortedMap α} (h : ∀ k, m.get? k = n.get? k) : m = n := by
  have : Std.Irrefl fun a b : String × α => a.1 < b.1 := ⟨fun _ => String.lt_irrefl _⟩
  have : Std.Antisymm fun a b : String × α => a.1 < b.1 :=
    ⟨fun _ _ hab hba => absurd hab (String.lt_asymm hba)⟩
  refine SortedMap.ext (m.rising.eq_of_mem_iff n.rising fun e => ?_)
  rw [← get?_eq_some_iff (k := e.1), h, get?_eq_some_iff]

theorem get?_foldl_insert (l : List (String × α)) (h : l.Pairwise fun a b => a.1 < b.1)
    (m : SortedMap α) (k : String) :
    (l.foldl (fun m e => m.insert e.1 e.2) m).get? k =
      ((l.find? (·.1 = k)).map (·.2)).or (m.get? k) := by
  induction l generalizing m with
  | nil => rfl
  | cons a l ih =>
    rw [List.pairwise_cons] at h
    rw [List.foldl_cons, ih h.2, get?_insert]
    by_cases ha : a.1 = k
    · have hl : l.find? (·.1 = k) = none := by
        rw [List.find?_eq_none]
        intro e he
        have hlt := h.1 e he
        simp only [decide_eq_true_eq]
        rintro rfl
        exact String.lt_irrefl _ (ha ▸ hlt)
      simp [hl, ha]
    · simp [ha]

@[simp] theorem get?_override (m n : SortedMap α) (k : String) :
    (m.override n).get? k = (n.get? k).or (m.get? k) :=
  get?_foldl_insert n.entries n.rising m k

theorem override_assoc (m n p : SortedMap α) :
    (m.override n).override p = m.override (n.override p) := by
  apply ext_get?
  intro k
  simp only [get?_override, Option.or_assoc]

@[simp] theorem override_empty (m : SortedMap α) : m.override ∅ = m := rfl

@[simp] theorem empty_override (m : SortedMap α) : (∅ : SortedMap α).override m = m := by
  apply ext_get?
  intro k
  rw [get?_override, get?_empty, Option.or_none]

@[simp] theorem override_self (m : SortedMap α) : m.override m = m := by
  apply ext_get?
  intro k
  rw [get?_override, Option.or_self]

theorem get?_foldl_insert_latest (l : List (String × α)) (m : SortedMap α) (k : String) :
    (l.foldl (fun m e => m.insert e.1 e.2) m).get? k =
      ((l.reverse.find? (·.1 = k)).map (·.2)).or (m.get? k) := by
  induction l generalizing m with
  | nil => rfl
  | cons e l ih =>
    rw [List.foldl_cons, ih, get?_insert, List.reverse_cons, List.find?_append]
    by_cases he : e.1 = k
    · cases l.reverse.find? (·.1 = k) <;> simp [he]
    · simp [he]

variable {β γ : Type}

@[simp] theorem get?_map (f : α → β) (m : SortedMap α) (k : String) :
    (m.map f).get? k = (m.get? k).map f := by
  simp only [get?, map, List.find?_map, Option.map_map]
  rfl

@[simp] theorem map_map (f : α → β) (g : β → γ) (m : SortedMap α) :
    (m.map f).map g = m.map (g ∘ f) := by
  apply ext_get?
  intro k
  simp

theorem map_override (f : α → β) (m n : SortedMap α) :
    (m.override n).map f = (m.map f).override (n.map f) := by
  apply ext_get?
  intro k
  rw [get?_map, get?_override, get?_override, get?_map, get?_map, Option.map_or]

end Shorthand.SortedMap
