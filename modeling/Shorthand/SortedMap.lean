/-!
Finite maps from texts, kept as a list of entries in the order of their keys. Texts are compared by
code points, which is also the order of their UTF-8 bytes.
-/
set_option autoImplicit false

namespace Shorthand

/-- Entries in strictly rising order of their keys, so that equal maps are equal values. -/
structure SortedMap (α : Type) where
  entries : List (String × α)
  rising : entries.Pairwise fun a b => a.1 < b.1

namespace SortedMap

variable {α β : Type}

instance [DecidableEq α] : DecidableEq (SortedMap α) := fun a b =>
  decidable_of_iff (a.entries = b.entries) (by cases a; cases b; simp)

def empty : SortedMap α := ⟨[], .nil⟩

instance : EmptyCollection (SortedMap α) := ⟨empty⟩
instance : Inhabited (SortedMap α) := ⟨empty⟩

def put (k : String) (v : α) : List (String × α) → List (String × α)
  | [] => [(k, v)]
  | e :: r =>
    if k < e.1 then (k, v) :: e :: r
    else if k = e.1 then (k, v) :: r
    else e :: put k v r

theorem mem_put {k : String} {v : α} {a : String × α} {l : List (String × α)}
    (h : a ∈ put k v l) : a = (k, v) ∨ a ∈ l := by
  induction l with
  | nil => simpa [put] using h
  | cons e r ih => grind [put]

theorem put_rising {k : String} {v : α} {l : List (String × α)}
    (h : l.Pairwise fun a b => a.1 < b.1) : (put k v l).Pairwise fun a b => a.1 < b.1 := by
  induction l with
  | nil => simp [put]
  | cons e r ih =>
    rw [List.pairwise_cons] at h
    rw [put]
    split
    · rename_i hk
      refine .cons (fun a ha => ?_) (.cons h.1 h.2)
      rcases List.mem_cons.1 ha with rfl | ha
      · exact hk
      · exact String.lt_trans hk (h.1 a ha)
    · split
      · rename_i _ hk; subst hk; exact .cons h.1 h.2
      · rename_i hlt hne
        refine .cons (fun a ha => ?_) (ih h.2)
        rcases mem_put ha with rfl | ha
        · exact Std.lt_of_le_of_ne (String.not_lt.1 hlt) (Ne.symm hne)
        · exact h.1 a ha

def insert (m : SortedMap α) (k : String) (v : α) : SortedMap α :=
  ⟨put k v m.entries, put_rising m.rising⟩

def ofList (l : List (String × α)) : SortedMap α := l.foldl (fun m e => m.insert e.1 e.2) ∅

def get? (m : SortedMap α) (k : String) : Option α := (m.entries.find? (·.1 = k)).map (·.2)

def contains (m : SortedMap α) (k : String) : Bool := m.entries.any (·.1 = k)

def erase (m : SortedMap α) (k : String) : SortedMap α :=
  ⟨m.entries.filter (·.1 ≠ k), m.rising.sublist List.filter_sublist⟩

def keys (m : SortedMap α) : List String := m.entries.map (·.1)

def values (m : SortedMap α) : List α := m.entries.map (·.2)

def isEmpty (m : SortedMap α) : Bool := m.entries.isEmpty

def map (f : α → β) (m : SortedMap α) : SortedMap β :=
  ⟨m.entries.map fun e => (e.1, f e.2), List.pairwise_map.2 m.rising⟩

def filterMap (f : α → Option β) (m : SortedMap α) : SortedMap β :=
  ⟨m.entries.filterMap fun e => (f e.2).map fun b => (e.1, b), by
    refine List.pairwise_filterMap.2 (m.rising.imp ?_)
    intro a b h a' ha b' hb
    obtain ⟨_, _, rfl⟩ := Option.map_eq_some_iff.1 ha
    obtain ⟨_, _, rfl⟩ := Option.map_eq_some_iff.1 hb
    exact h⟩

/-- All entries of the second map, and those of the first at keys that the second lacks. -/
def override (m n : SortedMap α) : SortedMap α := n.entries.foldl (fun m e => m.insert e.1 e.2) m

@[ext] theorem ext {m n : SortedMap α} (h : m.entries = n.entries) : m = n := by
  cases m; cases n; simpa using h

theorem find?_put (k k' : String) (v : α) (l : List (String × α)) :
    (put k v l).find? (·.1 = k') = if k = k' then some (k, v) else l.find? (·.1 = k') := by
  induction l with
  | nil => by_cases h : k = k' <;> simp [put, h]
  | cons e r ih =>
    rw [put]
    split
    · by_cases h : k = k' <;> simp [h]
    · split
      · rename_i _ h; subst h
        by_cases h : e.1 = k' <;> simp [h]
      · rename_i hne
        by_cases h : e.1 = k'
        · subst h; simp [hne]
        · simp [h, ih]

@[simp] theorem get?_insert (m : SortedMap α) (k k' : String) (v : α) :
    (m.insert k v).get? k' = if k = k' then some v else m.get? k' := by
  simp only [get?, insert, find?_put]; split <;> simp

theorem contains_eq_isSome_get? (m : SortedMap α) (k : String) :
    m.contains k = (m.get? k).isSome := by
  rw [contains, get?, Option.isSome_map, List.isSome_find?]

@[simp] theorem get?_empty (k : String) : (∅ : SortedMap α).get? k = none := rfl

end SortedMap

end Shorthand
