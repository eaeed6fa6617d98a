import Shorthand.Number.Shortest
set_option autoImplicit false

namespace Shorthand.Json

inductive Number where
  | natural (n : Nat)
  | negative (n : Nat)
  | float (x : Binary64)
  deriving DecidableEq, Repr

inductive Value where
  | null
  | bool (b : Bool)
  | number (n : Number)
  | string (s : String)
  | list (items : List Value)
  | object (entries : List (String × Value))
  deriving Repr

namespace Value

instance : Inhabited Value := ⟨null⟩

mutual

def decEq : (a b : Value) → Decidable (a = b)
  | null, null => isTrue rfl
  | bool a, bool b => decidable_of_iff (a = b) (by simp)
  | number a, number b => decidable_of_iff (a = b) (by simp)
  | string a, string b => decidable_of_iff (a = b) (by simp)
  | list a, list b => have := decEqItems a b; decidable_of_iff (a = b) (by simp)
  | object a, object b => have := decEqEntries a b; decidable_of_iff (a = b) (by simp)
  | null, bool _ | null, number _ | null, string _ | null, list _ | null, object _
  | bool _, null | bool _, number _ | bool _, string _ | bool _, list _ | bool _, object _
  | number _, null | number _, bool _ | number _, string _ | number _, list _ | number _, object _
  | string _, null | string _, bool _ | string _, number _ | string _, list _ | string _, object _
  | list _, null | list _, bool _ | list _, number _ | list _, string _ | list _, object _
  | object _, null | object _, bool _ | object _, number _ | object _,
      string _ | object _, list _ =>
    isFalse (by simp)

def decEqItems : (a b : List Value) → Decidable (a = b)
  | [], [] => isTrue rfl
  | a :: r, b :: s =>
    have := decEq a b
    have := decEqItems r s
    decidable_of_iff (a = b ∧ r = s) (by simp)
  | [], _ :: _ | _ :: _, [] => isFalse (by simp)

def decEqEntries : (a b : List (String × Value)) → Decidable (a = b)
  | [], [] => isTrue rfl
  | (k, a) :: r, (l, b) :: s =>
    have := decEq a b
    have := decEqEntries r s
    decidable_of_iff (k = l ∧ a = b ∧ r = s) (by simp [and_assoc])
  | [], _ :: _ | _ :: _, [] => isFalse (by simp)

end

instance : DecidableEq Value := decEq

end Value

/-- An entry at the end, unless its key is there already: then the value takes the place of the old
one. -/
def putEntry {α : Type} (k : String) (v : α) : List (String × α) → List (String × α)
  | [] => [(k, v)]
  | e :: r => if e.1 = k then (k, v) :: r else e :: putEntry k v r

mutual

/-- The value with every key once in each object, at its first place and with its last value. -/
def Value.merged : Value → Value
  | .list items => .list (mergedItems items)
  | .object entries => .object (mergedEntries [] entries)
  | v => v

def mergedItems : List Value → List Value
  | [] => []
  | v :: r => v.merged :: mergedItems r

def mergedEntries (done : List (String × Value)) : List (String × Value) → List (String × Value)
  | [] => done
  | e :: r => mergedEntries (putEntry e.1 e.2.merged done) r

end

end Shorthand.Json
