import Shorthand.Json.Printer
set_option autoImplicit false

namespace Shorthand

def Visible (cs : List Char) : Prop := ∀ c ∈ cs, 0x20 ≤ c.toNat

instance (cs : List Char) : Decidable (Visible cs) :=
  List.decidableBAll (fun c : Char => 0x20 ≤ c.toNat) cs

namespace Visible

theorem nil : Visible [] := by simp [Visible]

theorem cons {c : Char} {cs : List Char} (hc : 0x20 ≤ c.toNat) (h : Visible cs) :
    Visible (c :: cs) :=
  List.forall_mem_cons.2 ⟨hc, h⟩

theorem append {a b : List Char} (ha : Visible a) (hb : Visible b) : Visible (a ++ b) :=
  List.forall_mem_append.2 ⟨ha, hb⟩

theorem subset {a b : List Char} (h : a ⊆ b) (hb : Visible b) : Visible a := fun c hc => hb c (h hc)

theorem replicate (n : Nat) {c : Char} (hc : 0x20 ≤ c.toNat) : Visible (List.replicate n c) :=
  fun d hd => by
  rw [List.eq_of_mem_replicate hd]
  exact hc

theorem toDigits (n : Nat) : Visible (Nat.toDigits 10 n) := fun c hc => by
  have hdigit := Nat.isDigit_of_mem_toDigits (by decide) (by decide) hc
  simp only [Char.isDigit, Bool.and_eq_true, decide_eq_true_eq] at hdigit
  exact Nat.le_trans (by decide) (UInt32.le_iff_toNat_le.1 hdigit.1)

end Visible

namespace Binary64

theorem Decimal.visible_write (d : Decimal) : Visible d.write := by
  have hds := Visible.toDigits d.digits
  have htail (scale : Int) (sign : Char) (hsign : 0x20 ≤ sign.toNat) :
      Visible ('e' :: sign :: Nat.toDigits 10 scale.natAbs) :=
    .cons (by decide) (.cons hsign (.toDigits _))
  rw [Decimal.write]
  generalize Nat.toDigits 10 d.digits = ds at hds ⊢
  dsimp only
  split
  · split
    · exact .append (.append hds (.replicate _ (by decide))) (by decide)
    · split
      · exact .append (.subset (List.take_subset _ _) hds)
          (.cons (by decide) (.subset (List.drop_subset _ _) hds))
      · exact .append (.cons (by decide) (.cons (by decide) (.replicate _ (by decide)))) hds
  · refine .append ?_ (htail _ _ (by split <;> decide))
    split
    · exact .nil
    · exact hds
    · exact .cons (hds _ (by simp)) (.cons (by decide) fun c hc => hds c (by simp [hc]))

theorem visible_write (x : Binary64) : Visible x.write := by
  have htext : Visible (if x.isZero then ['0', '.', '0'] else x.shortest.write) := by
    split
    · decide
    · exact x.shortest.visible_write
  rw [write]
  split
  · exact .cons (by decide) htext
  · exact htext

end Binary64

namespace Json

theorem visible_hexDigit (n : Nat) : 0x20 ≤ (hexDigit n).toNat := by
  have hall : ∀ m < 16, 0x20 ≤ (Nat.digitChar m).toNat := by decide
  exact hall (n % 16) (Nat.mod_lt n (by decide))

theorem visible_escaped (c : Char) : Visible (escaped c) := by
  unfold escaped
  iterate 7
    split
    · decide
  split
  · exact .append (by decide : Visible ['\\', 'u', '0', '0'])
      (.cons (visible_hexDigit _) (.cons (visible_hexDigit _) .nil))
  · exact .cons (by omega) .nil

theorem visible_writeString (s : String) : Visible (writeString s) := by
  have hbody : Visible (s.toList.flatMap escaped) := fun c hc => by
    obtain ⟨d, -, hd⟩ := List.mem_flatMap.1 hc
    exact visible_escaped d c hd
  exact .append (.cons (by decide) hbody) (by decide)

theorem Number.visible_write (n : Number) : Visible n.write := by
  cases n with
  | natural n => exact .toDigits n
  | negative n => exact .cons (by decide) (.toDigits n)
  | float x => exact x.visible_write

theorem visible_commas {parts : List (List Char)} (h : ∀ part ∈ parts, Visible part) :
    Visible (commas parts) :=
  commas_induction .nil (fun ha hb => ha.append (.cons (by decide) hb)) h

mutual

theorem Value.visible_write : ∀ v : Value, Visible v.write
  | .null => by decide
  | .bool true => by decide
  | .bool false => by decide
  | .number n => n.visible_write
  | .string s => visible_writeString s
  | .list items =>
    .append (.cons (by decide) (visible_commas (visible_writtenItems items))) (by decide)
  | .object entries => by
    refine .append (.cons (by decide) (visible_commas fun part hpart => ?_)) (by decide)
    obtain ⟨e, he, rfl⟩ := List.mem_map.1 hpart
    exact .append (visible_writeString e.1)
      (.cons (by decide) (visible_writtenEntries entries e he))

theorem visible_writtenItems : ∀ (items : List Value), ∀ part ∈ writtenItems items, Visible part
  | [] => by simp [writtenItems]
  | v :: r => List.forall_mem_cons.2 ⟨v.visible_write, visible_writtenItems r⟩

theorem visible_writtenEntries :
    ∀ (entries : List (String × Value)), ∀ e ∈ writtenEntries entries, Visible e.2
  | [] => by simp [writtenEntries]
  | (_, v) :: r => List.forall_mem_cons.2 ⟨v.visible_write, visible_writtenEntries r⟩

end

end Json

end Shorthand
