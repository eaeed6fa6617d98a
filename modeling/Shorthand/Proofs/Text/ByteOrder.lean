import Mathlib.Data.String.Basic
import Shorthand.Text.Bytes
set_option autoImplicit false

namespace Shorthand.Text

theorem byte_lt_iff {m n : Nat} (hm : m < 256) (hn : n < 256) :
    UInt8.ofNat m < UInt8.ofNat n ↔ m < n := by
  rw [UInt8.lt_iff_toNat_lt, UInt8.toNat_ofNat', UInt8.toNat_ofNat', Nat.mod_eq_of_lt hm,
    Nat.mod_eq_of_lt hn]

theorem byte_inj {m n : Nat} (hm : m < 256) (hn : n < 256) :
    UInt8.ofNat m = UInt8.ofNat n ↔ m = n := by
  rw [← UInt8.toNat_inj, UInt8.toNat_ofNat', UInt8.toNat_ofNat', Nat.mod_eq_of_lt hm,
    Nat.mod_eq_of_lt hn]

/-- A greater character has greater bytes, whatever follows. -/
theorem utf8EncodeChar_append_lt {c d : Char} (h : c < d) (x y : List UInt8) :
    String.utf8EncodeChar c ++ x < String.utf8EncodeChar d ++ y := by
  have hlt : c.val.toNat < d.val.toNat := h
  have hd : d.val.toNat < 1114112 := by
    rcases d.valid with hd | hd
    · exact Nat.lt_trans hd (by decide)
    · exact hd.2
  simp only [String.utf8EncodeChar]
  generalize c.val.toNat = m at *
  generalize d.val.toNat = n at *
  -- the digits of a code point to the base 64
  have hdigits (k : Nat) : k / 4096 = k / 64 / 64 ∧ k / 262144 = k / 64 / 64 / 64 := by omega
  simp only [hdigits]
  split_ifs <;>
    simp (disch := omega) only [List.cons_append, List.nil_append, List.cons_lt_cons_iff,
      byte_lt_iff, byte_inj] <;>
    omega

theorem toBytes_lt_of_lt {s t : String} (h : s < t) : toBytes s < toBytes t := by
  rw [String.lt_iff_toList_lt] at h
  simp only [toBytes]
  generalize s.toList = a at h
  generalize t.toList = b at h
  induction h with
  | @nil c b =>
    rw [List.flatMap_cons]
    obtain ⟨byte, bytes, hbytes⟩ :=
      List.exists_cons_of_ne_nil (String.utf8EncodeChar_ne_nil (c := c))
    rw [hbytes]
    exact .nil
  | rel hlt => exact utf8EncodeChar_append_lt hlt _ _
  | cons _ ih => exact List.append_left_lt ih

theorem toBytes_lt_iff {s t : String} : toBytes s < toBytes t ↔ s < t := by
  refine ⟨fun h => ?_, toBytes_lt_of_lt⟩
  by_contra hle
  rcases Std.le_iff_lt_or_eq.1 (String.not_lt.1 hle) with hlt | rfl
  · exact List.lt_asymm h (toBytes_lt_of_lt hlt)
  · exact List.lt_irrefl _ h

end Shorthand.Text
