set_option autoImplicit false

namespace Shorthand

/-- The number ± significand · 2 ^ exponent. The significand lies below 2 ^ 53, and at or above 2 ^
52 unless the exponent is the least one, -1074. -/
structure Binary64 where
  isNegative : Bool
  significand : Nat
  exponent : Int
  deriving DecidableEq, Repr

namespace Binary64

def divNearest (num den : Nat) : Nat :=
  let q := num / den
  let r := 2 * (num % den)
  if r < den ∨ (r = den ∧ q % 2 = 0) then q else q + 1

def scaledNearest (num den : Nat) (e : Int) : Nat :=
  divNearest (num * Nat.pow 2 (-e).toNat) (den * Nat.pow 2 e.toNat)

def ofRatio (isNegative : Bool) (num den : Nat) : Option Binary64 :=
  if num = 0 then some ⟨isNegative, 0, -1074⟩
  else
    let guess := max (Int.ofNat num.log2 - Int.ofNat den.log2 - 53) (-1074)
    let e := if scaledNearest num den guess < Nat.pow 2 53 then guess else guess + 1
    let m := scaledNearest num den e
    let (m, e) := if m = Nat.pow 2 53 then (Nat.pow 2 52, e + 1) else (m, e)
    if 971 < e then none else some ⟨isNegative, m, e⟩

def ratio (x : Binary64) : Nat × Nat :=
  (x.significand * Nat.pow 2 x.exponent.toNat, Nat.pow 2 (-x.exponent).toNat)

def isZero (x : Binary64) : Bool := x.significand = 0

def ofNat (n : Nat) : Option Binary64 := ofRatio false n 1

def mul (x y : Binary64) : Option Binary64 :=
  ofRatio (x.isNegative ^^ y.isNegative) (x.ratio.1 * y.ratio.1) (x.ratio.2 * y.ratio.2)

def div (x y : Binary64) : Option Binary64 :=
  ofRatio (x.isNegative ^^ y.isNegative) (x.ratio.1 * y.ratio.2) (x.ratio.2 * y.ratio.1)

def neg (x : Binary64) : Binary64 := { x with isNegative := !x.isNegative }

def powerOfTen (n : Nat) : Option Binary64 := ofNat (Nat.pow 10 n)

def shiftDown (x : Binary64) (n : Nat) : Option Binary64 :=
  if x.isZero then some x
  else if h : n ≤ 308 then (powerOfTen n).bind x.div
  else ((powerOfTen 308).bind x.div).bind fun y => shiftDown y (n - 308)
  termination_by n
  decreasing_by omega

/-- `digits · 10 ^ exponent`, rounded once for the digits and once more for each power of ten;
beyond `10 ^ 308` there is none. -/
def ofDecimal (digits : Nat) (exponent : Int) : Option Binary64 := do
  let x ← ofNat digits
  if exponent < 0 then x.shiftDown exponent.natAbs
  else if exponent ≤ 308 then x.mul (← powerOfTen exponent.toNat)
  else if x.isZero then some x
  else none

end Binary64

end Shorthand
