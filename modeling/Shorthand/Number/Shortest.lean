import Shorthand.Number.Binary64
set_option autoImplicit false

namespace Shorthand.Binary64

structure Decimal where
  digits : Nat
  exponent : Int
  deriving DecidableEq, Repr

/-- The decimals of one grid next to a number. A candidate `c` is compared in quarters of the
number's last place: `quarters c` stands to `4 · significand` as the candidate stands to the
number. -/
structure Grid where
  exponent : Int
  candidateUnit : Nat
  quarterUnit : Nat

def gridAt (x : Binary64) (exponent : Int) : Grid where
  exponent := exponent
  candidateUnit := Nat.pow 10 exponent.toNat * Nat.pow 2 (-x.exponent).toNat * 4
  quarterUnit := Nat.pow 10 (-exponent).toNat * Nat.pow 2 x.exponent.toNat

/-- Whether the decimal `c · 10 ^ exponent` is rounded to the number. The bounds themselves are iff
the significand is even. -/
def readsBack (x : Binary64) (g : Grid) (c : Nat) : Bool :=
  let below := if x.significand = Nat.pow 2 52 ∧ -1074 < x.exponent then 1 else 2
  let low := (4 * x.significand - below) * g.quarterUnit
  let high := (4 * x.significand + 2) * g.quarterUnit
  let c := c * g.candidateUnit
  if x.significand % 2 = 0 then low ≤ c && c ≤ high else low < c && c < high

def neighbour? (x : Binary64) (g : Grid) : Option Nat :=
  let value := 4 * x.significand * g.quarterUnit
  let low := value / g.candidateUnit
  let toLow := value - low * g.candidateUnit
  let toHigh := (low + 1) * g.candidateUnit - value
  match x.readsBack g low, x.readsBack g (low + 1) with
  | false, false => none
  | true, false => some low
  | false, true => some (low + 1)
  | true, true => some (if toLow < toHigh ∨ (toLow = toHigh ∧ low % 2 = 0) then low else low + 1)

def magnitude (x : Binary64) : Int :=
  Int.ofNat (Nat.toDigits 10 (x.ratio.1 * Nat.pow 10 400 / x.ratio.2)).length - 400

def Decimal.strip : Nat → Decimal → Decimal
  | 0, d => d
  | n + 1, d => if d.digits % 10 = 0 then strip n ⟨d.digits / 10, d.exponent + 1⟩ else d

def shortestFrom (x : Binary64) : Nat → Nat → Decimal
  | 0, n => ⟨x.ratio.1 * Nat.pow 10 n / x.ratio.2, -Int.ofNat n⟩
  | fuel + 1, n =>
    let g := x.gridAt (x.magnitude - Int.ofNat n)
    match x.neighbour? g with
    | some c => Decimal.strip 20 ⟨c, g.exponent⟩
    | none => shortestFrom x fuel (n + 1)

def shortest (x : Binary64) : Decimal := x.shortestFrom 17 1

/-- Positional from 1e-5 up to below 1e16, always with a point; otherwise one digit before the point
and a signed exponent. -/
def Decimal.write (d : Decimal) : List Char :=
  let ds := Nat.toDigits 10 d.digits
  let point := Int.ofNat ds.length + d.exponent
  let scale := point - 1
  if -5 ≤ scale ∧ scale ≤ 15 then
    if 0 ≤ d.exponent then ds ++ List.replicate d.exponent.toNat '0' ++ ['.', '0']
    else if 0 < point then ds.take point.toNat ++ '.' :: ds.drop point.toNat
    else '0' :: '.' :: List.replicate (-point).toNat '0' ++ ds
  else
    let mantissa := match ds with
      | [] => []
      | [c] => [c]
      | c :: r => c :: '.' :: r
    let sign := if scale < 0 then '-' else '+'
    mantissa ++ 'e' :: sign :: Nat.toDigits 10 scale.natAbs

def write (x : Binary64) : List Char :=
  let text := if x.isZero then ['0', '.', '0'] else x.shortest.write
  if x.isNegative then '-' :: text else text

end Shorthand.Binary64
