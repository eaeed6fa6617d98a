import Shorthand.Number.Binary64
/-!
Binary floating-point numbers of several sizes as programs read and print them: the number nearest
to a text, a tie to the even significand, and the decimal or hexadecimal digits nearest to a number,
with the same rule.
-/
set_option autoImplicit false

namespace Shorthand

structure FloatSize where
  bits : Nat
  least : Int
  greatest : Int
  leading : Nat
  deriving DecidableEq, Repr

inductive Float_ where
  | finite (isNegative : Bool) (significand : Nat) (exponent : Int)
  | infinite (isNegative : Bool)
  | nan (isNegative : Bool)
  deriving DecidableEq, Repr

namespace FloatSize

def double : FloatSize := ⟨53, -1074, 971, 1⟩
def extended : FloatSize := ⟨64, -16445, 16320, 4⟩

def nearest (size : FloatSize) (isNegative : Bool) (num den : Nat) : Float_ × Bool :=
  if num = 0 then (.finite isNegative 0 size.least, false)
  else
    let guess := max (Int.ofNat num.log2 - Int.ofNat den.log2 - size.bits) size.least
    let top := Nat.pow 2 size.bits
    let e := if Binary64.scaledNearest num den guess < top then guess else guess + 1
    let m := Binary64.scaledNearest num den e
    let (m, e) := if m = top then (top / 2, e + 1) else (m, e)
    if size.greatest < e then (.infinite isNegative, true)
    else
      let isExact := m * Nat.pow 2 e.toNat * den = num * Nat.pow 2 (-e).toNat
      (.finite isNegative m e, m < top / 2 && !isExact)

end FloatSize

structure FloatText where
  value : Float_
  isOutOfRange : Bool := false
  /-- What stands behind it; the whole text if there is no number. -/
  rest : List Char
  isMissing : Bool := false
  deriving DecidableEq, Repr

namespace FloatText

def isBlank (c : Char) : Bool := c = ' ' || ('\t' ≤ c && c ≤ '\r')

def isHexDigit (c : Char) : Bool := c.isDigit || ('a' ≤ c.toLower && c.toLower ≤ 'f')

def digit (c : Char) : Nat := if c.isDigit then c.toNat - 48 else c.toLower.toNat - 87

def number (base : Nat) (digits : List Char) : Nat := digits.foldl (fun n c => n * base + digit c) 0

def begins (word : String) (s : List Char) : Bool :=
  (s.take word.length).map Char.toLower = word.toList

def digits (isDigit : Char → Bool) (s : List Char) : List Char × List Char × List Char :=
  let whole := s.takeWhile isDigit
  match s.drop whole.length with
  | '.' :: r =>
    let part := r.takeWhile isDigit
    if whole.isEmpty && part.isEmpty then ([], [], s) else (whole, part, r.drop part.length)
  | r => (whole, [], r)

def exponent (letter : Char) (s : List Char) : Int × List Char :=
  match s with
  | c :: r =>
    if c.toLower ≠ letter then (0, s)
    else
      let (isNegative, r) := match r with
        | '-' :: r => (true, r)
        | '+' :: r => (false, r)
        | r => (false, r)
      let ds := r.takeWhile Char.isDigit
      if ds.isEmpty then (0, s)
      else
        let n := min (number 10 ds) 100000
        (if isNegative then -(n : Int) else n, r.drop ds.length)
  | [] => (0, s)

def scaled (size : FloatSize) (isNegative : Bool) (digits : Nat) (base : Nat) (exponent : Int) :
    Float_ × Bool :=
  if digits = 0 then (.finite isNegative 0 size.least, false)
  else if 40000 < exponent + Int.ofNat digits.log2 then (.infinite isNegative, true)
  else if exponent + Int.ofNat digits.log2 < -40000 then (.finite isNegative 0 size.least, true)
  else
    size.nearest isNegative (digits * Nat.pow base exponent.toNat) (Nat.pow base (-exponent).toNat)

def magnitude (size : FloatSize) (isNegative : Bool) (whole : List Char) (s : List Char) :
    FloatText :=
  if begins "infinity" s then { value := .infinite isNegative, rest := s.drop 8 }
  else if begins "inf" s then { value := .infinite isNegative, rest := s.drop 3 }
  else if begins "nan" s then
    let r := s.drop 3
    let rest := match r with
      | '(' :: t =>
        let t := t.dropWhile fun c => c.isAlphanum || c = '_'
        if t.head? = some ')' then t.tail else r
      | _ => r
    { value := .nan isNegative, rest }
  else
    let (h, hp, hr) := digits isHexDigit (s.drop 2)
    if begins "0x" s && !(h.isEmpty && hp.isEmpty) then
      let (e, rest) := exponent 'p' hr
      let (value, isOutOfRange) :=
        scaled size isNegative (number 16 (h ++ hp)) 2 (e - 4 * hp.length)
      { value, isOutOfRange, rest }
    else
      let (w, p, r) := digits Char.isDigit s
      if w.isEmpty && p.isEmpty then
        { value := .finite false 0 size.least, rest := whole, isMissing := true }
      else
        let (e, rest) := exponent 'e' r
        let (value, isOutOfRange) := scaled size isNegative (number 10 (w ++ p)) 10 (e - p.length)
        { value, isOutOfRange, rest }

def read (size : FloatSize) (s : List Char) : FloatText :=
  match s.dropWhile isBlank with
  | '-' :: r => magnitude size true s r
  | '+' :: r => magnitude size false s r
  | r => magnitude size false s r

end FloatText

structure Digits where
  whole : List Char
  part : List Char := []
  exponent : Option Int := none
  deriving DecidableEq, Repr

namespace Digits

def padded (count : Nat) (s : List Char) : List Char := List.replicate (count - s.length) '0' ++ s

def ofScaled (precision n : Nat) : Digits :=
  let s := padded (precision + 1) (Nat.toDigits 10 n)
  { whole := s.take (s.length - precision), part := s.drop (s.length - precision) }

def plain (precision num den : Nat) : Digits :=
  ofScaled precision (Binary64.divNearest (num * Nat.pow 10 precision) den)

def reaches (num den : Nat) (e : Int) : Bool :=
  den * Nat.pow 10 e.toNat ≤ num * Nat.pow 10 (-e).toNat

/-- The exponent of the greatest power of ten that a ratio reaches. The count bounds the steps from
a guess that is not too small. -/
def decimalExponent (num den : Nat) : Nat → Int → Int
  | 0, e => e
  | n + 1, e => if reaches num den e then e else decimalExponent num den n (e - 1)

def scientific (precision num den : Nat) : Digits :=
  if num = 0 then { whole := ['0'], part := List.replicate precision '0', exponent := some 0 }
  else
    let guess := (Int.ofNat num.log2 - Int.ofNat den.log2 + 1) * 30103 / 100000 + 1
    let e := decimalExponent num den 5 guess
    let n := Binary64.divNearest (num * Nat.pow 10 (precision - e).toNat)
      (den * Nat.pow 10 (e - precision).toNat)
    let (n, e) := if Nat.pow 10 (precision + 1) ≤ n then (n / 10, e + 1) else (n, e)
    { ofScaled precision n with exponent := some e }

def stripped (d : Digits) : Digits :=
  { d with part := (d.part.reverse.dropWhile (· = '0')).reverse }

def short (precision num den : Nat) (keepsZeros : Bool) : Digits :=
  let p := max precision 1
  let d := scientific (p - 1) num den
  let x := d.exponent.getD 0
  let d := if -4 ≤ x && x < p then plain (p - 1 - x).toNat num den else d
  if keepsZeros then d else d.stripped

def hexadecimal (size : FloatSize) (precision : Option Nat) (m : Nat) (e : Int) : Digits :=
  let bits := size.bits - size.leading
  let count := (bits + 3) / 4
  if m = 0 then
    { whole := ['0'], part := List.replicate (precision.getD 0) '0', exponent := some 0 }
  else
    let m := m * Nat.pow 2 (4 * count - bits)
    let e := e + bits
    let all (count m : Nat) : List Char × List Char :=
      let s := padded (count + 1) (Nat.toDigits 16 m)
      (s.take (s.length - count), s.drop (s.length - count))
    match precision with
    | none =>
      let (whole, part) := all count m
      { whole, part := (part.reverse.dropWhile (· = '0')).reverse, exponent := some e }
    | some p =>
      if count ≤ p then
        let (whole, part) := all count m
        { whole, part := part ++ List.replicate (p - count) '0', exponent := some e }
      else
        let n := Binary64.divNearest m (Nat.pow 16 (count - p))
        let (n, e) := if size.leading ≠ 1 && Nat.pow 16 (p + 1) ≤ n then (n / 16, e + 4) else (n, e)
        let (whole, part) := all p n
        { whole, part, exponent := some e }

def text (letter : Char) (leastExponent : Nat) (keepsPoint : Bool) (d : Digits) : List Char :=
  let point := if d.part.isEmpty && !keepsPoint then [] else ['.']
  d.whole ++ point ++ d.part ++ match d.exponent with
    | none => []
    | some e =>
      letter :: (if e < 0 then '-' else '+') :: padded leastExponent (Nat.toDigits 10 e.natAbs)

end Digits

end Shorthand
