import Shorthand.Number.Floating
set_option autoImplicit false

namespace Shorthand

structure FormatField where
  isLeft : Bool := false
  showsPlus : Bool := false
  showsBlank : Bool := false
  /-- Whether the base of a number is shown, or its point in any case. -/
  isAlternate : Bool := false
  isZeroPadded : Bool := false
  width : Nat := 0
  precision : Option Nat := none
  deriving DecidableEq, Repr

namespace FormatField

def mark (c : Char) (f : FormatField) : FormatField :=
  match c with
  | '-' => { f with isLeft := true }
  | '+' => { f with showsPlus := true }
  | ' ' => { f with showsBlank := true }
  | '#' => { f with isAlternate := true }
  | '0' => { f with isZeroPadded := true }
  | _ => f

def withWidth (n : Int) (f : FormatField) : FormatField :=
  if n < 0 then { f with isLeft := true, width := n.natAbs } else { f with width := n.toNat }

def withPrecision (n : Int) (f : FormatField) : FormatField :=
  { f with precision := if n < 0 then none else some n.toNat }

def described (f : FormatField) : List Char :=
  '%' :: (if f.isAlternate then ['#'] else []) ++
    (if f.showsPlus then ['+'] else if f.showsBlank then [' '] else []) ++
    (if f.isLeft then ['-'] else if f.isZeroPadded then ['0'] else []) ++
    (if f.width = 0 then [] else Nat.toDigits 10 f.width) ++
    (f.precision.elim [] fun n => '.' :: Nat.toDigits 10 n)

/-- The least width or precision that is refused: the characters of such a field could not be
counted. -/
def limit : Nat := Nat.pow 2 31 - 33

def isTooLarge (f : FormatField) : Bool := limit ≤ f.width || f.precision.any (limit ≤ ·)

def fill (f : FormatField) (s : List Char) : List Char :=
  let gap := List.replicate (f.width - s.length) ' '
  if f.isLeft then s ++ gap else gap ++ s

def text (f : FormatField) (s : List Char) : List Char := f.fill (f.precision.elim s s.take)

def joined (f : FormatField) (fillsZeros : Bool) (start digits : List Char) : List Char :=
  let gap := f.width - start.length - digits.length
  let zeros := if fillsZeros && f.isZeroPadded && !f.isLeft then gap else 0
  f.fill (start ++ List.replicate zeros '0' ++ digits)

def sign (f : FormatField) (isNegative : Bool) : List Char :=
  if isNegative then ['-'] else if f.showsPlus then ['+'] else if f.showsBlank then [' '] else []

def integerDigits (f : FormatField) (base n : Nat) : List Char :=
  let digits := if n = 0 && f.precision = some 0 then [] else Nat.toDigits base n
  Digits.padded (f.precision.getD 1) digits

def signed (f : FormatField) (n : Int) : List Char :=
  f.joined f.precision.isNone (f.sign (n < 0)) (f.integerDigits 10 n.natAbs)

def unsigned (f : FormatField) (base : Nat) (isUpper : Bool) (n : Nat) : List Char :=
  let digits := f.integerDigits base n
  let digits := if isUpper then digits.map Char.toUpper else digits
  let digits :=
    if base = 8 && f.isAlternate && digits.head? ≠ some '0' then '0' :: digits else digits
  let start :=
    if base = 16 && f.isAlternate && n ≠ 0 then ['0', if isUpper then 'X' else 'x'] else []
  f.joined f.precision.isNone start digits

def floating (f : FormatField) (size : FloatSize) (letter : Char) (x : Float_) : List Char :=
  let isUpper := letter.isUpper
  let raised (s : List Char) : List Char := if isUpper then s.map Char.toUpper else s
  match x with
  | .infinite isNegative => f.fill (f.sign isNegative ++ raised "inf".toList)
  | .nan isNegative => f.fill (f.sign isNegative ++ raised "nan".toList)
  | .finite isNegative m e =>
    let num := m * Nat.pow 2 e.toNat
    let den := Nat.pow 2 (-e).toNat
    let precision := f.precision.getD 6
    match letter.toLower with
    | 'a' =>
      let digits := (Digits.hexadecimal size f.precision m e).text 'p' 1 f.isAlternate
      f.joined true (f.sign isNegative ++ raised ['0', 'x']) (raised digits)
    | 'e' =>
      f.joined true (f.sign isNegative)
        (raised ((Digits.scientific precision num den).text 'e' 2 f.isAlternate))
    | 'g' =>
      f.joined true (f.sign isNegative)
        (raised ((Digits.short precision num den f.isAlternate).text 'e' 2 f.isAlternate))
    | _ =>
      f.joined true (f.sign isNegative) ((Digits.plain precision num den).text 'e' 2 f.isAlternate)

end FormatField

end Shorthand
