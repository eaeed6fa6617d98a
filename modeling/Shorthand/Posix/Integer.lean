set_option autoImplicit false

namespace Shorthand.Posix

def isBlank (c : Char) : Bool := c = ' ' || ('\t' ≤ c && c ≤ '\r')

def isOctal (c : Char) : Bool := '0' ≤ c && c ≤ '7'

def isHexDigit (c : Char) : Bool := c.isDigit || ('a' ≤ c && c ≤ 'f') || ('A' ≤ c && c ≤ 'F')

def digitOf (c : Char) : Nat :=
  if c.isDigit then c.toNat - 48 else if c.toNat < 97 then c.toNat - 55 else c.toNat - 87

def inBase (base : Nat) (digits : List Char) : Nat :=
  digits.foldl (fun n c => n * base + digitOf c) 0

def decimal (digits : List Char) : Nat := inBase 10 digits

def takeSign : List Char → Bool × List Char
  | '-' :: r => (true, r)
  | '+' :: r => (false, r)
  | s => (false, s)

def signed (isNegative : Bool) (n : Nat) : Int := if isNegative then -(n : Int) else n

def leastInteger : Int := -(Nat.pow 2 63 : Nat)
def greatestInteger : Int := (Nat.pow 2 63 : Nat) - 1

def wrapped (n : Int) : Int := Int.bmod n (Nat.pow 2 64)

def unsignedOf (n : Int) : Nat := (n % (Nat.pow 2 64 : Nat)).toNat

structure Numeral where
  isNegative : Bool := false
  digits : List Char
  base : Nat := 10
  rest : List Char
  deriving DecidableEq, Repr

namespace Numeral

def ofDigits (s : List Char) : Numeral :=
  let split (base : Nat) (isDigit : Char → Bool) (s : List Char) : Numeral :=
    { digits := s.takeWhile isDigit, base, rest := s.dropWhile isDigit }
  match s with
  | '0' :: x :: d :: r =>
    if (x = 'x' || x = 'X') && isHexDigit d then split 16 isHexDigit (d :: r) else split 8 isOctal s
  | '0' :: _ => split 8 isOctal s
  | _ => split 10 Char.isDigit s

/-- The number at the start of a text; if there is none, the rest is the whole text. -/
def read (isDecimal : Bool) (s : List Char) : Numeral :=
  let (isNegative, r) := takeSign (s.dropWhile isBlank)
  let n := if isDecimal then { digits := r.takeWhile Char.isDigit,
                               rest := r.dropWhile Char.isDigit } else ofDigits r
  if n.digits.isEmpty then { n with rest := s } else { n with isNegative }

def isMissing (n : Numeral) : Bool := n.digits.isEmpty

def exact (n : Numeral) : Int := signed n.isNegative (inBase n.base n.digits)

def value (n : Numeral) : Int := max leastInteger (min greatestInteger n.exact)

def isInRange (n : Numeral) : Bool := n.value = n.exact

/-- The number as one without a sign; one below zero is counted from the end of 64 bits. -/
def unsignedValue (n : Numeral) : Nat :=
  if n.exact.natAbs < Nat.pow 2 64 then unsignedOf n.exact else Nat.pow 2 64 - 1

def isInUnsignedRange (n : Numeral) : Bool := n.exact.natAbs < Nat.pow 2 64

end Numeral

/-- An integer that is a whole text, between blanks; in the base that it names, an empty text is
zero. -/
def integer? (isDecimal : Bool) (s : String) : Option Int :=
  let n := Numeral.read isDecimal s.toList
  if !n.isInRange || (n.isMissing && isDecimal) || !n.rest.all isBlank then none else some n.value

def count? (s : String) : Option Nat :=
  (integer? true s).bind fun n => if 0 ≤ n && n < (Nat.pow 2 31 : Nat) then some n.toNat else none

end Shorthand.Posix
