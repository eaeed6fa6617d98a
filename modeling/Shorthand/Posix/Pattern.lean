set_option autoImplicit false

namespace Shorthand.Posix

structure Letter where
  isQuoted : Bool
  char : Char
  deriving DecidableEq, Repr

inductive Member where
  | range (first last : Char)
  | kind (name : String)
  deriving DecidableEq, Repr

inductive Atom where
  | anything
  | anyChar
  | set (isNegated : Bool) (members : List Member)
  | char (c : Char)
  deriving DecidableEq, Repr

def isPunctuation (c : Char) : Bool := '!' ≤ c && c ≤ '~' && !c.isAlphanum

def characterKinds : List (String × (Char → Bool)) :=
  [("alnum", Char.isAlphanum), ("alpha", Char.isAlpha), ("blank", fun c => c = ' ' || c = '\t'),
    ("cntrl", fun c => c.toNat < 32 || c.toNat = 127),
      ("digit", Char.isDigit), ("graph", fun c => '!' ≤ c && c ≤ '~'),
    ("lower", Char.isLower), ("print", fun c => ' ' ≤ c && c ≤ '~'), ("punct", isPunctuation),
    ("space", fun c => c = ' ' || ('\t' ≤ c && c ≤ '\r')), ("upper", Char.isUpper),
    ("xdigit", fun c => c.isDigit || ('a' ≤ c && c ≤ 'f') || ('A' ≤ c && c ≤ 'F'))]

def Member.accepts (c : Char) : Member → Bool
  | range first last => first ≤ c && c ≤ last
  | kind name => (characterKinds.find? (·.1 = name)).any (·.2 c)

def Atom.accepts (c : Char) : Atom → Bool
  | anything | anyChar => true
  | set isNegated members => (members.any (Member.accepts c)) != isNegated
  | char d => c = d

namespace Pattern

def kind? (s : List Letter) : Option (String × List Letter) :=
  let name := (s.takeWhile (·.char ≠ ':')).map (·.char)
  match s.drop name.length with
  | ⟨_, ':'⟩ :: ⟨_, ']'⟩ :: r =>
    if characterKinds.any (·.1 = String.ofList name) then some (.ofList name, r) else none
  | _ => none

def members (isFirst : Bool) : Nat → List Letter → Option (List Member × List Letter)
  | 0, _ | _, [] => none
  | n + 1, c :: r =>
    if c = ⟨false, ']'⟩ && !isFirst then some ([], r)
    else
      let kind := match c, r with
        | ⟨false, '['⟩, ⟨false, ':'⟩ :: r => kind? r
        | _, _ => none
      match kind, r with
      | some (name, r), _ => (members false n r).map fun p => (.kind name :: p.1, p.2)
      | none, ⟨false, '-'⟩ :: last :: r' =>
        if last = ⟨false, ']'⟩ then
          (members false n r).map fun p => (.range c.char c.char :: p.1, p.2)
        else (members false n r').map fun p => (.range c.char last.char :: p.1, p.2)
      | none, _ => (members false n r).map fun p => (.range c.char c.char :: p.1, p.2)

def set? (s : List Letter) : Option (Atom × List Letter) :=
  let isNegated := s.head? = some ⟨false, '!'⟩
  (members true (s.length + 1) (if isNegated then s.tail else s)).map fun p =>
    (.set isNegated p.1, p.2)

def atomsFrom : Nat → List Letter → List Atom
  | 0, _ | _, [] => []
  | n + 1, c :: r =>
    match c with
    | ⟨false, '*'⟩ => .anything :: atomsFrom n r
    | ⟨false, '?'⟩ => .anyChar :: atomsFrom n r
    | ⟨false, '['⟩ =>
      match set? r with
      | some (atom, r) => atom :: atomsFrom n r
      | none => .char '[' :: atomsFrom n r
    | c => .char c.char :: atomsFrom n r

def unescaped : List Letter → List Letter
  | [] => []
  | ⟨false, '\\'⟩ :: c :: r => ⟨true, c.char⟩ :: unescaped r
  | c :: r => c :: unescaped r

def atoms (s : List Letter) : List Atom := atomsFrom s.length (unescaped s)

def fits : List Atom → List Char → Bool
  | [], s => s.isEmpty
  | .anything :: atoms, s => (List.range (s.length + 1)).any fun n => fits atoms (s.drop n)
  | _ :: _, [] => false
  | atom :: atoms, c :: s => atom.accepts c && fits atoms s

def matches_ (pattern : List Letter) (s : List Char) : Bool := fits (atoms pattern) s

def seen (s : List Char) : List Char := s.takeWhile (· ≠ '\x00')

def cutFromStart? (isAtEnd : Bool) (pattern : List Letter) (s : List Char) : Option Nat :=
  let s := seen s
  (List.range (s.length + 1)).find? fun n =>
    fits (atoms pattern) (if isAtEnd then s.drop n else s.take n)

/-- The same from the end of a text on. The parts are those of the text with its marks; but if its
first parameter has marks, they are those of this parameter without them, then those of the pattern
and of the whole text before it, and the places are counted from the end of the text all the
same. -/
def cutFromEnd? (isMarked : Char → Bool) (isAtEnd : Bool) (pattern : List Letter) (s : List Char) :
    Option Nat :=
  let marked := s.flatMap fun c => if isMarked c then ['\x81', c] else [c]
  let first := seen s
  let (before, row) :=
    if first.any isMarked then (marked ++ '\x00' :: pattern.map (·.char) ++ ['\x00'], first)
    else ([], marked)
  let fitsAt (place : Nat) : Bool :=
    if isAtEnd then fits (atoms pattern) (seen ((before ++ row).drop place))
    else if before.length ≤ place then
      fits (atoms pattern) (seen (row.take (place - before.length)))
    else fits (atoms (pattern.take (place - (marked.length + 1)))) row
  let length := (before ++ row).length
  ((List.range (min s.length length + 1)).find? fun n => fitsAt (length - n)).map (s.length - ·)

/-- A text without the shortest or the longest part at its start or end that fits. In a row of
several parameters a pattern does not see beyond one of them. -/
def trimmed (isMarked : Char → Bool) (isAtEnd isLongest : Bool) (pattern : List Letter)
    (s : List Char) : List Char :=
  match if isAtEnd = isLongest then cutFromStart? isAtEnd pattern s
      else cutFromEnd? isMarked isAtEnd pattern s with
  | some n => if isAtEnd then s.take n else s.drop n
  | none => s

end Pattern

end Shorthand.Posix
