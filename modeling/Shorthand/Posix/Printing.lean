import Shorthand.Number.FormatField
import Shorthand.Posix.Integer
set_option autoImplicit false

namespace Shorthand.Posix

namespace Printing

def letterEscape? (c : Char) : Option Char :=
  ([('a', 7), ('b', 8), ('e', 27), ('f', 12), ('n', 10), ('r', 13), ('t', 9), ('v', 11),
    ('\\', 92)].find?
    (·.1 = c)).map fun e => Char.ofNat e.2

def escape : List Char → Char × List Char
  | [] => ('\\', [])
  | c :: r =>
    if isOctal c then
      let digits := ((c :: r).take 3).takeWhile isOctal
      (Char.ofNat (inBase 8 digits % 256), (c :: r).drop digits.length)
    else
      match letterEscape? c with
      | some d => (d, r)
      | none => ('\\', c :: r)

def unescaped : Nat → List Char → List Char × Bool
  | 0, _ | _, [] => ([], true)
  | n + 1, '\\' :: r =>
    match r with
    | 'c' :: _ => ([], false)
    | _ =>
      let r := match r with
        | '0' :: d :: t => if isOctal d then d :: t else r
        | _ => r
      let (c, r) := escape r
      let (s, goesOn) := unescaped n r
      (c :: s, goesOn)
  | n + 1, c :: r =>
    let (s, goesOn) := unescaped n r
    (c :: s, goesOn)

def echoed : List String → List Char
  | "-n" :: args => go true args
  | args => go false args
where
  go (isOpen : Bool) : List String → List Char
    | [] => if isOpen then [] else ['\n']
    | arg :: rest =>
      let s := arg.toList
      let (text, goesOn) := unescaped s.length s
      if !goesOn then text
      else if rest.isEmpty then text ++ if isOpen then [] else ['\n']
      else text ++ ' ' :: go isOpen rest

structure Printed where
  text : List Char := []
  args : List String
  complaints : List String := []
  fault : Option String := none
  isOver : Bool := false
  deriving DecidableEq, Repr

namespace Printed

def put (p : Printed) (s : List Char) : Printed := { p with text := p.text ++ s }

def complain (p : Printed) (s : String) : Printed := { p with complaints := p.complaints ++ [s] }

def take (p : Printed) : Option String × Printed := (p.args.head?, { p with args := p.args.tail })

def check (p : Printed) (arg : String) (rest : List Char) (isInRange : Bool) : Printed :=
  if !rest.isEmpty then
    if rest = arg.toList then p.complain (arg ++ ": expected numeric value")
    else p.complain (arg ++ ": not completely converted")
  else if !isInRange then p.complain (arg ++ ": Numerical result out of range")
  else p

def quotedCharacter? (arg : String) : Option Nat :=
  match arg.toList with
  | '\'' :: r | '"' :: r => some ((r.head?.map Char.toNat).getD 0)
  | _ => none

def takeSigned (p : Printed) : Int × Printed :=
  match p.take with
  | (none, p) => (0, p)
  | (some arg, p) =>
    match quotedCharacter? arg with
    | some n => (n, p)
    | none =>
      let n := Numeral.read false arg.toList
      if n.isMissing then (0, p.check arg n.rest true)
        else (n.value, p.check arg n.rest n.isInRange)

def takeUnsigned (p : Printed) : Nat × Printed :=
  match p.take with
  | (none, p) => (0, p)
  | (some arg, p) =>
    match quotedCharacter? arg with
    | some n => (n, p)
    | none =>
      let n := Numeral.read false arg.toList
      if n.isMissing then (0, p.check arg n.rest true)
      else (n.unsignedValue, p.check arg n.rest n.isInUnsignedRange)

def takeFloat (p : Printed) : Float_ × Printed :=
  let zero := Float_.finite false 0 0
  match p.take with
  | (none, p) => (zero, p)
  | (some arg, p) =>
    match quotedCharacter? arg with
    | some n => ((FloatSize.double.nearest false n 1).1, p)
    | none =>
      let n := FloatText.read .double arg.toList
      (n.value, p.check arg n.rest !n.isOutOfRange)

/-- A width or a precision: a star that takes an argument, or digits. With it the text from a star
that stands behind digits on: such a star takes nothing and belongs nowhere. -/
def takeMeasure (p : Printed) (s : List Char) : Option Int × List Char × List Char × Printed :=
  match s with
  | '*' :: r =>
    let (n, p) := p.takeSigned
    (some (Int.bmod n (Nat.pow 2 32)), [], r, p)
  | s =>
    let digits := s.takeWhile Char.isDigit
    let stray := (s.drop digits.length).takeWhile fun c => c.isDigit || c = '*'
    (if digits.isEmpty then none else some (decimal digits), stray,
      s.drop (digits.length + stray.length), p)

/-- An argument in a field of a kind; none if there is no such kind. -/
def place (p : Printed) (f : FormatField) (kind : Char) : Option Printed :=
  match kind with
  | 'b' =>
    let (arg, p) := p.take
    let s := (arg.getD "").toList
    let (text, goesOn) := unescaped s.length s
    some { p.put (f.text text) with isOver := !goesOn }
  | 'c' =>
    let (arg, p) := p.take
    some (p.put (f.fill [((arg.getD "").toList.head?).getD '\x00']))
  | 's' =>
    let (arg, p) := p.take
    some (p.put (f.text (arg.getD "").toList))
  | 'd' | 'i' =>
    let (n, p) := p.takeSigned
    some (p.put (f.signed n))
  | _ =>
    match [('o', 8), ('u', 10), ('x', 16), ('X', 16)].find? (·.1 = kind) with
    | some (_, base) =>
      let (n, p) := p.takeUnsigned
      some (p.put (f.unsigned base (kind = 'X') n))
    | none =>
      if "aAeEfFgG".toList.contains kind then
        let (x, p) := p.takeFloat
        some (p.put (f.floating .double kind x))
      else none

def letterOf (kind : Char) : List Char :=
  if "dioux".toList.contains kind || kind = 'X' then ['l', kind] else if kind = 'b' then ['s']
    else [kind]

/-- A place behind its percent sign, with what follows it. A place with a stray star is printed as
it is written, but it uses up its argument; so does a field that is too large. -/
def conversion (p : Printed) (s : List Char) : Printed × List Char :=
  let isMark (c : Char) : Bool := "#-+ 0".toList.contains c
  let f := (s.takeWhile isMark).foldl (fun f c => FormatField.mark c f) ({} : FormatField)
  let (width, stray, behind, p) := p.takeMeasure (s.dropWhile isMark)
  let f := f.withWidth (width.getD 0)
  let (g, stray', r, p) := match behind with
    | '.' :: r =>
      let (n, stray, r, p) := p.takeMeasure r
      (f.withPrecision (n.getD 0), stray, r, p)
    | r => (f, [], r, p)
  match r with
  | [] => ({ p with fault := some "missing format character" }, [])
  | kind :: rest =>
    match p.place (if g.isTooLarge then {} else g) kind with
    | some q =>
      if f.isTooLarge || (stray.isEmpty && g.isTooLarge) then
        ({ q with text := p.text, fault := some "xvsnprintf failed" }, rest)
      else
        let literal :=
          if !stray.isEmpty then f.described ++ stray ++ behind.take (behind.length - r.length)
          else g.described ++ stray'
        (if stray.isEmpty && stray'.isEmpty then q
          else { q with text := p.text ++ literal ++ letterOf kind }, rest)
    | none =>
      let directive := String.ofList ('%' :: s.take (s.length - rest.length))
      ({ p with fault := some (directive ++ ": invalid directive") }, [])

def once : Nat → List Char → Printed → Printed
  | 0, _, p | _, [], p => p
  | n + 1, c :: r, p =>
    if p.isOver || p.fault.isSome then p
    else if c = '\\' then
      let (d, r) := escape r
      once n r (p.put [d])
    else if c ≠ '%' then
      let plain := r.takeWhile fun d => d ≠ '%' && d ≠ '\\'
      once n (r.drop plain.length) (p.put (c :: plain))
    else if r.head? = some '%' then once n r.tail (p.put ['%'])
    else
      let (p, r) := p.conversion r
      once n r p

def all (format : List Char) : Nat → Printed → Printed
  | 0, p => p
  | n + 1, p =>
    let q := once (format.length + 1) format p
    if q.isOver || q.fault.isSome || q.args.isEmpty || q.args.length = p.args.length then q
      else all format n q

end Printed

def formatted (format : String) (args : List String) : Printed :=
  Printed.all format.toList (args.length + 1) { args }

end Printing

end Shorthand.Posix
