import Shorthand.Number.FormatField
import Shorthand.Posix.Integer
import Shorthand.Tool.Basic
set_option autoImplicit false

namespace Shorthand.Tool

open Work

namespace Printf

open Shorthand.Posix (Numeral isHexDigit isOctal inBase)

structure Progress where
  text : List Char := []
  args : List String
  messages : List String := []
  status : Nat := 0
  isOver : Bool := false
  hasGap : Bool := false
  isStrict : Bool := false
  deriving DecidableEq, Repr

namespace Progress

def put (p : Progress) (s : List Char) : Progress := { p with text := p.text ++ s }

def say (p : Progress) (message : String) : Progress :=
  { p with messages := p.messages ++ [message] }

/-- A complaint that makes the tool fail, but does not stop it. -/
def complain (p : Progress) (message : String) : Progress := { p.say message with status := 1 }

def abort (p : Progress) (message : String) : Progress := { p.complain message with isOver := true }

def take (p : Progress) : String × Progress := (p.args.headD "", { p with args := p.args.tail })

end Progress

def letters : List (Char × Nat) :=
  [('"', 34), ('\\', 92), ('a', 7), ('b', 8), ('e', 27), ('f', 12), ('n', 10), ('r', 13), ('t', 9),
    ('v', 11)]

def hexadecimal (isUpper : Bool) (width n : Nat) : String :=
  let digits := Nat.toDigits 16 n
  .ofList (Digits.padded width (if isUpper then digits.map Char.toUpper else digits))

def universal (n : Nat) : List Char :=
  if n < 128 then [Char.ofNat n]
  else if n < 65536 then '\\' :: 'u' :: (hexadecimal true 4 n).toList
  else '\\' :: 'U' :: (hexadecimal true 8 n).toList

/-- Whether a number may not stand for a character: all of ASCII and the controls behind it, apart
from the dollar sign, the at sign and the grave accent, and the halves of pairs. -/
def isBarred (n : Nat) : Bool := (n < 160 && !([36, 64, 96].contains n)) || (55296 ≤ n && n ≤ 57343)

/-- What an escape does behind its backslash, and what follows it. In an argument a zero may stand
before the three digits of a number. -/
def escape (isArgument : Bool) (p : Progress) : List Char → Progress × List Char
  | [] => (p.put ['\\'], [])
  | c :: r =>
    if c = 'x' then
      let digits := (r.take 2).takeWhile isHexDigit
      if digits.isEmpty then (p.abort "missing hexadecimal number in escape", [])
      else (p.put [Char.ofNat (inBase 16 digits)], r.drop digits.length)
    else if isOctal c then
      let s := if isArgument && c = '0' then r else c :: r
      let digits := (s.take 3).takeWhile isOctal
      (p.put [Char.ofNat (inBase 8 digits % 256)], s.drop digits.length)
    else if c = 'c' then ({ p with isOver := true, status := 0 }, [])
    else if c = 'u' || c = 'U' then
      let count := if c = 'u' then 4 else 8
      let digits := (r.take count).takeWhile isHexDigit
      let n := inBase 16 digits
      if digits.length < count then (p.abort "missing hexadecimal number in escape", [])
      else if isBarred n then
        (p.abort ("invalid universal character name \\" ++
          String.singleton c ++ hexadecimal false count n), [])
      else (p.put (universal n), r.drop count)
    else
      match letters.find? (·.1 = c) with
      | some (_, n) => (p.put [Char.ofNat n], r)
      | none => (p.put ['\\', c], r)

def unescaped : Nat → Progress → List Char → Progress
  | 0, p, _ | _, p, [] => p
  | n + 1, p, c :: r =>
    if p.isOver then p
    else if c = '\\' then
      let (p, r) := escape true p r
      unescaped n p r
    else unescaped n (p.put [c]) r

def check (p : Progress) (arg : String) (rest : List Char) (isMissing isInRange : Bool) :
    Progress :=
  let shown := Quoted.plain arg
  if !isInRange then p.complain (shown ++ ": Numerical result out of range")
  else if rest.isEmpty then p
  else if isMissing then p.complain (shown ++ ": expected a numeric value")
  else p.complain (shown ++ ": value not completely converted")

def characterCode? (p : Progress) (arg : String) : Option (Nat × Progress) :=
  match arg.toList with
  | q :: c :: r =>
    if q = '\'' || q = '"' then
      some (c.toNat, if r.isEmpty || p.isStrict then p else
        p.say ("warning: " ++ .ofList r ++
          ": character(s) following character constant have been ignored"))
    else none
  | _ => none

def signed (p : Progress) (arg : String) : Int × Progress :=
  match characterCode? p arg with
  | some (n, p) => (n, p)
  | none =>
    let n := Numeral.read false arg.toList
    if n.isMissing then (0, check p arg arg.toList true true)
      else (n.value, check p arg n.rest false n.isInRange)

def unsigned (p : Progress) (arg : String) : Nat × Progress :=
  match characterCode? p arg with
  | some (n, p) => (n, p)
  | none =>
    let n := Numeral.read false arg.toList
    if n.isMissing then (0, check p arg arg.toList true true)
    else (n.unsignedValue, check p arg n.rest false n.isInUnsignedRange)

def floating (p : Progress) (arg : String) : Float_ × Progress :=
  match characterCode? p arg with
  | some (n, p) => ((FloatSize.extended.nearest false n 1).1, p)
  | none =>
    let n := FloatText.read .extended arg.toList
    (n.value, check p arg n.rest n.isMissing !n.isOutOfRange)

def kindsBehind (marks : List Char) (hasPoint : Bool) : List Char :=
  let barred := marks.flatMap (fun c =>
    if c = '\'' || c = 'I' then "aAceEosxX".toList
    else if c = '#' then "cdisu".toList
    else if c = '0' then "cs".toList
    else []) ++ if hasPoint then ['c'] else []
  "aAcdeEfFgGiosuxX".toList.filter (!barred.contains ·)

def isMark (c : Char) : Bool := "'I-+ #0".toList.contains c

def greatestWidth : Int := Nat.pow 2 31 - 1

def measure (p : Progress) (isWidth : Bool) (s : List Char) : Option Int × List Char × Progress :=
  match s with
  | '*' :: r =>
    if p.args.isEmpty || p.isOver then (some 0, r, p)
    else
      let (arg, p) := p.take
      let (n, p) := signed p arg
      if isWidth && (n < -greatestWidth - 1 || greatestWidth < n) then
        (none, r, p.abort ("invalid field width: " ++ Quoted.plain arg))
      else if !isWidth && greatestWidth < n then
        (none, r, p.abort ("invalid precision: " ++ Quoted.plain arg))
      else (some n, r, p)
  | s =>
    let digits := s.takeWhile Char.isDigit
    (if digits.isEmpty then none else some (inBase 10 digits : Nat), s.drop digits.length, p)

def place (p : Progress) (f : FormatField) (kind : Char) : Progress :=
  let (arg, p) := p.take
  match kind with
  | 'c' => p.put (f.fill [arg.toList.headD '\x00'])
  | 's' => p.put (f.text arg.toList)
  | 'd' | 'i' =>
    let (n, p) := signed p arg
    p.put (f.signed n)
  | 'o' | 'u' | 'x' | 'X' =>
    let (n, p) := unsigned p arg
    p.put (f.unsigned (if kind = 'o' then 8 else if kind = 'u' then 10 else 16) (kind = 'X') n)
  | _ =>
    let (x, p) := floating p arg
    p.put (f.floating .extended kind x)

/-- The next argument in a field, or a gap if the field is too large; the argument is read all the
same. -/
def placeOrGap (p : Progress) (f : FormatField) (kind : Char) : Progress :=
  if f.isTooLarge then { place p {} kind with text := p.text, hasGap := true } else place p f kind

def conversion (p : Progress) (s : List Char) : Progress × List Char :=
  match s with
  | '%' :: r => (p.put ['%'], r)
  | 'b' :: r =>
    let (arg, p) := p.take
    (unescaped arg.length p arg.toList, r)
  | 'q' :: r =>
    if p.args.isEmpty then (p, r)
    else
      let (arg, p) := p.take
      (p.put (Quoted.forShell arg).toList, r)
  | s =>
    let marks := s.takeWhile isMark
    let f := marks.foldl (fun f c => FormatField.mark c f) ({} : FormatField)
    let (width, r, p) := measure p true (s.drop marks.length)
    let f := f.withWidth (width.getD 0)
    let (f, hasPoint, r, p) := match r with
      | '.' :: r =>
        let (n, r, p) := measure p false r
        (f.withPrecision (n.getD 0), true, r, p)
      | r => (f, false, r, p)
    if p.isOver then (p, [])
    else
      let r := r.dropWhile fun c => "lLhjtz".toList.contains c
      match r with
      | kind :: rest =>
        if (kindsBehind marks hasPoint).contains kind then (placeOrGap p f kind, rest)
        else
          let directive := String.ofList ('%' :: s.take (s.length - rest.length))
          (p.abort (directive ++ ": invalid conversion specification"), [])
      | [] => (p.abort (.ofList ('%' :: s) ++ ": invalid conversion specification"), [])

def once : Nat → Progress → List Char → Progress
  | 0, p, _ | _, p, [] => p
  | n + 1, p, c :: r =>
    if p.isOver then p
    else if c = '\\' then
      let (p, r) := escape false p r
      once n p r
    else if c = '%' then
      let (p, r) := conversion p r
      once n p r
    else
      let plain := r.takeWhile fun d => d ≠ '%' && d ≠ '\\'
      once n (p.put (c :: plain)) (r.drop plain.length)

def all (format : List Char) : Nat → Progress → Progress
  | 0, p => p
  | n + 1, p =>
    let q := once (format.length + 1) p format
    if q.isOver then q
    else if q.args.isEmpty then q
    else if q.args.length = p.args.length then
      q.say ("warning: ignoring excess arguments, starting with " ++ Quoted.plain (q.args.headD ""))
    else all format n q

end Printf

def printf : Tool := fun name words environment => do
  match if words.head? = some "--" then words.tail else words with
  | [] => misuse name "missing operand"
  | format :: args =>
    let p := Printf.all format.toList (args.length + 1) { args, isStrict := isStrict environment }
    p.messages.forM (complain name)
    finish name p.text p.status p.hasGap

end Shorthand.Tool
