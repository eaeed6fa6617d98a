import Shorthand.Posix.State
/-!
The expressions between doubled parentheses: integers, variables, the usual operators, and
assignments. An expression is computed while it is read, so that its first fault decides; what is
not needed is read without being computed.
-/
set_option autoImplicit false

namespace Shorthand.Posix

inductive ArithmeticError where
  | wrong (what : String)
  | variable_ (message : String)
  | overflow
  deriving DecidableEq, Repr

namespace Arithmetic

inductive Sign where
  | number (n : Int)
  | named (name : String)
  | operator (text : String)
  | assigning (text : String)
  | unknown
  | finish
  deriving DecidableEq, Repr

/-- The operators on two operands, with how strongly they bind; the least number binds first. -/
def precedences : List (String × Nat) :=
  [("*", 0), ("/", 0), ("%", 0), ("+", 1), ("-", 1), ("<<", 2), (">>", 2), ("<", 3), ("<=", 3),
    (">", 3), (">=", 3), ("==", 4), ("!=", 4), ("&", 5), ("^", 6), ("|", 7)]

def precedence? : Sign → Option Nat
  | .operator text => (precedences.find? (·.1 = text)).map (·.2)
  | _ => none

def assignable : List String := ["<<", ">>", "*", "/", "%", "+", "-", "&", "^", "|"]

def operators : List String :=
  ["<<", ">>", "<=", ">=", "==", "!=", "&&", "||", "<", ">", "!", "&", "|", "(", ")", "*", "/", "%",
    "+", "-", "^", "~", "?", ":"]

def nextSign (s : List Char) : Sign × List Char :=
  let s := s.dropWhile fun c => c = ' ' || c = '\t' || c = '\n'
  match s with
  | [] => (.finish, [])
  | c :: _ =>
    if c.isDigit then
      let n := Numeral.read false s
      (.number n.value, n.rest)
    else if Parser.isNameStart c then
      (.named (.ofList (s.takeWhile Parser.isNamePart)), s.dropWhile Parser.isNamePart)
    else
      match assignable.find? fun op => (op ++ "=").toList.isPrefixOf s with
      | some op => (.assigning op, s.drop (op.length + 1))
      | none =>
        match operators.find? fun op => op.toList.isPrefixOf s with
        | some op => (.operator op, s.drop op.length)
        | none => if c = '=' then (.assigning "", s.tail) else (.unknown, s)

structure Rest where
  last : Sign
  text : List Char
  state : State

abbrev Reader := StateT Rest (Except ArithmeticError)

def advance : Reader Sign := do
  let r ← get
  let (sign, text) := nextSign r.text
  set { r with last := sign, text }
  return sign

def wrong {α : Type} (what : String) : Reader α := throw (.wrong what)

/-- The number that a variable holds; a missing or empty one counts as zero. -/
def valueOf (name : String) : Reader Int := do
  let value := ((← get).state.get? name).getD ""
  match integer? false value with
  | some n => return n
  | none => throw (.variable_ ("Illegal number: " ++ value))

def assign (name : String) (n : Int) : Reader Int := do
  let r ← get
  match r.state.put name (some (toString n)) with
  | .ok state =>
    set { r with state }
    return n
  | .error e => throw (.variable_ e)

def ofBool (b : Bool) : Int := if b then 1 else 0

def bitwise (f : Nat → Nat → Nat) (a b : Int) : Int := wrapped (f (unsignedOf a) (unsignedOf b))

def shift (b : Int) : Nat := (b % 64).toNat

def binary (op : String) (a b : Int) : Reader Int :=
  match op with
  | "*" => return wrapped (a * b)
  | "/" | "%" =>
    if b = 0 then wrong "division by zero"
    else if a = leastInteger && b = -1 then throw .overflow
    else return if op = "/" then a.tdiv b else a.tmod b
  | "+" => return wrapped (a + b)
  | "-" => return wrapped (a - b)
  | "<<" => return wrapped (a * (Nat.pow 2 (shift b) : Nat))
  | ">>" => return a / (Nat.pow 2 (shift b) : Nat)
  | "<" => return ofBool (a < b)
  | "<=" => return ofBool (a ≤ b)
  | ">" => return ofBool (a > b)
  | ">=" => return ofBool (a ≥ b)
  | "==" => return ofBool (a = b)
  | "!=" => return ofBool (a ≠ b)
  | "&" => return bitwise Nat.land a b
  | "^" => return bitwise Nat.xor a b
  | _ => return bitwise Nat.lor a b

mutual

def primary : Nat → Bool → Sign → Reader Int
  | 0, _, _ => wrong "expecting primary"
  | n + 1, isIdle, sign => do
    match sign with
    | .number i =>
      let _ ← advance
      return i
    | .named name =>
      let _ ← advance
      if isIdle then return 0 else valueOf name
    | .operator "(" =>
      let i ← whole n isIdle (← advance)
      if (← get).last ≠ .operator ")" then wrong "expecting ')'"
      let _ ← advance
      return i
    | .operator "+" => primary n isIdle (← advance)
    | .operator "-" => return wrapped (-(← primary n isIdle (← advance)))
    | .operator "!" => return ofBool ((← primary n isIdle (← advance)) = 0)
    | .operator "~" => return -(← primary n isIdle (← advance)) - 1
    | _ => wrong "expecting primary"

def further : Nat → Bool → Nat → Int → Reader Int
  | 0, _, _, a => return a
  | n + 1, isIdle, bound, a => do
    match (← get).last, precedence? (← get).last with
    | .operator op, some p =>
      if p ≥ bound then return a
      let b ← primary n isIdle (← advance)
      let b ← further n isIdle p b
      further n isIdle bound (← if isIdle then pure b else binary op a b)
    | _, _ => return a

def allOf : Nat → Bool → Sign → Reader Int
  | 0, _, _ => wrong "expecting primary"
  | n + 1, isIdle, sign => do
    let a ← primary n isIdle sign
    let a ← further n isIdle 8 a
    if (← get).last = .operator "&&" then
      let b ← allOf n (isIdle || a = 0) (← advance)
      return ofBool (a ≠ 0 && b ≠ 0)
    else return a

def anyOf : Nat → Bool → Sign → Reader Int
  | 0, _, _ => wrong "expecting primary"
  | n + 1, isIdle, sign => do
    let a ← allOf n isIdle sign
    if (← get).last = .operator "||" then
      let b ← anyOf n (isIdle || a ≠ 0) (← advance)
      return ofBool (a ≠ 0 || b ≠ 0)
    else return a

def choice : Nat → Bool → Sign → Reader Int
  | 0, _, _ => wrong "expecting primary"
  | n + 1, isIdle, sign => do
    let a ← anyOf n isIdle sign
    if (← get).last = .operator "?" then
      let b ← whole n (isIdle || a = 0) (← advance)
      if (← get).last ≠ .operator ":" then wrong "expecting ':'"
      let c ← choice n (isIdle || a ≠ 0) (← advance)
      return if a ≠ 0 then b else c
    else return a

def whole : Nat → Bool → Sign → Reader Int
  | 0, _, _ => wrong "expecting primary"
  | n + 1, isIdle, sign => do
    match sign, nextSign (← get).text with
    | .named name, (.assigning op, text) =>
      modify fun r => { r with text }
      let b ← whole n isIdle (← advance)
      if isIdle then return b
      else if op.isEmpty then assign name b
      else assign name (← binary op (← valueOf name) b)
    | _, _ => choice n isIdle sign

end

def evaluate (s : State) (text : List Char) : Except ArithmeticError (Int × State) := do
  let read : Reader Int := do
    let i ← whole (20 * text.length + 20) false (← advance)
    if (← get).last ≠ .finish then wrong "expecting EOF"
    return i
  let (i, rest) ← read.run { last := .finish, text, state := s }
  return (i, rest.state)

end Arithmetic

end Shorthand.Posix
