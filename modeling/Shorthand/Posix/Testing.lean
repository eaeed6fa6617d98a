import Shorthand.Posix.Evaluator
set_option autoImplicit false

namespace Shorthand.Posix

namespace Testing

open Evaluator

inductive Kind where
  | unary
  | binary
  | negation
  | conjunction
  | parenthesis
  deriving DecidableEq, Repr

def unaryOperators : List String :=
  ["-r", "-w", "-x", "-e", "-f", "-d", "-c", "-b", "-p", "-u", "-g", "-k", "-s", "-t", "-z", "-n",
    "-h", "-O", "-G", "-L", "-S"]

def binaryOperators : List String :=
  ["=", "!=", "<", ">", "-eq", "-ne", "-ge", "-gt", "-le", "-lt", "-nt", "-ot", "-ef"]

def kind? (s : String) : Option Kind :=
  if unaryOperators.contains s then some .unary
  else if binaryOperators.contains s then some .binary
  else if s = "!" then some .negation
  else if s = "-a" || s = "-o" then some .conjunction
  else if s = "(" || s = ")" then some .parenthesis
  else none

inductive Sign where
  | finish
  | operator (s : String)
  | operand
  deriving DecidableEq, Repr

def isOperand : List String → Bool
  | [] => true
  | [_] => false
  | op :: _ :: _ => kind? op = some .binary

def sign : List String → Sign
  | [] => .finish
  | s :: rest =>
    match kind? s with
    | none => .operand
    | some k =>
      if (k = .unary && isOperand rest) || (s = "(" && rest.isEmpty) then .operand else .operator s

def status? (path : String) (followsLinks : Bool := true) : Evaluator (Option FileStatus) := do
  return (← call (.status path followsLinks)).toOption

def file (op path : String) : Evaluator Bool := do
  match ← status? path (op ≠ "-h" && op ≠ "-L") with
  | none => return false
  | some status =>
    return match op, status.node with
      | "-d", .directory => true
      | "-f", .regular .. | "-f", .program _ => true
      | "-c", .device _ => true
      | "-h", .link _ | "-L", .link _ => true
      | "-s", .directory => true
      | "-s", _ => 0 < status.size
      | "-x", .directory | "-x", .program _ => true
      | "-e", _ | "-r", _ | "-w", _ | "-O", _ | "-G", _ => true
      | _, _ => false

def number (s : String) : Evaluator Int :=
  (integer? true s).elim (fail ("Illegal number: " ++ s)) pure

def unary (op s : String) : Evaluator Bool :=
  match op with
  | "-z" => return s.isEmpty
  | "-n" => return !s.isEmpty
  | "-t" => do
    let _ ← number s
    return false
  | op => file op s

def time (s : FileStatus) : Nat :=
  match s.node with
  | .regular _ time => time
  | _ => 0

def binary (op a b : String) : Evaluator Bool := do
  let compared (f : Int → Int → Bool) : Evaluator Bool := do
    let x ← number a
    let y ← number b
    return f x y
  let files (f : FileStatus → FileStatus → Bool) : Evaluator Bool := do
    match ← status? a, ← status? b with
    | some s, some t => return f s t
    | _, _ => return false
  match op with
  | "=" => return a = b
  | "!=" => return a ≠ b
  | "<" => return a < b
  | ">" => return b < a
  | "-eq" => compared (· == ·)
  | "-ne" => compared (· != ·)
  | "-ge" => compared fun x y => x ≥ y
  | "-gt" => compared fun x y => x > y
  | "-le" => compared fun x y => x ≤ y
  | "-lt" => compared fun x y => x < y
  | "-nt" => files fun s t => time s > time t
  | "-ot" => files fun s t => time s < time t
  | _ => files fun s t => s.way = t.way

abbrev Read := Evaluator (Bool × List String)

mutual

/-- Conditions joined by `-o`, from words whose first one has been seen already. -/
def anyOf : Nat → Sign → List String → Read
  | 0, _, words => return (false, words)
  | n + 1, sign₀, words => do
    let (a, words) ← allOf n sign₀ words
    if sign words.tail = .operator "-o" then
      let rest := words.drop 2
      let (b, words) ← anyOf n (sign rest) rest
      return (a || b, words)
    else return (a, words)

def allOf : Nat → Sign → List String → Read
  | 0, _, words => return (false, words)
  | n + 1, sign₀, words => do
    let (a, words) ← notOf n sign₀ words
    if sign words.tail = .operator "-a" then
      let rest := words.drop 2
      let (b, words) ← allOf n (sign rest) rest
      return (a && b, words)
    else return (a, words)

def notOf : Nat → Sign → List String → Read
  | 0, _, words => return (false, words)
  | n + 1, sign₀, words =>
    if sign₀ = .operator "!" then do
      let next := sign words.tail
      let (a, words) ← notOf n next (if next = .finish then words else words.tail)
      return (!a, words)
    else primary n sign₀ words

def primary : Nat → Sign → List String → Read
  | 0, _, words => return (false, words)
  | n + 1, sign₀, words => do
    match sign₀ with
    | .finish => return (false, words)
    | .operator "(" =>
      let rest := words.tail
      if sign rest = .operator ")" then return (false, rest)
      let (a, words) ← anyOf n (sign rest) rest
      if sign words.tail ≠ .operator ")" then fail "closing paren expected"
      return (a, words.tail)
    | .operator op =>
      if kind? op = some .unary then
        match words.tail with
        | [] => fail (op ++ ": argument expected")
        | s :: _ => return (← unary op s, words.tail)
      else operand words
    | .operand => operand words

def operand (words : List String) : Read := do
  match sign words.tail with
  | .operator op =>
    if kind? op = some .binary then
      match words.drop 2 with
      | [] => fail (op ++ ": argument expected")
      | b :: _ => return (← binary op (words.headD "") b, words.drop 2)
    else return (!(words.headD "").isEmpty, words)
  | _ => return (!(words.headD "").isEmpty, words)

end

/-- Whether the words are a condition that holds. A negation in front counts once, however often it
stands there. -/
def holds : Nat → Bool → List String → Evaluator Bool
  | 0, _, _ => return false
  | n + 1, isNegated, words => do
    let judge (isOperand : Bool) (words : List String) : Evaluator Bool := do
      let (a, rest) ← anyOf (10 * words.length + 10)
        (if isOperand then .operand else sign words) words
      match rest with
      | op :: _ :: _ =>
        fail (if op.isEmpty then "unexpected operator" else op ++ ": unexpected operator")
      | _ => return a != isNegated
    let special (words : List String) : Evaluator Bool :=
      if words.head? = some "(" && words.getLast? = some ")" then judge false words.tail.dropLast
      else if words.head? = some "!" then holds n true words.tail
      else judge false words
    match words with
    | [] => return isNegated
    | [_, op, _] => if kind? op = some .binary then judge true words else special words
    | [_, _, _, _] => special words
    | _ => judge false words

end Testing

end Shorthand.Posix
