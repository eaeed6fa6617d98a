import Shorthand.Json.Value
import Shorthand.Json.Fault
/-!
Reading JSON from a text. A reader takes what is left of the text and gives a value with what is
left behind it; a fault carries the place where it shows. Strings and numbers that nobody keeps are
read by looser rules in `Json.Skip`.
-/
set_option autoImplicit false

namespace Shorthand.Json

abbrev Reader (α : Type) := List Char → Except Stop (α × List Char)

def here (fault : Fault) (rest : List Char) : Stop := ⟨fault, byteCount rest⟩

def at1 (fault : Fault) (rest : List Char) : Stop := ⟨fault, byteCount rest - 1⟩

def isSpace (c : Char) : Bool := c = ' ' || c = '\n' || c = '\t' || c = '\r'

def skipSpace (s : List Char) : List Char := s.dropWhile isSpace

/-- The rest of a word whose first letter is read. -/
def literal {α : Type} (value : α) : List Char → Reader α
  | [], s => .ok (value, s)
  | _ :: _, [] => .error (here .endInValue [])
  | c :: cs, d :: r => if c = d then literal value cs r else .error (at1 .noWord (d :: r))

/-! ### Strings -/

def shortEscape? (c : Char) : Option Char :=
  if c = '"' then some '"'
  else if c = '\\' then some '\\'
  else if c = '/' then some '/'
  else if c = 'b' then some '\x08'
  else if c = 'f' then some '\x0c'
  else if c = 'n' then some '\n'
  else if c = 'r' then some '\r'
  else if c = 't' then some '\t'
  else none

def hexDigit? (c : Char) : Option Nat :=
  if c.isDigit then some (c.toNat - 48)
  else if 'a' ≤ c ∧ c ≤ 'f' then some (c.toNat - 87)
  else if 'A' ≤ c ∧ c ≤ 'F' then some (c.toNat - 55)
  else none

def hex4 (s : List Char) : Except Stop (Nat × List Char) :=
  if byteCount s < 4 then .error (here .endInString [])
  else
    match (s.take 4).mapM hexDigit? with
    | some ds => .ok (ds.foldl (fun n d => n * 16 + d) 0, s.drop 4)
    | none => .error ⟨.badEscape, byteCount s - 4⟩

def isHighSurrogate (n : Nat) : Bool := 0xD800 ≤ n && n < 0xDC00
def isLowSurrogate (n : Nat) : Bool := 0xDC00 ≤ n && n < 0xE000

def expectInPair (c : Char) : List Char → Except Stop (List Char)
  | [] => .error (here .endInString [])
  | d :: r => if d = c then .ok r else .error (at1 .openSurrogate (d :: r))

def unicodeEscape (s : List Char) : Except Stop (Char × List Char) := do
  let (high, r) ← hex4 s
  if isLowSurrogate high then .error (here .loneSurrogate r)
  else if isHighSurrogate high then
    let r ← expectInPair '\\' r
    let r ← expectInPair 'u' r
    let (low, r) ← hex4 r
    if isLowSurrogate low then .ok (.ofNat ((high - 0xD800) * 0x400 + (low - 0xDC00) + 0x10000), r)
    else .error (here .loneSurrogate r)
  else .ok (.ofNat high, r)

def escape : Reader Char
  | [] => .error (here .endInString [])
  | 'u' :: r => unicodeEscape r
  | c :: r =>
    match shortEscape? c with
    | some d => .ok (d, r)
    | none => .error (at1 .badEscape (c :: r))

def isControl (c : Char) : Bool := c.toNat < 0x20

/-- The characters of a string up to its closing quote. A step of the count is a character or an
escape. -/
def stringChars : Nat → Reader (List Char)
  | 0, s => .error (here .endInString s)
  | _ + 1, [] => .error (here .endInString [])
  | n + 1, c :: r =>
    if c = '"' then .ok ([], r)
    else if c = '\\' then do
      let (d, r) ← escape r
      let (ds, r) ← stringChars n r
      .ok (d :: ds, r)
    else if isControl c then .error (at1 .controlCharacter (c :: r))
    else do
      let (ds, r) ← stringChars n r
      .ok (c :: ds, r)

def stringAfterQuote (s : List Char) : Except Stop (String × List Char) := do
  let (cs, r) ← stringChars (s.length + 1) s
  .ok (.ofList cs, r)

/-! ### Numbers -/

def digitValue (c : Char) : Nat := c.toNat - 48

def pushDigits (n : Nat) : List Char → Nat × Nat
  | [] => (n, 0)
  | c :: r =>
    let m := n * 10 + digitValue c
    if m < Nat.pow 2 64 then
      let (m, count) := pushDigits m r
      (m, count + 1)
    else (n, 0)

structure Mantissa where
  isNegative : Bool
  digits : Nat
  exponent : Int

def Mantissa.zero (m : Mantissa) : Binary64 := ⟨m.isNegative, 0, -1074⟩

def Mantissa.toFloat (m : Mantissa) (rest : List Char) : Except Stop (Number × List Char) :=
  match Binary64.ofDecimal m.digits m.exponent with
  | some x => .ok (.float (if m.isNegative then x.neg else x), rest)
  | none => .error (here .numberOutOfRange rest)

def exponentBound : Nat := Nat.pow 2 31

/-- The value of the digits of an exponent; or, once it is too large, what stands behind its last
digit read. -/
def exponentValue (n : Nat) : List Char → Except (List Char) Nat
  | [] => .ok n
  | c :: r =>
    let m := n * 10 + digitValue c
    if m < exponentBound then exponentValue m r else .error r

def exponent (m : Mantissa) (s : List Char) : Except Stop (Number × List Char) :=
  let (isBelow, s) := match s with
    | '+' :: r => (false, r)
    | '-' :: r => (true, r)
    | s => (false, s)
  match s with
  | [] => .error (here .endInValue [])
  | c :: r =>
    if ¬ c.isDigit then .error (at1 .badNumber (c :: r))
    else
      let ds := s.takeWhile Char.isDigit
      let rest := s.dropWhile Char.isDigit
      match exponentValue 0 ds with
      | .ok e =>
        { m with exponent := if isBelow then m.exponent - e else m.exponent + e }.toFloat rest
      | .error unread =>
        if m.digits ≠ 0 ∧ ¬ isBelow then .error (here .numberOutOfRange (unread ++ rest))
        else .ok (.float m.zero, rest)

def isExponentMark (c : Char) : Bool := c = 'e' || c = 'E'

def exponentOrEnd (m : Mantissa) (s : List Char) : Except Stop (Number × List Char) :=
  match s with
  | c :: r => if isExponentMark c then exponent m r else m.toFloat s
  | [] => m.toFloat s

/-- The digits after the point. Once a digit does not fit, it and all behind it are dropped. -/
def fraction (m : Mantissa) (s : List Char) : Except Stop (Number × List Char) :=
  let ds := s.takeWhile Char.isDigit
  let rest := s.dropWhile Char.isDigit
  match ds, rest with
  | [], [] => .error (here .endInValue [])
  | [], _ :: _ => .error (at1 .badNumber rest)
  | _ :: _, _ =>
    let (n, pushed) := pushDigits m.digits ds
    exponentOrEnd { m with digits := n, exponent := m.exponent - pushed } rest

/-- A whole number; below zero it reaches down to -2 ^ 63, and a negative zero is no integer. -/
def Mantissa.toNumber (m : Mantissa) (rest : List Char) : Except Stop (Number × List Char) :=
  if ¬ m.isNegative then .ok (.natural m.digits, rest)
  else if 0 < m.digits ∧ m.digits ≤ Nat.pow 2 63 then .ok (.negative m.digits, rest)
  else m.toFloat rest

def numberTail (m : Mantissa) (isWhole : Bool) (s : List Char) : Except Stop (Number × List Char) :=
  let plain := if isWhole then m.toNumber s else m.toFloat s
  match s with
  | '.' :: r => fraction m r
  | c :: r => if isExponentMark c then exponent m r else plain
  | [] => plain

/-- The digits of a number, after its sign. Digits that do not fit raise the exponent. -/
def digits (isNegative : Bool) (s : List Char) : Except Stop (Number × List Char) :=
  match s with
  | [] => .error (here .endInValue [])
  | '0' :: r =>
    match r with
    | d :: _ =>
      if d.isDigit then .error (at1 .badNumber r) else numberTail ⟨isNegative, 0, 0⟩ true r
    | [] => numberTail ⟨isNegative, 0, 0⟩ true r
  | c :: _ =>
    if ¬ c.isDigit then .error (at1 .badNumber s)
    else
      let ds := s.takeWhile Char.isDigit
      let (n, pushed) := pushDigits 0 ds
      numberTail ⟨isNegative, n, ds.length - pushed⟩ (pushed = ds.length) (s.dropWhile Char.isDigit)

/-! ### Lists and objects -/

inductive Next where
  | closed (rest : List Char)
  | item (rest : List Char)

def nextItem (isFirst : Bool) (s : List Char) : Except Stop Next :=
  match skipSpace s with
  | [] => .error (here .endInList [])
  | c :: r =>
    if c = ']' then .ok (.closed r)
    else if isFirst then .ok (.item (c :: r))
    else if c ≠ ',' then .error (at1 .noListComma (c :: r))
    else
      match skipSpace r with
      | [] => .error (here .endInValue [])
      | d :: r => if d = ']' then .error (at1 .trailingComma (d :: r)) else .ok (.item (d :: r))

def keyQuote (c : Char) (r : List Char) : Except Stop Next :=
  if c = '"' then .ok (.item r) else .error (at1 .keyNotString (c :: r))

def nextKey (isFirst : Bool) (s : List Char) : Except Stop Next :=
  match skipSpace s with
  | [] => .error (here .endInObject [])
  | c :: r =>
    if c = '\x7d' then .ok (.closed r)
    else if isFirst then keyQuote c r
    else if c ≠ ',' then .error (at1 .noObjectComma (c :: r))
    else
      match skipSpace r with
      | [] => .error (here .endInValue [])
      | d :: r =>
        if d = '\x7d' then .error (at1 .trailingComma (d :: r)) else keyQuote d r

def afterColon (s : List Char) : Except Stop (List Char) :=
  match skipSpace s with
  | [] => .error (here .endInObject [])
  | c :: r => if c = ':' then .ok r else .error (at1 .noColon (c :: r))

/-- The items of a list whose bracket is read. A step of the count is an item. -/
def items {α : Type} (item : Reader α) : Nat → Bool → Reader (List α)
  | 0, _, s => .error (here .endInList s)
  | n + 1, isFirst, s => do
    match ← nextItem isFirst s with
    | .closed r => .ok ([], r)
    | .item s =>
      let (v, s) ← item s
      let (vs, s) ← items item n false s
      .ok (v :: vs, s)

/-- The entries of an object whose bracket is read. A step of the count is an entry. -/
def entries {α : Type} (item : Reader α) : Nat → Bool → Reader (List (String × α))
  | 0, _, s => .error (here .endInObject s)
  | n + 1, isFirst, s => do
    match ← nextKey isFirst s with
    | .closed r => .ok ([], r)
    | .item s =>
      let (k, s) ← stringAfterQuote s
      let (v, s) ← item (← afterColon s)
      let (es, s) ← entries item n false s
      .ok ((k, v) :: es, s)

/-! ### Values -/

def valueWith (list object : Reader Value) (s : List Char) : Except Stop (Value × List Char) :=
  match skipSpace s with
  | [] => .error (here .endInValue [])
  | c :: r =>
    if c = '"' then (stringAfterQuote r).map fun p => (.string p.1, p.2)
    else if c = '[' then list r
    else if c = '\x7b' then object r
    else if c = 'n' then literal .null ['u', 'l', 'l'] r
    else if c = 't' then literal (.bool true) ['r', 'u', 'e'] r
    else if c = 'f' then literal (.bool false) ['a', 'l', 's', 'e'] r
    else if c = '-' then (digits true r).map fun p => (.number p.1, p.2)
    else if c.isDigit then (digits false (c :: r)).map fun p => (.number p.1, p.2)
    else .error (at1 .noValue (c :: r))

def value : Nat → Reader Value
  | 0, s => valueWith (fun r => .error (here .tooDeep r)) (fun r => .error (here .tooDeep r)) s
  | depth + 1, s =>
    valueWith (fun r => (items (value depth) (r.length + 1) true r).map fun p => (.list p.1, p.2))
      (fun r => (entries (value depth) (r.length + 1) true r).map fun p => (.object p.1, p.2)) s

end Shorthand.Json
