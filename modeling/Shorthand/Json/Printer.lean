import Shorthand.Json.Value
set_option autoImplicit false

namespace Shorthand.Json

def hexDigit (n : Nat) : Char := Nat.digitChar (n % 16)

def escaped (c : Char) : List Char :=
  if c = '"' then ['\\', '"']
  else if c = '\\' then ['\\', '\\']
  else if c = '\x08' then ['\\', 'b']
  else if c = '\t' then ['\\', 't']
  else if c = '\n' then ['\\', 'n']
  else if c = '\x0c' then ['\\', 'f']
  else if c = '\r' then ['\\', 'r']
  else if c.toNat < 0x20 then ['\\', 'u', '0', '0', hexDigit (c.toNat / 16), hexDigit c.toNat]
  else [c]

def writeString (s : String) : List Char := '"' :: s.toList.flatMap escaped ++ ['"']

def Number.write : Number → List Char
  | natural n => Nat.toDigits 10 n
  | negative n => '-' :: Nat.toDigits 10 n
  | float x => x.write

def commas : List (List Char) → List Char
  | [] => []
  | [p] => p
  | p :: q :: r => p ++ ',' :: commas (q :: r)

theorem commas_induction {P : List Char → Prop} (nil : P [])
    (join : ∀ {a b}, P a → P b → P (a ++ ',' :: b)) {parts : List (List Char)}
    (h : ∀ p ∈ parts, P p) :
    P (commas parts) := by
  fun_induction commas parts with
  | case1 => exact nil
  | case2 p => exact h p (by simp)
  | case3 p q r ih => exact join (h p (by simp)) (ih fun part hp => h part (by simp [hp]))

def writeList (parts : List (List Char)) : List Char := '[' :: commas parts ++ [']']

def writeObject (entries : List (String × List Char)) : List Char :=
  '\x7b' :: commas (entries.map fun e => writeString e.1 ++ ':' :: e.2) ++ ['\x7d']

mutual

def Value.write : Value → List Char
  | .null => ['n', 'u', 'l', 'l']
  | .bool true => ['t', 'r', 'u', 'e']
  | .bool false => ['f', 'a', 'l', 's', 'e']
  | .number n => n.write
  | .string s => writeString s
  | .list items => writeList (writtenItems items)
  | .object entries => writeObject (writtenEntries entries)

def writtenItems : List Value → List (List Char)
  | [] => []
  | v :: r => v.write :: writtenItems r

def writtenEntries : List (String × Value) → List (String × List Char)
  | [] => []
  | e :: r => (e.1, e.2.write) :: writtenEntries r

end

def Value.text (v : Value) : String := .ofList v.write

end Shorthand.Json
