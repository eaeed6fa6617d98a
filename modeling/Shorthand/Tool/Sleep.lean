import Shorthand.Number.Floating
import Shorthand.Tool.Basic
set_option autoImplicit false

namespace Shorthand.Tool

open Work

namespace Sleep

def unit? : List Char → Option Nat
  | [] | ['s'] => some 1
  | ['m'] => some 60
  | ['h'] => some 3600
  | ['d'] => some 86400
  | _ => none

inductive Duration where
  | microseconds (n : Nat)
  | endless
  deriving DecidableEq, Repr

def Duration.add : Duration → Duration → Duration
  | microseconds m, microseconds n => microseconds (m + n)
  | _, _ => endless

def Duration.ofNumber? (unit : Nat) : Float_ → Option Duration
  | .finite isNegative m e =>
    if isNegative && m ≠ 0 then none
    else
      let top := m * unit * 1000000 * Nat.pow 2 e.toNat
      let bottom := Nat.pow 2 (-e).toNat
      some (.microseconds ((top + bottom - 1) / bottom))
  | .infinite false => some .endless
  | _ => none

def duration? (word : String) : Option Duration := do
  let n := FloatText.read .double word.toList
  let unit ← unit? n.rest
  if n.isMissing then none else Duration.ofNumber? unit n.value

end Sleep

def sleep : Tool := fun name words environment => do
  let items := ({} : Options).read (isStrict environment) words
  match fault? items with
  | some message => misuse name message
  | none =>
    if words.isEmpty then misuse name "missing operand"
    else
      let times := (operands items).map fun word => (word, Sleep.duration? word)
      let bad := times.filter (·.2.isNone)
      match bad.getLast? with
      | some (last, _) =>
        bad.dropLast.forM fun e => complain name ("invalid time interval " ++ Quoted.plain e.1)
        misuse name ("invalid time interval " ++ Quoted.plain last)
      | none =>
        match (times.filterMap (·.2)).foldl Sleep.Duration.add (.microseconds 0) with
        | .microseconds n => call (.sleep n)
        | .endless => call .rest
        return 0

end Shorthand.Tool
