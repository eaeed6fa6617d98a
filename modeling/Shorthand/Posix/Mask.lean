import Shorthand.Posix.Options
set_option autoImplicit false

namespace Shorthand.Posix

namespace Mask

open Evaluator

def symbolic (mask : Nat) : String :=
  let rights (n : Nat) : String :=
    (if n / 4 % 2 = 0 then "r" else "") ++
      (if n / 2 % 2 = 0 then "w" else "") ++ if n % 2 = 0 then "x" else ""
  "u=" ++ rights (mask / 64) ++ ",g=" ++ rights (mask / 8) ++ ",o=" ++ rights mask

def octal (n width : Nat) : String :=
  let digits := Nat.toDigits 8 n
  .ofList (List.replicate (width - digits.length) '0' ++ digits)

def classes (letters : List Char) : Nat :=
  let unit (c : Char) : Nat :=
    if c = 'a' then 73 else if c = 'u' then 64 else if c = 'g' then 8 else 1
  letters.foldl (fun n c => Nat.lor n (unit c)) 0

def rights (allowed : Nat) (letters : List Char) : Nat :=
  let value (c : Char) : Nat :=
    match c with
    | 'r' => 4
    | 'w' => 2
    | 'x' => 1
    | 'u' => allowed / 64
    | 'g' => allowed / 8
    | 'o' => allowed
    | 'X' => if Nat.land allowed 73 ≠ 0 then 1 else 0
    | _ => 0
  Nat.land (letters.foldl (fun n c => Nat.lor n (value c)) 0) 7

def changed (before : Nat) : Nat → (isNew : Bool) → Nat → Nat → List Char → Option Nat
  | 0, _, _, now, _ => some now
  | n + 1, isNew, positions, now, s =>
    if s.isEmpty then some now
    else
      let letters := if isNew then s.takeWhile "augo".toList.contains else []
      let s := s.drop letters.length
      let positions :=
        if isNew then (if letters.isEmpty then 73 else classes letters) else positions
      match s with
      | op :: r =>
        if !"=+-".toList.contains op then none
        else
          let names := r.takeWhile "rwxugoXs".toList.contains
          let r := r.drop names.length
          let value := rights before names * positions
          let all := 7 * positions
          let now := if op = '-' then now - Nat.land now value
            else if op = '=' then Nat.lor value (now - Nat.land now all) else Nat.lor now value
          match r with
          | [] => some now
          | ',' :: r => changed before n true 0 now r
          | c :: _ =>
            if "=+-".toList.contains c then changed before n false positions now r else none
      | [] => none

def umask (args : List String) : Evaluator Nat := do
  let given ← Given.read "S" args
  let mask ← call (.mask none)
  match given.rest with
  | [] => print ((if given.has 'S' then symbolic mask else octal mask 4) ++ "\n")
  | word :: _ =>
    let s := word.toList
    if (s.headD 'a').isDigit then
      if !s.all isOctal then fail ("Illegal number: " ++ word)
      let _ ← call (.mask (some (inBase 8 s % 512)))
    else
      match changed (511 - mask) (s.length + 1) true 0 (511 - mask) s with
      | none => fail ("Illegal mode: " ++ word)
      | some allowed =>
        let _ ← call (.mask (some (511 - Nat.land allowed 511)))
  return 0

end Mask

end Shorthand.Posix
