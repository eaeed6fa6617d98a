import Shorthand.Posix.Integer
import Shorthand.Tool.Basic
set_option autoImplicit false

namespace Shorthand.Tool

open Work
open Shorthand.Posix (isHexDigit isOctal inBase)

def copyAll (name : String) (source : Nat) (label : String) : Nat → Work Nat
  | 0 => return 0
  | n + 1 => do
    match ← call (.read source 131072) with
    | .ok [] => return 0
    | .ok octets =>
      match ← writeAll 1 octets with
      | .ok _ => copyAll name source label n
      | .error e =>
        complain name ("write error: " ++ e.text)
        exit 1
    | .error e =>
      complain name (label ++ ": " ++ e.text)
      return 1

def show_ (name path : String) : Work Nat := do
  if path = "-" then copyAll name 0 "-" patience
  else
    let label := Quoted.beforeColon path
    match ← call (.openFile path { reads := true }) with
    | .error e =>
      complain name (label ++ ": " ++ e.text)
      return 1
    | .ok source =>
      let status ← copyAll name source label patience
      let _ ← call (.close source)
      return status

def cat : Tool := fun name words environment => do
  let items := ({ letters := [('u', .nothing)] } : Options).read (isStrict environment) words
  match fault? items with
  | some message => misuse name message
  | none =>
    let paths := if (operands items).isEmpty then ["-"] else operands items
    let codes ← paths.mapM (show_ name)
    if paths.contains "-" then
      if let .error e ← call (.close 0) then
        complain name ("closing standard input: " ++ e.text)
        return 1
    return codes.foldl max 0

structure EchoForm where
  isOpen : Bool := false
  hasEscapes : Bool := false

def EchoForm.read (form : EchoForm) : List String → EchoForm × List String
  | [] => (form, [])
  | w :: rest =>
    match w.toList with
    | '-' :: c :: letters =>
      if (c :: letters).all "neE".toList.contains then
        let next := (c :: letters).foldl (fun (form : EchoForm) c =>
          if c = 'n' then { form with isOpen := true } else { form with hasEscapes := c = 'e' })
            form
        next.read rest
      else (form, w :: rest)
    | _ => (form, w :: rest)

/-- What an escape stands for, behind its backslash, and what follows it; none if it ends all
output. -/
def echoEscape? : List Char → Option (List Char × List Char)
  | [] => some (['\\'], [])
  | c :: r =>
    let numbered (base : Nat) (digits rest : List Char) : Option (List Char × List Char) :=
      some ([Char.ofNat (inBase base digits % 256)], rest.drop digits.length)
    if c = 'c' then none
    else if c = 'x' then
      let digits := (r.take 2).takeWhile isHexDigit
      if digits.isEmpty then some (['\\', 'x'], r) else numbered 16 digits r
    else if isOctal c then
      let s := if c = '0' then r else c :: r
      numbered 8 ((s.take 3).takeWhile isOctal) s
    else
      match [('\\', 92), ('a', 7), ('b', 8), ('e', 27), ('f', 12), ('n', 10), ('r', 13), ('t', 9),
        ('v', 11)].find?
          (·.1 = c) with
      | some (_, n) => some ([Char.ofNat n], r)
      | none => some (['\\', c], r)

def echoText : Nat → List Char → List Char × Bool
  | 0, _ | _, [] => ([], true)
  | n + 1, c :: r =>
    if c = '\\' then
      match echoEscape? r with
      | none => ([], false)
      | some (s, rest) =>
        let (t, goesOn) := echoText n rest
        (s ++ t, goesOn)
    else
      let (t, goesOn) := echoText n r
      (c :: t, goesOn)

def echo : Tool := fun name words _ => do
  let (form, words) := ({} : EchoForm).read words
  let text := (" ".intercalate words).toList
  let (text, goesOn) := if form.hasEscapes then echoText text.length text else (text, true)
  finish name (text ++ if form.isOpen || !goesOn then [] else ['\n']) 0

def logicalDirectory (environment : List String) (here : String) : Work String := do
  match valueOf? environment "PWD" with
  | none => return here
  | some path =>
    let isStraight := path.startsWith "/" && !(path.splitOn "/").any fun s => s = "." || s = ".."
    if !isStraight then return here
    else
      match ← call (.status path true), ← call (.status "." true) with
      | .ok a, .ok b => return if a.way = b.way then path else here
      | _, _ => return here

def pwd : Tool := fun name words environment => do
  let o : Options :=
    { letters := [('L', .nothing), ('P', .nothing)],
      names := [("logical", .nothing), ("physical", .nothing)] }
  let items := o.read (isStrict environment) words
  match fault? items with
  | some message => misuse name message
  | none =>
    if !(operands items).isEmpty then complain name "ignoring non-option arguments"
    let kinds := items.filterMap fun
      | .option name _ => some (name = "L" || name = "logical")
      | _ => none
    let here ← call .directory
    let path ← if kinds.getLast?.getD (isStrict environment) then logicalDirectory environment here
      else pure here
    finish name (path ++ "\n").toList 0

def constant (status : Nat) : Tool := fun _ _ _ => return status

end Shorthand.Tool
