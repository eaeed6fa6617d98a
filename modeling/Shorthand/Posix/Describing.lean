import Shorthand.Posix.Lookup
import Shorthand.Posix.Setting
set_option autoImplicit false

namespace Shorthand.Posix

namespace Describing

open Evaluator

def pathAt (path name : String) (index : Nat) : String :=
  ((Lookup.candidates path name)[index]?).getD name

def describe (path? : Option String) (isVerbose : Bool) (name : String) : Evaluator Nat := do
  let s ← get
  let say (words brief : String) : Evaluator Nat := do
    print ((if isVerbose then name ++ words else brief) ++ "\n")
    return 0
  if keywords.contains name then say " is a shell keyword" name
  else
    match s.aliases.find? (·.1 = name) with
    | some (_, text) => say (" is an alias for " ++ text) ("alias " ++ name ++ "=" ++ quoted text)
    | none =>
      let isTracked := path?.isNone && s.found.any (·.1 = name)
      let target ← match Lookup.known? s true name with
        | some (.program none) => do
          match ← call (.status name true) with
          | .ok _ => pure (Target.program none)
          | .error _ => pure Target.unknown
        | some target => pure target
        | none =>
          let t ← Lookup.find true path? true name
          pure t
      match target with
      | .function _ => say " is a shell function" name
      | .builtin b =>
        say (" is a " ++ (if b.isSpecial then "special " else "") ++ "shell builtin") name
      | .program none => say (" is " ++ name) name
      | .program (some index) =>
        let path ← match path? with
          | some path => pure path
          | none => Lookup.searchPath
        let place := pathAt path name index
        say (" is" ++ (if isTracked then " a tracked alias for" else "") ++ " " ++ place) place
      | .unknown =>
        if isVerbose then print (name ++ ": not found\n")
        return 127

def type (args : List String) : Evaluator Nat := do
  let codes ← args.mapM (describe none true)
  return codes.foldl Nat.lor 0

def command (args : List String) : Evaluator Nat := do
  let given ← Given.read "pvV" args
  match given.rest with
  | [] => return 0
  | name :: _ =>
    if given.has 'v' || given.has 'V' then
      describe (if given.has 'p' then some Lookup.standardPath else none) (given.has 'V') name
    else return 0

def hash (args : List String) : Evaluator Nat := do
  let given ← Given.read "r" args
  if given.has 'r' then
    modify fun s => { s with found := [] }
    return 0
  if given.rest.isEmpty then
    let path ← Lookup.searchPath
    print (String.join ((Setting.tabled 31 (← get).found).filterMap fun e =>
      match e.2 with
      | .program index => some (pathAt path e.1 index ++ "\n")
      | .builtin => none))
    return 0
  let codes ← given.rest.mapM fun name => do
    modify (Lookup.forget name)
    match ← Lookup.find true none false name with
    | .unknown => return 1
    | _ => return 0
  return codes.foldl max 0

end Describing

end Shorthand.Posix
