import Shorthand.Posix.Options
set_option autoImplicit false

namespace Shorthand.Posix

namespace Moving

open Evaluator

def straightened (path : String) : String :=
  let start := if path.startsWith "//" && !path.startsWith "///" then "//" else "/"
  let names := (path.splitOn "/").foldl (fun names name =>
    if name.isEmpty || name = "." then names
    else if name = ".." then names.drop 1
    else name :: names) ([] : List String)
  start ++ "/".intercalate names.reverse

def joined (directory path : String) : String :=
  if path.startsWith "/" then straightened path
  else straightened (directory ++ (if directory.endsWith "/" then "" else "/") ++ path)

def isPhysical (g : Given) : Bool := (g.options.getLast?.map (·.1)) = some 'P'

def go (isPhysical : Bool) (path : String) : Evaluator Bool := do
  let s ← get
  let target := if isPhysical then path else joined s.directory path
  match ← call (.enter target) with
  | .error _ => return false
  | .ok _ =>
    let directory ← if isPhysical then call .directory else pure target
    change (·.put "OLDPWD" (some s.directory) true)
    modify fun s => { s with directory }
    change (·.put "PWD" (some directory) true)
    return true

def isDirectory (path : String) : Evaluator Bool := do
  match ← call (.status path true) with
  | .ok status => return status.node = .directory
  | .error _ => return false

def isSearched (path : String) : Bool :=
  !(path.startsWith "/" || path = "." ||
    path = ".." || path.startsWith "./" || path.startsWith "../")

def firstPlace (path : String) : List String → Evaluator (Option (String × Bool))
  | [] => return none
  | place :: rest => do
    let candidate := if place.isEmpty then path else place ++ "/" ++ path
    if ← isDirectory candidate then return some (candidate, !place.isEmpty)
      else firstPlace path rest

def changeDirectory (args : List String) : Evaluator Nat := do
  let given ← Given.read "LP" args
  let s ← get
  let word := given.rest.head?
  let isBack := word = some "-"
  let path := if isBack then (s.get? "OLDPWD").getD "" else word.getD ((s.get? "HOME").getD "")
  let isElsewhere := isSearched path
  let path := if path.isEmpty then "." else path
  let place? ← if isElsewhere then firstPlace path (((s.get? "CDPATH").getD "").splitOn ":")
    else pure none
  let (target, isTold) := place?.getD (path, false)
  if !(← go (isPhysical given) target) then fail ("can't cd to " ++ path)
  if isBack || isTold then print ((← get).directory ++ "\n")
  return 0

def pwd (args : List String) : Evaluator Nat := do
  let given ← Given.read "LP" args
  let directory ← if isPhysical given then call .directory else pure (← get).directory
  print (directory ++ "\n")
  return 0

def start : Evaluator Unit := do
  let here ← call .directory
  let way? (path : String) : Evaluator (Option Way) := do
    return (← call (.status path true)).toOption.map (·.way)
  let said? := ((← get).get? "PWD").filter (·.startsWith "/")
  let directory ← match said? with
    | none => pure here
    | some said => do
      let a ← way? said
      let b ← way? "."
      pure (if a.isSome && a = b then said else here)
  modify fun s => { s with directory }
  change (·.put "PWD" (some directory) true)

end Moving

end Shorthand.Posix
