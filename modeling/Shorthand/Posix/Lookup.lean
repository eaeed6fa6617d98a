import Shorthand.Posix.Evaluator
set_option autoImplicit false

namespace Shorthand.Posix

inductive Builtin where
  | alias_ | background | bracket | break_ | changeDirectory | colon | command | continue_ | dot
  | echo | eval | exec | exit | export_ | false_ | foreground | getopts | hash | jobs | kill
  | local_ | printf | pwd | read | readonly | return_ | set | shift | test | times | trap | true_
  | type | ulimit | umask | unalias | unset | wait
  deriving DecidableEq, Repr

namespace Builtin

def named : List (String × Builtin) :=
  [(".", dot), (":", colon), ("[", bracket), ("alias", alias_), ("bg", background),
    ("break", break_), ("cd", changeDirectory), ("chdir", changeDirectory), ("command", command),
    ("continue", continue_), ("echo", echo), ("eval", eval), ("exec", exec), ("exit", exit),
    ("export", export_), ("false", false_),
    ("fg", foreground), ("getopts", getopts), ("hash", hash), ("jobs", jobs), ("kill", kill),
    ("local", local_), ("printf", printf), ("pwd", pwd), ("read", read), ("readonly", readonly),
    ("return", return_), ("set", set),
    ("shift", shift), ("test", test), ("times", times), ("trap", trap), ("true", true_),
    ("type", type), ("ulimit", ulimit), ("umask", umask), ("unalias", unalias), ("unset", unset),
    ("wait", wait)]

def ofName? (name : String) : Option Builtin := (named.find? (·.1 = name)).map (·.2)

def isSpecial (b : Builtin) : Bool :=
  [break_, colon, continue_, dot, eval, exec, exit, export_, local_, readonly, return_, set, shift,
    times, trap, unset].contains b

def takesSettings (b : Builtin) : Bool := [alias_, export_, local_, readonly].contains b

end Builtin

inductive Target where
  | function (body : Command)
  | builtin (b : Builtin)
  /-- A program in the directory of the search path with a number, or at the path that its name
  is. -/
  | program (index : Option Nat)
  | unknown

namespace Lookup

open Evaluator

def standardPath : String := "/usr/sbin:/usr/bin:/sbin:/bin"

def candidates (searchPath name : String) : List String :=
  (searchPath.splitOn ":").map fun place => if place.isEmpty then name else place ++ "/" ++ name

def searchPath : Evaluator String := do return ((← get).get? "PATH").getD ""

def firstProgram : Nat → SystemError → List String → Evaluator (Except SystemError Nat)
  | _, e, [] => return .error e
  | n, e, path :: rest => do
    match ← call (.status path true) with
    | .error .notFound | .error .misplaced => firstProgram (n + 1) e rest
    | .error e => firstProgram (n + 1) e rest
    | .ok status =>
      match status.node with
      | .program _ => return .ok n
      | _ => firstProgram (n + 1) .notPermitted rest

def reason : SystemError → String
  | .notFound | .misplaced => "not found"
  | e => e.text

def remember (name : String) (index : Nat) (s : State) : State :=
  if s.found.any (·.1 = name) then
    { s with found := s.found.map fun e => if e.1 = name then (name, .program index) else e }
  else { s with found := s.found ++ [(name, .program index)] }

def forget (name : String) (s : State) : State := { s with found := s.found.filter (·.1 ≠ name) }

def known? (s : State) (withFunctions : Bool) (name : String) : Option Target :=
  if name.toList.contains '/' then some (.program none)
  else
    match (s.functions.get? name).filter fun _ => withFunctions with
    | some body => some (.function body)
    | none => (Builtin.ofName? name).map .builtin

/-- What a name stands for in a search path. If there is nothing, it is said so unless one is
quiet. -/
def find (withFunctions : Bool) (path? : Option String) (isQuiet : Bool) (name : String) :
    Evaluator Target := do
  let s ← get
  match known? s withFunctions name with
  | some target => return target
  | none =>
    match (s.found.find? (·.1 = name)).filter fun _ => path?.isNone with
    | some (_, .program index) => return .program (some index)
    | _ =>
      let path ← match path? with
        | some path => pure path
        | none => searchPath
      match ← firstProgram 0 .notFound (candidates path name) with
      | .ok index =>
        if path?.isNone then modify (remember name index)
        return .program (some index)
      | .error e =>
        if !isQuiet then warn (name ++ ": " ++ reason e)
        return .unknown

def tryAll (args environment : List String) : SystemError → List String → Evaluator SystemError
  | e, [] => return e
  | e, path :: rest => do
    match ← call (.execute path args environment) with
    | .notFound | .misplaced => tryAll args environment e rest
    | e => tryAll args environment e rest

def execute {α : Type} (path? : Option String) (index : Nat) (args : List String) :
    Evaluator α := do
  let environment := (← get).environment
  let name := args.headD ""
  let e ← if name.toList.contains '/' then call (.execute name args environment)
    else do
      let path ← match path? with
        | some path => pure path
        | none => searchPath
      tryAll args environment .notFound ((candidates path name).drop index)
  let isMissing := [.notFound, .misplaced, .nameTooLong, .tooManyLinks].contains e
  setStatus (if isMissing then 127 else 126)
  warn (name ++ ": " ++ reason e)
  let _ ← flush
  stop .finish

end Lookup

end Shorthand.Posix
