import Shorthand.Machine.Call
import Shorthand.Tool.Options
import Shorthand.Tool.Quoted
set_option autoImplicit false

namespace Shorthand

abbrev Tool := (name : String) → (words environment : List String) → Work Nat

namespace Tool

open Work

def complain (name message : String) : Work Unit := do
  let _ ← writeAll 2 (name ++ ": " ++ message ++ "\n").toList

def misuse (name message : String) : Work Nat := do
  complain name message
  let _ ← writeAll 2 ("Try '" ++ name ++ " --help' for more information.\n").toList
  return 1

/-- What a tool has printed is written at its end. A text with a gap counts as one that was not
written. -/
def finish (name : String) (text : List Char) (status : Nat) (hasGap : Bool := false) :
    Work Nat := do
  match ← writeAll 1 text with
  | .ok _ =>
    if hasGap then
      complain name "write error"
      return 1
    return status
  | .error e =>
    complain name ("write error: " ++ e.text)
    return 1

def valueOf? (environment : List String) (name : String) : Option String :=
  let start := name.toList ++ ['=']
  (environment.find? fun e => start.isPrefixOf e.toList).map fun e =>
    .ofList (e.toList.drop start.length)

def isStrict (environment : List String) : Bool := (valueOf? environment "POSIXLY_CORRECT").isSome

def patience : Nat := 1000000000

end Tool

end Shorthand
