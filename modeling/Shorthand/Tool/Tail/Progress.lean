import Shorthand.Tool.Tail.Request
/-!
How far a tool has come that shows the ends of files: what it has printed, and which files it goes
on to show. What is printed is written in pieces: when enough of it is there, before something is
said about a file, and at the end.
-/
set_option autoImplicit false

namespace Shorthand.Tool.Tail

open Work

inductive Trouble where
  | none
  /-- It is of a kind that does not grow. -/
  | unfit
  | error (e : SystemError)
  deriving DecidableEq, Repr

structure Watched where
  path : String
  label : String
  descriptor? : Option Nat := none
  isIgnored : Bool := false
  isTailable : Bool := true
  trouble : Trouble := .none
  seen? : Option FileNode := none
  position : Nat := 0
  deriving DecidableEq, Repr

structure Progress where
  /-- What has been printed and not written. -/
  waiting : List Char := []
  /-- Whether something could not be written. -/
  isSpoilt : Bool := false
  status : Nat := 0
  /-- Whether no name of a file has been shown yet. -/
  isFirst : Bool := true
  hasReadInput : Bool := false
  files : List Watched := []
  deriving DecidableEq, Repr

abbrev Showing := StateT Progress Work

def openApart (path : String) : Work (Except SystemError Nat) := do
  match ← call (.openFile path { reads := true }) with
  | .ok descriptor =>
    if 2 < descriptor then return .ok descriptor
    else
      let apart ← call (.copyFrom descriptor 3)
      let _ ← call (.close descriptor)
      return apart
  | .error e => return .error e

namespace Showing

/-- What has been printed is written. If that fails it is lost. -/
def flush : Showing (Option SystemError) := do
  let text := (← get).waiting
  modify fun p => { p with waiting := [] }
  match ← writeAll 1 text with
  | .ok _ => return none
  | .error e =>
    modify fun p => { p with isSpoilt := true }
    return some e

def tell (name message : String) : Showing Unit := do
  let _ ← flush
  complain name message

def blame (name message : String) : Showing Unit := do
  tell name message
  modify fun p => { p with status := 1 }

def conclude {α : Type} (name : String) (status : Nat) : Showing α := do
  let fault? ← flush
  if (← get).isSpoilt then
    let isClosed := (← call (.inspect 1)).toOption.isNone
    let fault? := if isClosed then some .badDescriptor else fault?
    complain name ("write error" ++ (fault?.map fun e => ": " ++ e.text).getD "")
    exit 1
  exit status

def fail {α : Type} (name message : String) : Showing α := do
  tell name message
  conclude name 1

def roomFor (isKnown : Bool) : Nat := if isKnown then 4096 else 8192

def emit (name : String) (text : List Char) : Showing Unit := do
  let before := (← get).waiting
  modify fun p => { p with waiting := before ++ text }
  let size := before.length + text.length
  if roomFor true ≤ size then
    let room := roomFor (← call (.inspect 1)).toOption.isSome
    if room < size || (before.isEmpty && room = size) then
      if let some e ← flush then
        complain name ("error writing 'standard output': " ++ e.text)
        exit 1

def head (name label : String) : Showing Unit := do
  let isFirst := (← get).isFirst
  modify fun p => { p with isFirst := false }
  emit name ((if isFirst then "" else "\n") ++ "==> " ++ label ++ " <==\n").toList

def settle (name : String) : Showing Unit := do
  if let some e ← flush then fail name ("write error: " ++ e.text)

def change (i : Nat) (f : Watched → Watched) : Showing Unit :=
  modify fun p => { p with files := p.files.modify i f }

end Showing

end Shorthand.Tool.Tail
