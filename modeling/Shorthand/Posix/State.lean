import Shorthand.Machine.Call
import Shorthand.Posix.Integer
import Shorthand.Posix.Limit
import Shorthand.Posix.Parser
import Shorthand.SortedMap
set_option autoImplicit false

namespace Shorthand.Posix

structure Variable where
  value : Option String := none
  isExported : Bool := false
  isReadOnly : Bool := false
  deriving DecidableEq, Repr

inductive Flag where
  | errexit | noglob | ignoreeof | interactive | monitor | noexec | stdin | xtrace | verbose | vi
  | emacs | noclobber | allexport | notify | nounset | privileged | nolog | debug
  deriving DecidableEq, Repr

namespace Flag

def named : List (Flag × String × Option Char) :=
  [(errexit, "errexit", 'e'), (noglob, "noglob", 'f'), (ignoreeof, "ignoreeof", 'I'),
    (interactive, "interactive", 'i'), (monitor, "monitor", 'm'), (noexec, "noexec", 'n'),
    (stdin, "stdin", 's'), (xtrace, "xtrace", 'x'), (verbose, "verbose", 'v'), (vi, "vi", 'V'),
    (emacs, "emacs", 'E'), (noclobber, "noclobber", 'C'), (allexport, "allexport", 'a'),
    (notify, "notify", 'b'), (nounset, "nounset", 'u'),
    (privileged, "privileged", 'p'), (nolog, "nolog", none), (debug, "debug", none)]

def ofLetter? (c : Char) : Option Flag := (named.find? (·.2.2 = some c)).map (·.1)

def ofName? (name : String) : Option Flag := (named.find? (·.2.1 = name)).map (·.1)

def rival? : Flag → Option Flag
  | vi => some emacs
  | emacs => some vi
  | _ => none

end Flag

inductive Skipping where
  | loops (count : Nat) (goesOn : Bool)
  | function (hasStatus : Bool)
  deriving DecidableEq, Repr

structure Worker where
  id : ProcessId
  ending : Option ProcessEnd := none
  deriving DecidableEq, Repr

structure Job where
  number : Nat
  members : List Worker
  /-- Whether it counts for the shell that goes on without it. -/
  isWaitedFor : Bool := false
  deriving DecidableEq, Repr

namespace Job

def isDone (j : Job) : Bool := j.members.all (·.ending.isSome)

def ending (j : Job) : ProcessEnd := ((j.members.getLast?.bind (·.ending))).getD (.exited 0)

def code (j : Job) : Nat := j.ending.code

end Job

inductive Saved where
  | variable_ (name : String) (v : Option Variable)
  | options (flags : List Flag)
  deriving DecidableEq, Repr

structure OptionCursor where
  index : Nat := 1
  offset : Option Nat := none
  deriving DecidableEq, Repr

structure PutAside where
  descriptor : Nat
  copy : Option Nat
  deriving DecidableEq, Repr

inductive Found where
  | program (index : Nat)
  | builtin
  deriving DecidableEq, Repr

structure State where
  name : String
  commandName : Option String := none
  line : Nat := 1
  readLine : Nat := 1
  endIsRead : Bool := false
  known : SortedMap Variable := ∅
  saved : List (List Saved) := []
  parameters : List String := []
  cursor : OptionCursor := {}
  flags : List Flag := []
  functions : SortedMap Command := ∅
  aliases : List (String × String) := []
  found : List (String × Found) := []
  traps : List (Signal × String) := []
  jobs : List Job := []
  background? : Option ProcessId := none
  ownId : ProcessId := 0
  status : Nat := 0
  savedStatus? : Option Nat := none
  outputStatus : Nat := 0
  skipping? : Option Skipping := none
  loopDepth : Nat := 0
  functionDepth : Nat := 0
  isSubshell : Bool := false
  isTracing : Bool := false
  directory : String := ""
  redirected : List (List PutAside) := []
  documents : List (Nat × Word) := []
  nextDocument : Nat := 0
  pending : List Signal := []
  hardIgnored : List Signal := []
  limits : List Limit := Limit.initial
  output : List Char := []

namespace State

def has (s : State) (f : Flag) : Bool := s.flags.contains f

def setFlag (s : State) (f : Flag) (isOn : Bool) : State :=
  { s with
    flags := if isOn then if s.has f then s.flags else f :: s.flags else s.flags.filter (· ≠ f) }

def get? (s : State) (name : String) : Option String := (s.known.get? name).bind (·.value)

def flagLetters (s : State) : String :=
  .ofList ((Flag.named.filter fun e => s.has e.1).filterMap (·.2.2)).reverse

def splitSetting (word : String) : String × Option String :=
  let name := word.toList.takeWhile (· ≠ '=')
  let rest := word.toList.drop name.length
  (.ofList name, if rest.isEmpty then none else some (.ofList rest.tail))

def readIndex (value : String) : Except String OptionCursor :=
  match count? value with
  | none => .error ("Illegal number: " ++ value)
  | some n => .ok { index := if n = 0 then 1 else n }

/-- A variable with a value or without one; marks are added to those that it has. -/
def put (s : State) (name : String) (value : Option String)
    (isExported isReadOnly : Bool := false) :
    Except String State := do
  let old := (s.known.get? name).getD {}
  if old.isReadOnly then throw (name ++ ": is read only")
  let isExported := isExported || s.has .allexport
  let s ← if name = "OPTIND" then (readIndex (value.getD "")).map fun cursor => { s with cursor }
    else pure s
  if value.isNone && !isExported && !isReadOnly then return { s with known := s.known.erase name }
  let v : Variable := { value, isExported := old.isExported || isExported, isReadOnly }
  return { s with
    known := s.known.insert name v
    found := if name = "PATH" then s.found.filter fun e => e.2 = .builtin else s.found }

/-- A variable under a name that may be wrong. Nothing behind an equals sign belongs to it. -/
def assign (s : State) (name : String) (value : Option String)
    (isExported isReadOnly : Bool := false) :
    Except String State :=
  let name := (splitSetting name).1
  if isName name then s.put name value isExported isReadOnly
    else .error (name ++ ": bad variable name")

def save (s : State) (what : Saved) : State :=
  { s with saved := match s.saved with
      | [] => []
      | l :: rest => (what :: l) :: rest }

def makeLocal (s : State) (word : String) (isExported : Bool := false) : Except String State := do
  if word = "-" then return s.save (.options s.flags)
  let (name, value) := splitSetting word
  match s.known.get? name with
  | some v =>
    let t := s.save (.variable_ name (some v))
    if value.isNone then return t else t.put name value isExported
  | none =>
    if value.isNone && !isName name then throw ((splitSetting name).1 ++ ": bad variable name")
    let t := s.save (.variable_ name none)
    let t ← t.put name value isExported
    let v : Variable := { value, isExported := isExported || s.has .allexport }
    return { t with known := t.known.insert name v }

def bringBack (s : State) : Saved → State
  | .options flags => { s with flags }
  | .variable_ name none => { s with known := s.known.erase name }
  | .variable_ name (some v) =>
    let s := { s with known := s.known.insert name v }
    if name = "OPTIND" then
      match readIndex (v.value.getD "") with
      | .ok cursor => { s with cursor }
      | .error _ => s
    else s

def unwind (s : State) (depth : Nat) : State :=
  let ended := s.saved.take (s.saved.length - depth)
  let s := { s with saved := s.saved.drop ended.length }
  ended.flatten.foldl bringBack s

/-- A name among those to be brought back that is none and cannot be taken away. -/
def badName? (s : State) (depth : Nat) : Option String :=
  (s.saved.take (s.saved.length - depth)).flatten.findSome? fun
    | .variable_ name none => if isName name then none else some name
    | _ => none

def environment (s : State) : List String :=
  s.known.entries.filterMap fun e =>
    if e.2.isExported then e.2.value.map fun v => e.1 ++ "=" ++ v else none

end State

def quoted (s : String) : String := .ofList (go s.toList.length s.toList)
where
  go : Nat → List Char → List Char
    | 0, _ => ['\'', '\'']
    | n + 1, s =>
      let plain := s.takeWhile (· ≠ '\'')
      let rest := s.drop plain.length
      let marks := rest.takeWhile (· = '\'')
      let after := rest.drop marks.length
      '\'' :: plain ++ ['\''] ++
        if marks.isEmpty then [] else '"' :: marks ++ ['"'] ++ if after.isEmpty then []
          else go n after

end Shorthand.Posix
