import Shorthand.Posix.Job
import Shorthand.Posix.Options
set_option autoImplicit false

namespace Shorthand.Posix

namespace Signalling

open Evaluator

def signal? (least : Nat) (word : String) : Option Signal :=
  let s := word.toList
  let number := decimal s
  if !s.isEmpty && s.all Char.isDigit then (if number ≤ Signal.lastFree then some number else none)
  else (Signal.all.drop least).find? fun n => (Signal.name n).toList = s.map Char.toUpper

def disposition (action? : Option String) : Disposition :=
  match action? with
  | none => .standard
  | some action => if action.isEmpty then .ignored else .caught

def prepare (s : Signal) (action? : Option String) : Evaluator Unit := do
  if s ≠ 0 && s ≠ Signal.kill && s ≠ Signal.stop then
    if !(← get).hardIgnored.contains s then
      let before ← call (.disposition s)
      if before = .ignored && !(← get).traps.any (·.1 = s) then
        modify fun t => { t with hardIgnored := s :: t.hardIgnored }
      else call (.prepare s (disposition action?))

def setTrap (s : Signal) (action? : Option String) : Evaluator Unit := do
  prepare s action?
  modify fun t =>
    let others := t.traps.filter (·.1 ≠ s)
    { t with traps := match action? with
      | none => others
      | some action => others ++ [(s, action)] }

def listing (s : State) : String :=
  String.join (Signal.all.filterMap fun n => (s.traps.find? (·.1 = n)).map fun e =>
    "trap -- " ++ quoted e.2 ++ " " ++ Signal.name n ++ "\n")

def setTraps (action? : Option String) : List String → Evaluator Nat
  | [] => return 0
  | word :: rest => do
    match signal? 0 word with
    | none =>
      let _ ← write 2 ("trap: " ++ word ++ ": bad trap\n").toList
      return 1
    | some s =>
      setTrap s action?
      setTraps action? rest

def trap (args : List String) : Evaluator Nat := do
  let given ← Given.read "" args
  match given.rest with
  | [] =>
    print (listing (← get))
    return 0
  | [word] => setTraps none [word]
  | action :: words =>
    let isSignal := action.toList.all Char.isDigit && (signal? 0 action).isSome
    if isSignal then setTraps none (action :: words)
    else setTraps (if action = "-" then none else some action) words

def clearTraps : Evaluator Unit := do
  let set := (← get).traps.filter fun e => !e.2.isEmpty
  set.forM fun e => setTrap e.1 none
  modify fun s => { s with pending := [] }

def hasTraps (s : State) : Bool := s.traps.any fun e => !e.2.isEmpty

def killUsage : String :=
  "Usage: kill [-s sigspec | -signum | -sigspec] [pid | job]... or\nkill -l [exitstatus]"

/-- The process that a word names; a job stands for a group of processes, and there are none. -/
def target (word : String) : Evaluator Int := do
  match word.toList with
  | '%' :: _ =>
    match Job.find (← get) (some word) with
    | .ok j => return -(((j.members.head?.map (·.id)).getD 0 : Nat) : Int)
    | .error e => fail e
  | '-' :: r => return -((← count (.ofList r)) : Int)
  | _ => return (← count word)

def send (s : Signal) (words : List String) : Evaluator Nat := do
  let codes ← words.mapM fun word => do
    match ← call (.kill (← target word) s) with
    | .ok _ => return 0
    | .error e =>
      warn (e.text ++ "\n")
      return 1
  return codes.foldl max 0

def names (words : List String) : Evaluator Nat := do
  match words with
  | [] =>
    print ("0\n" ++ String.join (Signal.all.tail.map fun n => Signal.name n ++ "\n"))
    return 0
  | word :: _ =>
    let n ← count word
    let s := if n > 128 then n - 128 else n
    if 0 < s && s ≤ Signal.lastFree then
      print (Signal.name s ++ "\n")
      return 0
    else fail ("invalid signal number or exit status: " ++ word)

def kill (args : List String) : Evaluator Nat := do
  let send? (s : Signal) (words : List String) : Evaluator Nat :=
    if words.isEmpty then fail killUsage else send s words
  match args with
  | [] => fail killUsage
  | word :: rest =>
    match word.toList with
    | '-' :: r =>
      match signal? 1 (.ofList r) with
      | some s => send? s rest
      | none =>
        let given ← Given.read "l" args "s"
        let signals ← (given.options.filter (·.1 = 's')).mapM fun e =>
          match signal? 1 e.2 with
          | some s => pure s
          | none => fail ("invalid signal number or name: " ++ e.2)
        if given.has 'l' then
          if signals.isEmpty || given.rest.isEmpty then names given.rest else fail killUsage
        else send? (signals.getLast?.getD Signal.terminate) given.rest
    | _ => send Signal.terminate args

def showJob (given : Given) (j : Job) : Evaluator Unit := do
  if (given.options.getLast?.map (·.1)) = some 'p' then
    print (((j.members.head?.map fun w => toString w.id).getD "") ++ "\n")
  else
    let withId := given.has 'l'
    print (Job.line (← get) withId j ++ Job.further withId j ++ "\n")
    if j.isDone then modify (Job.remove j.number)

def jobs (args : List String) : Evaluator Nat := do
  let given ← Given.read "lp" args
  if given.rest.isEmpty then
    Job.drain none
    (← get).jobs.forM (showJob given)
  else
    given.rest.forM fun name => do
      match Job.find (← get) (some name) with
      | .ok j => showJob given j
      | .error e => fail e
  return 0

/-- A job brought to the front or sent back, which only a shell that controls jobs can do. -/
def move (args : List String) : Evaluator Nat := do
  let given ← Given.read "" args
  let name? := given.rest.head?
  match Job.find (← get) name? with
  | .ok _ => fail ("job " ++ name?.getD "(null)" ++ " not created under job control")
  | .error e => fail e

def waitFor (isOver : State → Bool) : Nat → Evaluator (Option Nat)
  | 0 => return none
  | n + 1 => do
    if isOver (← get) then return none
    match ← Job.waitOnce none true with
    | .ended => waitFor isOver n
    | .nothing => return none
    | .signalled =>
      match (← get).pending with
      | [] => waitFor isOver n
      | s :: _ => return some (128 + s)

/-- A wait for one job. The end of a process that was killed is told. A signal counts even if the
job is over when it is noticed, as long as others are not. -/
def waitForJob (number : Nat) : Nat → Evaluator (Option Nat)
  | 0 => return none
  | n + 1 => do
    let s ← get
    if !((Job.job? s number).any fun j => !j.isDone) then
      collect
      return ((← get).pending.head?.filter fun _ => s.jobs.any (!·.isDone)).map (128 + ·)
    match ← Job.waitOnce (some number) true with
    | .ended => waitForJob number n
    | .nothing => return none
    | .signalled =>
      match (← get).pending with
      | [] => waitForJob number n
      | s :: _ => return some (128 + s)

def waitEach (code : Nat) : List String → Evaluator Nat
  | [] => return code
  | word :: rest => do
    let s ← get
    let job? ← match word.toList with
      | '%' :: _ =>
        match Job.find s (some word) with
        | .ok j => pure (some j)
        | .error e => fail e
      | _ =>
        let id ← count word
        pure (s.jobs.find? fun j => (j.members.getLast?.map (·.id)) = some id)
    match job? with
    | none => waitEach 127 rest
    | some j =>
      match ← waitForJob j.number Parser.patience with
      | some code => return code
      | none =>
        let mark (k : Job) : Job :=
          if k.number = j.number then { k with isWaitedFor := true } else k
        modify fun s => { s with jobs := s.jobs.map mark }
        waitEach (((Job.job? (← get) j.number).map Job.code).getD 127) rest

def wait (args : List String) : Evaluator Nat := do
  let given ← Given.read "" args
  if given.rest.isEmpty then
    match ← waitFor (fun s => s.jobs.all Job.isDone) Parser.patience with
    | some code => return code
    | none =>
      modify fun s => { s with jobs := s.jobs.map fun j => { j with isWaitedFor := true } }
      return 0
  else waitEach 127 given.rest

def setLimit (l : Limit) (isSoft isHard : Bool) (word : String) : Evaluator Unit := do
  let some bound := l.bound? word | fail "bad number"
  match l.bounded (if isSoft then bound else l.soft) (if isHard then bound else l.hard) with
  | .error e => fail ("error setting limit (" ++ e.text ++ ")")
  | .ok new =>
    modify fun s =>
      { s with limits := s.limits.map fun m => if m.letter = l.letter then new else m }

def ulimit (args : List String) : Evaluator Nat := do
  let given ← Given.read ("HSa" ++ .ofList Limit.letters) args
  let side? := (given.options.filter fun e => e.1 = 'H' || e.1 = 'S').getLast?.map (·.1)
  let isSoft := side? ≠ some 'H'
  let isHard := side? ≠ some 'S'
  let letter :=
    ((given.options.filter fun e => Limit.letters.contains e.1).getLast?.map (·.1)).getD 'f'
  let shown (l : Limit) : String := l.shown (if isSoft then l.soft else l.hard) ++ "\n"
  let limits := (← get).limits
  let chosen := limits.filter (·.letter = letter)
  match given.rest with
  | [] =>
    if given.has 'a' then
      print (String.join (limits.map fun l =>
        l.name ++ .ofList (List.replicate (20 - l.name.length) ' ') ++ " " ++ shown l))
    else print (String.join (chosen.map shown))
  | word :: others =>
    if given.has 'a' || !others.isEmpty then fail "too many arguments"
    chosen.forM fun l => setLimit l isSoft isHard word
  return 0

end Signalling

end Shorthand.Posix
