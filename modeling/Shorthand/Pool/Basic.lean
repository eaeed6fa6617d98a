import Shorthand.Invocation.Basic
import Shorthand.Invocation.Fault
import Shorthand.Pool.Slots
/-!
A pool in which at most so many commands run at once. It keeps an entry for every command that is
queued or runs, and counts those that have ended.
-/
set_option autoImplicit false

namespace Shorthand

structure Request where
  program : String
  args : List String := []
  environment : List (String × String) := []
  directory : Option String := none
  /-- Whether its output is kept for the answer instead of going to the terminal. -/
  isCaptured : Bool := false
  deriving DecidableEq, Repr

def Invocation.request (i : Invocation) (isCaptured : Bool) : Request :=
  { program := i.program, args := i.args, environment := i.environment, isCaptured }

def Request.display (r : Request) : String := displayCommand r.program r.args

structure Ending where
  code : Nat
  out : String := ""
  err : String := ""
  deriving DecidableEq, Repr

def Ending.isSuccess (e : Ending) : Bool := e.code = 0

abbrev Answer := Except RunError Ending

def Answer.isSuccess : Answer → Bool
  | .ok e => e.isSuccess
  | .error _ => false

instance : DecidableEq Answer
  | .ok a, .ok b => decidable_of_iff (a = b) (by simp)
  | .error a, .error b => decidable_of_iff (a = b) (by simp)
  | .ok _, .error _ | .error _, .ok _ => isFalse (by simp)

structure Entry where
  task : TaskId
  request : Request
  isRunning : Bool := false
  deriving DecidableEq, Repr

structure Metrics where
  active : Nat := 0
  queued : Nat := 0
  completed : Nat := 0
  failed : Nat := 0
  deriving DecidableEq, Repr

structure Pool where
  capacity : Nat
  slots : Slots
  /-- Whether new commands are taken. -/
  isAccepting : Bool := true
  /-- The commands that are queued or run, the oldest first. -/
  entries : List Entry := []
  completed : Nat := 0
  failed : Nat := 0
  deriving DecidableEq, Repr

namespace Pool

def capacityLimit : Nat := Nat.pow 2 61 - 1

def ofCapacity (capacity : Nat) : Pool :=
  { capacity := max capacity 1, slots := { free := max capacity 1 } }

def ofCapacity? (capacity : Nat) : Option Pool :=
  if capacity ≤ capacityLimit then some (ofCapacity capacity) else none

def metrics (p : Pool) : Metrics where
  active := p.entries.countP (·.isRunning)
  queued := p.entries.countP (!·.isRunning)
  completed := p.completed
  failed := p.failed

/-- The slots that a shutdown asks for: all of them, as far as one request can name them. -/
def shutdownCount (p : Pool) : Nat := min p.capacity (Nat.pow 2 32 - 1)

def enter (p : Pool) (task : TaskId) (request : Request) : Pool :=
  { p with entries := p.entries ++ [⟨task, request, false⟩] }

def markRunning (p : Pool) (task : TaskId) : Pool :=
  { p with
    entries := p.entries.map fun e => if e.task = task then { e with isRunning := true } else e }

/-- The entry of a command that is given up goes, unless the command runs. -/
def forget (p : Pool) (task : TaskId) : Pool :=
  { p with entries := p.entries.filter fun e => e.task ≠ task || e.isRunning }

/-- The entry of a command that has ended goes, and is counted if it was there. -/
def finish (p : Pool) (task : TaskId) (isSuccess : Bool) : Pool :=
  if p.entries.any (·.task = task) then
    { p with
      entries := p.entries.filter (·.task ≠ task)
      completed := p.completed + if isSuccess then 1 else 0
      failed := p.failed + if isSuccess then 0 else 1 }
  else p

def reset (p : Pool) : Pool := { p with entries := [], completed := 0, failed := 0 }

end Pool

end Shorthand
