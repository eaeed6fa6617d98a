import Shorthand.Host.Basic
import Shorthand.Pool.System
/-!
A pool at work on a host. Its tasks take every step that they can, those that came first before the
others; time passes only while somebody waits for a task, from one end of a process to the next.
-/
set_option autoImplicit false

namespace Shorthand

structure Child where
  process : ProcessId
  task : TaskId
  request : Request
  /-- Whether its start was noted, and its end will be. -/
  isTracked : Bool
  deriving DecidableEq, Repr

/-- The answer to a command whose process has ended, or could not be waited for. -/
def Child.answer (c : Child) (ended : Except SystemError Ending) : Answer :=
  ended.mapError (.notStarted c.request.display)

structure Journal where
  spawned : List (String × List String) := []
  exited : List (String × Nat) := []
  deriving DecidableEq, Repr

structure Simulation (σ : Type) where
  system : System
  host : σ
  /-- The processes that run, in the order of their starts. -/
  children : List Child := []
  isTracked : Bool := false
  journal : Journal := {}

namespace Simulation

variable {σ : Type} [Host σ]

def ofPool (pool : Pool) (host : σ) : Simulation σ := { system := .ofPool pool, host }

def pool (s : Simulation σ) : Pool := s.system.pool

def startProcess (s : Simulation σ) (id : TaskId) (request : Request) : Simulation σ :=
  match launch request s.host with
  | .error e => { s with system := (s.system.step? (.finish id (.error e))).getD s.system }
  | .ok (process, host) =>
    { s with
      host
      children := s.children ++ [⟨process, id, request, s.isTracked⟩]
      journal :=
        if s.isTracked then
          { s.journal with spawned := s.journal.spawned ++ [(request.program, request.args)] }
        else s.journal }

/-- The next step of the first task that can take one. -/
def advance? (s : Simulation σ) : Option (Simulation σ) :=
  (List.range s.system.tasks.length).findSome? fun id =>
    (s.system.step? (.advance id)).map fun system =>
      let s := { s with system }
      match system.task? id with
      | some (.submission request .running) => s.startProcess id request
      | _ => s

def settleFor : Nat → Simulation σ → Simulation σ
  | 0, s => s
  | n + 1, s =>
    match s.advance? with
    | some s => settleFor n s
    | none => s

/-- All steps that are possible at this time. No task takes more than ten. -/
def settle (s : Simulation σ) : Simulation σ := settleFor (10 * s.system.tasks.length) s

def noteEnd (s : Simulation σ) (child : Child) : Except SystemError Ending → Journal
  | .ok ending =>
    if child.isTracked then
      { s.journal with exited := s.journal.exited ++ [(child.request.program, ending.code)] }
    else s.journal
  | .error _ => s.journal

/-- Time passes until the process of a task ends, or waiting for it fails. -/
def finishNext? (s : Simulation σ) : Option (Simulation σ) := do
  let ((process, ended), host) ← Host.next? s.host
  let child ← s.children.find? (·.process = process)
  let system ← s.system.step? (.finish child.task (child.answer ended))
  some (settle { s with
    system
    host
    children := s.children.filter (·.process ≠ process)
    journal := s.noteEnd child ended })

def isOver (s : Simulation σ) (id : TaskId) : Bool := (s.system.task? id).all Task.isOver

def waitFor (id : TaskId) : Nat → Simulation σ → Simulation σ
  | 0, s => s
  | n + 1, s =>
    if s.isOver id then s
    else
      match s.finishNext? with
      | some s => waitFor id n s
      | none => s

/-- Time passes until a task is over. Every end of a process is the end of a task. -/
def wait (id : TaskId) (s : Simulation σ) : Simulation σ := waitFor id (s.system.tasks.length + 1) s

def nextTask (s : Simulation σ) : TaskId := s.system.tasks.length

def begin (event : Event) (s : Simulation σ) : Simulation σ :=
  settle { s with system := (s.system.step? event).getD s.system }

/-- A caller gives up a task. A process that runs for it goes on, but nobody waits for it. -/
def drop (id : TaskId) (s : Simulation σ) : Simulation σ :=
  match s.system.step? (.drop id) with
  | none => s
  | some system =>
    let (given, children) := s.children.partition (·.task = id)
    settle { s with
      system, children, host := given.foldl (fun host c => Host.leave c.process host) s.host }

def answer? (s : Simulation σ) (id : TaskId) : Option Answer :=
  (s.system.task? id).bind Task.answer?

def submit (request : Request) (s : Simulation σ) : Option Answer × Simulation σ :=
  let id := s.nextTask
  let s := (s.begin (.submit request)).wait id
  (s.answer? id, s)

def shutDown (s : Simulation σ) : Simulation σ := (s.begin .shutDown).wait s.nextTask

def track (s : Simulation σ) : Simulation σ := { s with isTracked := true, journal := {} }

def takeJournal (s : Simulation σ) : Journal × Simulation σ := (s.journal, { s with journal := {} })

/-- What has come to the terminal since the last time. -/
def takeOutput (s : Simulation σ) : List Output × Simulation σ :=
  let (outputs, host) := Host.takeScreen s.host
  (outputs, { s with host })

end Simulation

end Shorthand
