import Shorthand.Pool.Basic
/-!
A pool with the tasks that use it. Each call is a task that goes through stages, and between any two
stages other tasks may take their steps, so a run is any sequence of events that are possible one
after the other.
-/
set_option autoImplicit false

namespace Shorthand

/-- How far the submission of a command has come. -/
inductive Stage where
  /-- It is called; nothing is checked yet. -/
  | arrived
  /-- The pool takes it; there is no entry yet. -/
  | admitted
  /-- It has an entry and has not asked for a slot. -/
  | entered
  /-- It waits for a slot. -/
  | waiting
  /-- A slot was handed to it while it waited, and it has not noticed. -/
  | granted
  /-- It has a slot and is about to run. -/
  | holding
  | running
  /-- Its command has ended and is counted; it still has its slot. -/
  | finished (answer : Answer)
  | answered (answer : Answer)
  /-- The caller gave it up. -/
  | dropped
  deriving DecidableEq

inductive Closing where
  | arrived
  /-- No command is taken any more. -/
  | refusing
  | waiting
  | granted
  /-- It has all slots that it asked for. -/
  | holding
  /-- The entries and counts are dropped. -/
  | cleared
  | returned
  | dropped
  deriving DecidableEq

inductive Task where
  | submission (request : Request) (stage : Stage)
  | shutdown (stage : Closing)
  deriving DecidableEq

structure System where
  pool : Pool
  tasks : List Task := []
  deriving DecidableEq

inductive Event where
  /-- A command is submitted. -/
  | submit (request : Request)
  | shutDown
  /-- A task takes its next step. -/
  | advance (task : TaskId)
  /-- The command of a task ends, or turns out not to start. -/
  | finish (task : TaskId) (answer : Answer)
  /-- The caller gives a task up. -/
  | drop (task : TaskId)
  deriving DecidableEq

namespace Task

def grant : Task → Task
  | submission request .waiting => submission request .granted
  | shutdown .waiting => shutdown .granted
  | t => t

def answer? : Task → Option Answer
  | submission _ (.answered answer) => some answer
  | _ => none

def isOver : Task → Bool
  | submission _ (.answered _) | submission _ .dropped | shutdown .returned | shutdown .dropped =>
    true
  | _ => false

end Task

namespace System

def ofPool (pool : Pool) : System := { pool }

def task? (s : System) (id : TaskId) : Option Task := s.tasks[id]?

def setTask (s : System) (id : TaskId) (t : Task) : System := { s with tasks := s.tasks.set id t }

def setStage (s : System) (id : TaskId) (request : Request) (stage : Stage) : System :=
  s.setTask id (.submission request stage)

def setClosing (s : System) (id : TaskId) (stage : Closing) : System :=
  s.setTask id (.shutdown stage)

def withSlots (s : System) (change : Slots × List TaskId) : System :=
  { pool := { s.pool with slots := change.1 }
    tasks := change.2.foldl (fun tasks id => tasks.modify id Task.grant) s.tasks }

def giveBack (s : System) (count : Nat) : System := s.withSlots (s.pool.slots.giveBack count)

def turnAway (s : System) (id : TaskId) (request : Request) : System :=
  { s with pool := s.pool.forget id }.setStage id request
    (.answered (.error (.poolShutDown request.display)))

/-- The next step of a submission; none if it waits for something. -/
def advanceSubmission (s : System) (id : TaskId) (request : Request) : Stage → Option System
  | .arrived =>
    if s.pool.isAccepting then some (s.setStage id request .admitted)
    else some (s.setStage id request (.answered (.error (.poolShutDown request.display))))
  | .admitted => some ({ s with pool := s.pool.enter id request }.setStage id request .entered)
  | .entered =>
    let (reply, slots) := s.pool.slots.ask id 1
    let s := { s with pool := { s.pool with slots } }
    match reply with
    | .granted => some (s.setStage id request .holding)
    | .queued => some (s.setStage id request .waiting)
    | .refused => some (s.turnAway id request)
  | .waiting => if s.pool.slots.isClosed then some (s.turnAway id request) else none
  | .granted =>
    if s.pool.slots.isClosed then some ((s.giveBack 1).turnAway id request)
    else some (s.setStage id request .holding)
  | .holding => some ({ s with pool := s.pool.markRunning id }.setStage id request .running)
  | .finished answer => some ((s.giveBack 1).setStage id request (.answered answer))
  | .running | .answered _ | .dropped => none

/-- The next step of a shutdown; none if it waits for slots. -/
def advanceShutdown (s : System) (id : TaskId) : Closing → Option System
  | .arrived =>
    some ({ s with pool := { s.pool with isAccepting := false } }.setClosing id .refusing)
  | .refusing =>
    let (reply, slots) := s.pool.slots.ask id s.pool.shutdownCount
    let t := { s with pool := { s.pool with slots } }
    match reply with
    | .granted => some (t.setClosing id .holding)
    | .queued => some (t.setClosing id .waiting)
    | .refused => some ({ t with pool := t.pool.reset }.setClosing id .returned)
  | .waiting =>
    if s.pool.slots.isClosed then some ({ s with pool := s.pool.reset }.setClosing id .returned)
      else none
  | .granted =>
    if s.pool.slots.isClosed then
      let t := s.giveBack s.pool.shutdownCount
      some ({ t with pool := t.pool.reset }.setClosing id .returned)
    else some (s.setClosing id .holding)
  | .holding => some ({ s with pool := s.pool.reset }.setClosing id .cleared)
  | .cleared =>
    let t := { s with pool := { s.pool with slots := s.pool.slots.close } }
    some ((t.giveBack s.pool.shutdownCount).setClosing id .returned)
  | .returned | .dropped => none

/-- A caller gives up a submission. It can be given up where it waits for something, and before it
begins. -/
def dropSubmission (s : System) (id : TaskId) (request : Request) : Stage → Option System
  | .arrived => some (s.setStage id request .dropped)
  | .waiting =>
    let t := s.withSlots (s.pool.slots.leave id)
    some ({ t with pool := t.pool.forget id }.setStage id request .dropped)
  | .granted =>
    let t := s.giveBack 1
    some ({ t with pool := t.pool.forget id }.setStage id request .dropped)
  | .running => some ((s.giveBack 1).setStage id request .dropped)
  | _ => none

def dropShutdown (s : System) (id : TaskId) : Closing → Option System
  | .arrived => some (s.setClosing id .dropped)
  | .waiting => some ((s.withSlots (s.pool.slots.leave id)).setClosing id .dropped)
  | .granted => some ((s.giveBack s.pool.shutdownCount).setClosing id .dropped)
  | _ => none

def finishTask (s : System) (id : TaskId) (answer : Answer) : Option System :=
  match s.task? id with
  | some (.submission request .running) =>
    some ({ s with pool := s.pool.finish id answer.isSuccess }.setStage id request
      (.finished answer))
  | _ => none

/-- The state after an event; none if the event is not possible. -/
def step? (s : System) : Event → Option System
  | .submit request => some { s with tasks := s.tasks ++ [.submission request .arrived] }
  | .shutDown => some { s with tasks := s.tasks ++ [.shutdown .arrived] }
  | .advance id =>
    match s.task? id with
    | some (.submission request stage) => s.advanceSubmission id request stage
    | some (.shutdown stage) => s.advanceShutdown id stage
    | none => none
  | .finish id answer => s.finishTask id answer
  | .drop id =>
    match s.task? id with
    | some (.submission request stage) => s.dropSubmission id request stage
    | some (.shutdown stage) => s.dropShutdown id stage
    | none => none

def run? (s : System) (events : List Event) : Option System := events.foldlM step? s

end System

end Shorthand
