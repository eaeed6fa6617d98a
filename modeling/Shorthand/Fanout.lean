import Shorthand.Pool.System
import Shorthand.Report
/-!
A run over many packages. The call gives every plan a task of its own, in order, and then awaits the
tasks one after the other. Between any two acts of the call the tasks take their turns in whatever
order.
-/
set_option autoImplicit false

namespace Shorthand

/-- What comes of a task, if it is a submission that is over; of one without an answer this is
told. -/
def Task.fate? (reason : String) : Task → Option Fate
  | submission _ (.answered answer) => some (.answered answer)
  | submission _ .dropped => some (.lost reason)
  | _ => none

structure Fanout where
  /-- The plans that have no task yet. -/
  pending : List Plan
  /-- The labels and tasks whose outcomes are still to come. -/
  awaited : List (String × TaskId) := []
  outcomes : List Outcome := []
  outputs : List Output
  deriving DecidableEq

namespace Fanout

def ofPlans (word : String) (plans : List Plan) : Fanout :=
  { pending := plans, outputs := [Report.heading word plans.length] }

def spawn? (f : Fanout) (s : System) : Option (Fanout × System) :=
  match f.pending with
  | [] => none
  | plan :: rest =>
    (s.step? (.submit (plan.invocation.request true))).map fun t =>
      ({ f with
          pending := rest
          awaited := f.awaited ++ [(plan.label, s.tasks.length)]
          outputs := f.outputs ++ [Report.announcement plan] }, t)

def collect? (tell : TaskId → String) (f : Fanout) (s : System) : Option Fanout :=
  match f.pending, f.awaited with
  | [], (label, id) :: rest =>
    ((s.task? id).bind (Task.fate? (tell id))).map fun fate =>
      { f with
        awaited := rest
        outcomes := f.outcomes ++ [⟨label, fate⟩]
        outputs := f.outputs ++ Report.outcome ⟨label, fate⟩ }
  | _, _ => none

/-- What happens next: the call goes on, or a task takes a turn. -/
inductive Act where
  | spawn
  | collect
  | advance (task : TaskId)
  | finish (task : TaskId) (answer : Answer)
  | drop (task : TaskId)
  deriving DecidableEq

/-- The call and the pool after an act; `tell` has the words for a task that is lost. -/
def step? (tell : TaskId → String) (at_ : Fanout × System) : Act → Option (Fanout × System)
  | .spawn => at_.1.spawn? at_.2
  | .collect => (at_.1.collect? tell at_.2).map (·, at_.2)
  | .advance id => (at_.2.step? (.advance id)).map (at_.1, ·)
  | .finish id answer => (at_.2.step? (.finish id answer)).map (at_.1, ·)
  | .drop id => (at_.2.step? (.drop id)).map (at_.1, ·)

def run? (tell : TaskId → String) (at_ : Fanout × System) (acts : List Act) :
    Option (Fanout × System) :=
  acts.foldlM (step? tell) at_

def isDone (f : Fanout) : Bool := f.pending.isEmpty && f.awaited.isEmpty

/-- What the call has written when it returns, and its code. -/
def report (f : Fanout) : List Output × Nat :=
  (f.outputs ++ [Report.closing f.outcomes], Report.code f.outcomes)

end Fanout

end Shorthand
