import Shorthand.Action
import Shorthand.Fanout
import Shorthand.Pool.Simulation
set_option autoImplicit false

namespace Shorthand

/-- What comes of an action: what it writes, and its code or why a process did not run. -/
structure Performed where
  outputs : List Output
  result : Except RunError Nat

/-- What a task tells that is never over: nothing. The pool of a session answers every
submission. -/
def unanswered : Answer := .ok { code := 0 }

variable {σ : Type} [Host σ]

namespace Session

def runInvocation (i : Invocation) (s : Simulation σ) : Performed × Simulation σ :=
  let (answer, s) := s.submit (i.request false)
  let (outputs, s) := s.takeOutput
  (⟨outputs, (answer.getD unanswered).map (·.code)⟩, s)

def cancelled (id : TaskId) : String := "task " ++ toString id ++ " was cancelled"

def collectNext (at_ : Fanout × Simulation σ) (id : TaskId) : Fanout × Simulation σ :=
  let s := at_.2.wait id
  ((at_.1.collect? cancelled s.system).getD at_.1, s)

def runPlans (word : String) (plans : List Plan) (s : Simulation σ) : Fanout × Simulation σ :=
  let (f, system) :=
    plans.foldl (fun at_ _ => (at_.1.spawn? at_.2).getD at_) (Fanout.ofPlans word plans, s.system)
  (f.awaited.map (·.2)).foldl collectNext (f, { s with system }.settle)

end Session

def Workspace.perform (w : Workspace) (s : Simulation σ) : Action → Performed × Simulation σ
  | .tell outputs code => (⟨outputs, .ok code⟩, s)
  | .run plan =>
    let (performed, s) := Session.runInvocation plan.invocation s
    ({ performed with outputs := w.announcement plan ++ performed.outputs }, s)
  | .runMany word plans =>
    let (f, s) := Session.runPlans word plans s
    (⟨f.report.1, .ok f.report.2⟩, s)

end Shorthand
