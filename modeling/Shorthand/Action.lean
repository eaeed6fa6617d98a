import Shorthand.Plan
import Shorthand.Terminal.Output
set_option autoImplicit false

namespace Shorthand

inductive Action where
  | tell (outputs : List Output) (code : Nat)
  | run (plan : Plan)
  | runMany (word : String) (plans : List Plan)
  deriving DecidableEq

namespace Action

def echo (plans : List Plan) : Action := tell (plans.map fun p => say [p.invocation.display]) 0

def ofPlan (plan : Plan) : Action := if plan.isEchoed then echo [plan] else run plan

def noMatch (coverage : Coverage) : Action :=
  tell
    [say [paint (.plain .yellow) ("No packages match '" ++ coverage.word ++ "'. Nothing to run.")]]
    0

def ofPlans (coverage : Coverage) (word : String) (plans : List Plan) : Action :=
  if plans.isEmpty then noMatch coverage
  else if plans.any (·.isEchoed) then echo plans
  else runMany word plans

end Action

namespace Workspace

def actAlias (w : Workspace) (short word : String) (flags : List String) :
    Except CommandError Action :=
  (w.planAlias short word flags).map .ofPlan

def actCommand (w : Workspace) (name : String) (words : List String) : Except CommandError Action :=
  (w.planCommand name words).map .ofPlan

def actMany (w : Workspace) (coverage : Coverage) (aliases : List String) (word : String)
    (flags : List String) : Except CommandError Action :=
  (w.planMany coverage aliases word flags).map (.ofPlans coverage word)

def announcement (w : Workspace) (plan : Plan) : List Output :=
  let trace := complain [paint .dimmed "[pae]", " " ++ plan.label ++ " (shell: " ++ w.shell.word ++
    ", nx task: " ++ toString (Shell.isInTask w.environment) ++ ")"]
  (if plan.isTraced then [trace] else []) ++
    [say [paint (.plain .blue) "→", " ", paint (.plain .green) plan.invocation.display]]

end Workspace

end Shorthand
