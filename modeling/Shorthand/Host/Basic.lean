import Shorthand.Machine.Call
import Shorthand.Pool.Basic
import Shorthand.Terminal.Output
import Shorthand.Text.Blank
set_option autoImplicit false

namespace Shorthand

class Host (σ : Type) where
  /-- A process for a request, or why there is none. -/
  start : Request → σ → Except SystemError (ProcessId × σ)
  /-- Time passes until a process ends that was started from outside, or until waiting for one
  fails; none if all that there are go on forever. -/
  next? : σ → Option ((ProcessId × Except SystemError Ending) × σ)
  /-- Nobody waits for a process any more. -/
  leave : ProcessId → σ → σ
  /-- What has come to the terminal since the last time. -/
  takeScreen : σ → List Output × σ

def launch {σ : Type} [Host σ] (request : Request) (s : σ) : Except RunError (ProcessId × σ) :=
  if Text.isAllBlank request.program then .error .emptyCommand
  else (Host.start request s).mapError (.notStarted request.display)

end Shorthand
