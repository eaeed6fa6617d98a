import Shorthand.Machine.Error
set_option autoImplicit false

namespace Shorthand

inductive RunError where
  /-- A script cannot hold U+0000. -/
  | nulInCommand
  | emptyCommand
  /-- There was no process, or it could not be waited for. -/
  | notStarted (command : String) (cause : SystemError)
  | poolShutDown (command : String)
  deriving DecidableEq, Repr

def RunError.message : RunError → String
  | nulInCommand => "Command could not be parsed: command contains a nul byte"
  | emptyCommand => "No command specified to run."
  | notStarted command cause =>
    "Command '" ++ command ++ "' could not be executed: " ++ cause.message
  | poolShutDown command => "The process pool is shut down; '" ++ command ++ "' was not started."

end Shorthand
