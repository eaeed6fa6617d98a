import Shorthand.Machine.Basic
import Shorthand.Posix.Startup
import Shorthand.Tool.Printf
import Shorthand.Tool.Sleep
import Shorthand.Tool.Small
import Shorthand.Tool.Tail
set_option autoImplicit false

namespace Shorthand

namespace Tool

def named : List (String × Tool) :=
  [("cat", cat), ("echo", echo), ("false", constant 1), ("printf", printf), ("pwd", pwd),
    ("sleep", sleep), ("tail", tail), ("true", constant 0)]

end Tool

namespace Machine

/-- What a program does with its arguments and its environment. One that is not known here does
nothing. -/
def standardProgram (program : String) (args environment : List String) : Course :=
  if program = "dash" then Posix.Startup.course args environment
  else
    match Tool.named.find? (·.1 = program) with
    | some (_, tool) => (tool (args.headD program) args.tail environment).course
    | none => .exit 0

def withFiles (files : FileTree) (directory : Way) (environment : List (String × String)) :
    Machine :=
  { files, directory, environment, program := standardProgram }

end Machine

end Shorthand
