import Shorthand.Words.Quote
set_option autoImplicit false

namespace Shorthand

structure Invocation where
  program : String
  args : List String := []
  environment : List (String × String) := []
  deriving DecidableEq, Repr

/-- A program with its arguments as a line for a shell; words that cannot be quoted stand as they
are. -/
def displayCommand (program : String) (args : List String) : String :=
  (Words.join (program :: args)).getD (" ".intercalate (program :: args))

namespace Invocation

def words (i : Invocation) : List String := i.program :: i.args

def displayVariable (v : String × String) : String := v.1 ++ "=" ++ (Words.quote v.2).getD v.2

/-- The line to copy into a shell: the variables first. -/
def display (i : Invocation) : String :=
  " ".intercalate (i.environment.map displayVariable ++ [displayCommand i.program i.args])

end Invocation

end Shorthand
