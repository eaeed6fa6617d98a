set_option autoImplicit false

namespace Shorthand

inductive Shell where
  | pwsh
  | linux
  | cmd
  /-- Nothing in the environment tells which shell it is. -/
  | unknown
  deriving DecidableEq, Repr

namespace Shell

def word : Shell → String
  | pwsh => "pwsh"
  | linux => "linux"
  | cmd => "cmd"
  | unknown => "unknown"

def all : List Shell := [pwsh, linux, cmd, unknown]

def ofWord? (s : String) : Option Shell := all.find? (·.word = s)

end Shell

end Shorthand
