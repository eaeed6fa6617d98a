import Shorthand.Flag.Expansion
import Shorthand.Invocation.Assignment
import Shorthand.Invocation.Basic
import Shorthand.Invocation.Script
/-!
From a base command and an expansion to the process to start. Fragments before the command that only
set variables go into the environment of the process. Any other fragment needs a shell, which then
gets the whole line.
-/
set_option autoImplicit false

namespace Shorthand

def fragmentWords (fragment : String) : List String :=
  if fragment.toList.any Text.isBlank then (Words.splitSome fragment).getD [fragment]
    else [fragment]

namespace Invocation

def assemble (shell : Shell) (before command : List String) : Except RunError Invocation :=
  let environment := before.filterMap Assignment.ofFragment?
  let script := (before.filter fun f => (Assignment.ofFragment? f).isNone).map Text.trim
  match script, command with
  | _, [] => .error .emptyCommand
  | [], program :: args => .ok { program, args, environment }
  | _ :: _, _ :: _ => do
    let line ← Script.line shell command
    let (program, args) := Script.interpreter shell
    .ok { program, args := args ++ [" ".intercalate script ++ " " ++ line], environment }

/-- The process for a base command with an expansion around it: first the words of the base, then
those of the fragments behind it, and last what passes through. -/
def build (shell : Shell) (base : List String) (e : Expansion) : Except RunError Invocation :=
  assemble shell e.fragments.before
    (wrap base [] (e.fragments.after.flatMap fragmentWords) ++ e.passthrough)

end Invocation

end Shorthand
