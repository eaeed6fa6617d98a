import Shorthand.Plan
import Shorthand.Pool.Basic
import Shorthand.Terminal.Output
import Shorthand.Text.Blank
set_option autoImplicit false

namespace Shorthand

inductive Fate where
  | answered (answer : Answer)
  /-- The task has no answer: it was given up or broke down, and this is told of it. -/
  | lost (reason : String)
  deriving DecidableEq

structure Outcome where
  label : String
  fate : Fate
  deriving DecidableEq

def Outcome.isSuccess (o : Outcome) : Bool :=
  match o.fate with
  | .answered answer => answer.isSuccess
  | .lost _ => false

namespace Report

def elapsed : String := "(<duration>)"

def heading (word : String) (count : Nat) : Output :=
  say [paint .dimmed ("┌─ Running '" ++ word ++ "' for " ++ toString count ++ " packages...")]

def announcement (p : Plan) : Output :=
  say [paint .dimmed "├─>", " ", paint (.plain .green) p.invocation.display]

def whole (channel : Channel) (text : String) : Output :=
  .raw channel (if text.toList.getLast? = some '\n' then text else text ++ "\n")

/-- How one command ended, and what it wrote: its errors only if it failed. -/
def outcome (o : Outcome) : List Output :=
  let complaint (text : String) : List Output :=
    [complain [paint (.plain .red) "✗", " ", paint .bold o.label, ": " ++ text]]
  match o.fate with
  | .lost reason => complaint reason
  | .answered (.error e) => complaint e.message
  | .answered (.ok e) =>
    let first :=
      if e.isSuccess then
        say [paint (.plain .green) "✓", " ", paint .bold o.label, " ", paint .dimmed elapsed]
      else say [paint (.plain .red) "✗", " ", paint .bold o.label, " ",
        paint (.plain .red) ("(exit code " ++ toString e.code ++ ")")]
    first :: (if Text.isAllBlank e.out then [] else [whole .out e.out]) ++
      (if e.isSuccess || e.err.isEmpty then [] else [whole .err e.err])

def failures (outcomes : List Outcome) : List String :=
  (outcomes.filter (!·.isSuccess)).map (·.label)

def closing (outcomes : List Outcome) : Output :=
  let failed := failures outcomes
  if failed.isEmpty then
    say [paint .dimmed ("└─ All " ++ toString outcomes.length ++ " packages succeeded.")]
  else
    say [paint (.plain .red) ("└─ " ++ toString failed.length ++ " of " ++
        toString outcomes.length ++ " packages failed:"),
      " ", paint .bold (", ".intercalate failed)]

def code (outcomes : List Outcome) : Nat := if (failures outcomes).isEmpty then 0 else 1

end Report

end Shorthand
