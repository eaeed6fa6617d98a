import Shorthand.Action
import Shorthand.Cli.Help
import Shorthand.Cli.Route
import Shorthand.Config.Search
import Shorthand.Pool.Basic
set_option autoImplicit false

namespace Shorthand

inductive CliError where
  | command (e : CommandError)
  | resolve (e : ResolveError)
  | load (e : LoadError)
  | unknownWord (word : String)
  | noTarget
  /-- There is no pool of the size that the settings ask for. -/
  | tooManySlots
  deriving DecidableEq, Repr

def CliError.message (inColor : Bool) : CliError → String
  | command e => e.message
  | resolve e => e.message
  | load e => e.message
  | unknownWord word => Line.render inColor ["'", paint (.plain .cyan) word,
      "' is neither a command nor a configured alias. Run ", paint .bold "pae help",
        " to list them."]
  | noTarget => Line.render inColor
      ["A target is required. Usage: ",
        paint .bold "pae ext|core|all <target> [aliases...] [flags...]"]
  | tooManySlots =>
    "a semaphore may not have more than MAX_PERMITS permits (" ++ toString Pool.capacityLimit ++ ")"

/-- The message with the causes behind it: a process that could not start tells its cause once
more. -/
def CliError.report (inColor : Bool) (e : CliError) : String :=
  match e with
  | command (.run (.notStarted _ cause)) => e.message inColor ++ ": " ++ cause.message
  | _ => e.message inColor

structure App where
  workspace : Workspace
  configPath : String
  deriving DecidableEq

/-- What comes of a command line: an action, after some warnings. -/
structure Dispatched where
  warnings : List String := []
  action : Except CliError Action

namespace App

def config (a : App) : Config := a.workspace.config

def help (a : App) : Action := .tell (Help.all a.config a.configPath) 0

def reportProblems (a : App) : Action :=
  .tell (complain [paint (.strong .red) "Invalid configuration:", " " ++ a.configPath] ::
    a.config.problems.map fun p =>
      complain ["  ", paint (.plain .red) "✗", " ", paint (.plain .red) p.message]) 1

def validate (a : App) : Action :=
  if a.config.isValid then
    .tell [say [paint (.plain .green) "✓", " Configuration '" ++ a.configPath ++ "' is valid."]] 0
  else a.reportProblems

def takeTarget (words : List String) : Option (String × List String) :=
  match words with
  | [] => none
  | word :: rest => if Text.startsWith '-' word then none else some (word, rest)

/-- Aliases right behind the target narrow a run over many packages to those. -/
def many (a : App) (coverage : Coverage) (words : List String) : Except CliError Action :=
  match takeTarget words with
  | none => .error .noTarget
  | some (word, rest) =>
    (a.workspace.actMany coverage (rest.takeWhile a.config.hasAlias) word
      (rest.dropWhile a.config.hasAlias)).mapError .command

def describe (a : App) (short : String) : Except CliError Action := do
  let r ← (a.config.resolve short).mapError .resolve
  .ok (.tell
    ([Help.blank,
      say ["--- ", paint (.strong .yellow) "Alias", " ", paint (.plain .cyan) short, " ---"],
      Help.row (.plain .blue) "package" [r.package],
      Help.row (.plain .blue) "variant" [r.variant.getD "(none)"],
      Help.row (.plain .blue) "project" [r.project]] ++
      Help.targets a.config ++
      [Help.blank, say ["Usage: ", paint .bold ("pae " ++ short ++ " <target> [flags...]")]])
    0)

def runAlias (a : App) (short : String) (words : List String) : Dispatched :=
  match takeTarget words with
  | some (word, flags) => { action := (a.workspace.actAlias short word flags).mapError .command }
  | none =>
    { warnings :=
        if words.isEmpty then [] else ["Ignoring flags without a target: " ++ " ".intercalate words]
      action := a.describe short }

def runBuiltin (a : App) (words : List String) : Builtin → Except CliError Action
  | .help => .ok a.help
  | .validate => .ok a.validate
  | .many coverage => a.many coverage words

def isAllowed (a : App) : Route → Bool
  | .builtin b => a.config.isValid || b.toleratesProblems
  | _ => a.config.isValid

def dispatch (a : App) : List String → Dispatched
  | [] => { action := .ok a.help }
  | word :: rest =>
    let route := a.config.route word
    if !a.isAllowed route then { action := .ok a.reportProblems }
    else
      match route with
      | .builtin b => { action := a.runBuiltin rest b }
      | .command => { action := (a.workspace.actCommand word rest).mapError .command }
      | .aliased => a.runAlias word rest
      | .unknown => { action := .error (.unknownWord word) }

end App

end Shorthand
