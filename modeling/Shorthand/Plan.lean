import Shorthand.Invocation.Assembly
import Shorthand.Settings
import Shorthand.Target
set_option autoImplicit false

namespace Shorthand

inductive CommandError where
  | resolve (e : ResolveError)
  | run (e : RunError)
  | unknownCommand (name : String)
  /-- The line of a command or a target has no words, or cannot be read. -/
  | badLine (name : String)
  deriving DecidableEq, Repr

def CommandError.message : CommandError → String
  | resolve e => e.message
  | run e => e.message
  | unknownCommand name => "Unknown expandable command '" ++ name ++ "'."
  | badLine name => "The command line for '" ++ name ++ "' is empty or could not be parsed."

structure Plan where
  label : String
  invocation : Invocation
  isEchoed : Bool
  isTraced : Bool
  deriving DecidableEq

/-- All that a plan depends on besides the words of the user. -/
structure Workspace where
  config : Config
  settings : Settings
  environment : Environment
  deriving DecidableEq

namespace Workspace

def shell (w : Workspace) : Shell := Shell.detect w.environment

def expander (w : Workspace) (context : Context) : Expander :=
  ⟨w.config.flagTable, context, w.shell⟩

def planBase (w : Workspace) (label : String) (base : List String) (context : Context)
    (words : List String) :
    Except RunError Plan := do
  let e := (w.expander context).expand words
  let invocation ← Invocation.build w.shell base e
  .ok { label
        invocation
        isEchoed := w.settings.echo || e.hasInternal "pae-echo"
        isTraced := e.hasInternal "pae-debug" }

/-- The base command for a target of a project: the line of an external target, or the task
runner. -/
def targetBase (w : Workspace) (project word : String) : Except CommandError (List String) :=
  let resolved := w.config.resolveTarget word
  if resolved.tier = .external then
    (Words.splitSome resolved.target).elim (.error (.badLine word)) .ok
  else .ok (w.settings.nxCommand ++ ["run", project ++ ":" ++ resolved.target])

def planResolved (w : Workspace) (r : Resolution) (word : String) (flags : List String) :
    Except CommandError Plan := do
  let base ← w.targetBase r.project word
  let context := Context.ofResolution r (w.config.resolveTarget word).target
  (w.planBase r.project base context flags).mapError .run

/-- A feature may name the variant to run it from, which counts where the alias names none. -/
def resolveFor (w : Workspace) (short word : String) : Except ResolveError Resolution :=
  match w.config.featureVariant? word with
  | some variant =>
    if w.config.isBaseAlias short then w.config.resolveVariant short variant
      else w.config.resolve short
  | none => w.config.resolve short

def planAlias (w : Workspace) (short word : String) (flags : List String) :
    Except CommandError Plan := do
  let r ← (w.resolveFor short word).mapError .resolve
  w.planResolved r word flags

def planCommand (w : Workspace) (name : String) (words : List String) :
    Except CommandError Plan := do
  match w.config.commands.get? name with
  | none => .error (.unknownCommand name)
  | some line =>
    match Words.splitSome line with
    | none => .error (.badLine name)
    | some base => (w.planBase name base {} words).mapError .run

/-- What a run over many packages covers: the packages that are named, or else all that match. -/
def resolutions (w : Workspace) (coverage : Coverage) (aliases : List String) :
    Except ResolveError (List Resolution) :=
  if aliases.isEmpty then .ok (w.config.covered coverage)
  else
    aliases.mapM fun short =>
      match coverage.variant? with
      | some variant => w.config.resolveVariant short variant
      | none => w.config.resolve short

def planMany (w : Workspace) (coverage : Coverage) (aliases : List String) (word : String)
    (flags : List String) : Except CommandError (List Plan) := do
  let rs ← (w.resolutions coverage aliases).mapError .resolve
  rs.mapM fun r => w.planResolved r word flags

end Workspace

end Shorthand
